import Querymap.Element
import Querymap.Proofs.Declaration
import Querymap.Proofs.Pug.TagHeads

/-! Names of element types. The type of a tag is a name that declarations may hold unless a colon stands in
the tag. -/
namespace Querymap

namespace Text

/-- The pieces of a text hold all of it but the characters it is cut at. -/
theorem flatten_splitAt (cut : Char → Bool) (text : List Char) :
    (splitAt cut text).flatten = text.filter (!cut ·) := by
  induction text with
  | nil => rfl
  | cons c rest ih =>
    obtain ⟨piece, pieces, some⟩ := List.exists_cons_of_ne_nil (splitAt_ne_nil cut rest)
    rw [some] at ih
    cases cuts : cut c <;> simp_all [splitAt]

end Text

namespace Element

def isNameStart (c : Char) : Bool := c.isAlpha || c == '_' || c == '$'

def isNamePart (c : Char) : Bool := isNameStart c || c.isDigit

/-- A name that a declaration may give to a type. -/
def IsTypeName (text : List Char) : Prop :=
  ∃ first rest, text = first :: rest ∧ isNameStart first = true ∧ rest.all isNamePart = true

instance : DecidablePred IsTypeName
  | [] => isFalse (by rintro ⟨_, _, _, _⟩; contradiction)
  | first :: rest => decidable_of_iff (isNameStart first = true ∧ rest.all isNamePart = true)
    ⟨fun ⟨start, parts⟩ => ⟨first, rest, rfl, start, parts⟩,
      fun ⟨_, _, same, start, parts⟩ => by cases same; exact ⟨start, parts⟩⟩

section

variable {text name : List Char}

theorem IsTypeName.isNamePart (valid : IsTypeName text) : ∀ c ∈ text, isNamePart c = true := by
  obtain ⟨first, rest, rfl, start, parts⟩ := valid
  exact List.forall_mem_cons.2 ⟨by simp [Element.isNamePart, start], List.all_eq_true.1 parts⟩

theorem isTypeName_iff : IsTypeName text ↔
    (∃ c ∈ text.head?, isNameStart c = true) ∧ ∀ c ∈ text, isNamePart c = true := by
  constructor
  · intro valid
    obtain ⟨first, rest, rfl, start, _⟩ := id valid
    exact ⟨⟨first, rfl, start⟩, valid.isNamePart⟩
  · rintro ⟨⟨first, head, start⟩, parts⟩
    obtain ⟨rest, rfl⟩ := List.head?_eq_some_iff.1 head
    exact ⟨first, rest, rfl, start, List.all_eq_true.2 fun c member => parts c (.tail _ member)⟩

end

/-- A property of all ASCII characters, as a computation says. -/
theorem of_ascii {p : Char → Bool} (all : ∀ n < 128, p (Char.ofNat n) = true) {c : Char}
    (ascii : c.toNat < 128) : p c = true := by
  simpa [Char.ofNat_toNat] using all c.toNat ascii

/-- The ASCII characters of tag names without the hyphen and the colon may stand in names of types, in upper
case as well. -/
theorem isNamePart_of_tag {c : Char} (ascii : c.toNat < 128)
    (tag : (Text.isWord c || Pug.isNameJoint c) = true) (hyphen : c ≠ '-') (colon : c ≠ ':') :
    isNamePart c = true ∧ isNamePart c.toUpper = true := by
  have each := of_ascii (p := fun c => !(Text.isWord c || Pug.isNameJoint c) || c == '-' || c == ':' ||
    (isNamePart c && isNamePart c.toUpper)) (by decide) ascii
  simpa [tag, hyphen, colon] using each

theorem isNameStart_toUpper {c : Char} (ascii : c.toNat < 128) (letter : c.isAlpha = true) :
    isNameStart c.toUpper = true := by
  have each := of_ascii (p := fun c => !c.isAlpha || isNameStart c.toUpper) (by decide) ascii
  simpa [letter] using each

/-- A name that a template may give to a tag, in ASCII characters and with a letter first. -/
structure IsPlainTag (name : List Char) : Prop where
  tag : Pug.IsTagName name
  ascii : ∀ c ∈ name, c.toNat < 128
  letter : ∀ c ∈ name.head?, c.isAlpha = true

instance (name : List Char) : Decidable (IsPlainTag name) :=
  decidable_of_iff (Pug.IsTagName name ∧ name.all (·.toNat < 128) = true ∧
    name.head?.all Char.isAlpha = true)
    ⟨fun ⟨tag, ascii, letter⟩ => ⟨tag, fun c member => of_decide_eq_true (List.all_eq_true.1 ascii c member),
        (Option.all_eq_true _ _).1 letter⟩,
      fun ⟨tag, ascii, letter⟩ => ⟨tag, List.all_eq_true.2 fun c member => decide_eq_true (ascii c member),
        (Option.all_eq_true _ _).2 letter⟩⟩

theorem capitalize_cons {c : Char} (ascii : c.toNat < 128) (rest : List Char) :
    capitalize (c :: rest) = c.toUpper :: rest := by
  rw [capitalize, Text.uppercase, if_pos ascii]
  rfl

section

variable {name : List Char}

/-- The words of a name without its hyphens, one behind the other. -/
def pascal (name : List Char) : List Char := (Text.splitAt (· == '-') name).flatMap capitalize

theorem mem_piece {piece : List Char} {c : Char} (piece_mem : piece ∈ Text.splitAt (· == '-') name)
    (member : c ∈ piece) : c ∈ name ∧ c ≠ '-' := by
  have := List.mem_flatten_of_mem piece_mem member
  rw [Text.flatten_splitAt] at this
  simpa using this

theorem IsPlainTag.mem_pascal (plain : IsPlainTag name) {d : Char} (member : d ∈ pascal name) :
    ∃ c ∈ name, c ≠ '-' ∧ (d = c ∨ d = c.toUpper) := by
  obtain ⟨piece, piece_mem, member⟩ := List.mem_flatMap.1 member
  cases piece with
  | nil => contradiction
  | cons c rest =>
    obtain ⟨inside, apart⟩ := mem_piece piece_mem List.mem_cons_self
    rw [capitalize_cons (plain.ascii c inside)] at member
    rcases List.mem_cons.1 member with rfl | later
    · exact ⟨c, inside, apart, .inr rfl⟩
    · obtain ⟨inside, apart⟩ := mem_piece piece_mem (.tail _ later)
      exact ⟨d, inside, apart, .inl rfl⟩

theorem IsPlainTag.colon_mem_pascal (plain : IsPlainTag name) (member : ':' ∈ name) : ':' ∈ pascal name := by
  have kept : ':' ∈ (Text.splitAt (· == '-') name).flatten := by
    rw [Text.flatten_splitAt]
    simpa using member
  obtain ⟨piece, piece_mem, inside⟩ := List.mem_flatten.1 kept
  refine List.mem_flatMap.2 ⟨piece, piece_mem, ?_⟩
  cases piece with
  | nil => contradiction
  | cons c rest =>
    rw [capitalize_cons (plain.ascii c (mem_piece piece_mem List.mem_cons_self).1)]
    rcases List.mem_cons.1 inside with rfl | later
    · exact List.mem_cons_self
    · exact .tail _ later

/-- The first word begins with the first letter of the name. -/
theorem IsPlainTag.head?_pascal (plain : IsPlainTag name) :
    ∃ c ∈ (pascal name).head?, isNameStart c = true := by
  obtain ⟨c, rest, rfl⟩ := List.exists_cons_of_ne_nil plain.tag.nonempty
  have letter := plain.letter c rfl
  have apart : (c == '-') = false := by
    rw [beq_eq_false_iff_ne]
    rintro rfl
    contradiction
  have ascii := plain.ascii c List.mem_cons_self
  refine ⟨c.toUpper, ?_, isNameStart_toUpper ascii letter⟩
  obtain ⟨piece, pieces, split⟩ := List.exists_cons_of_ne_nil (Text.splitAt_ne_nil (· == '-') rest)
  simp [pascal, Text.splitAt, apart, split, capitalize_cons ascii]

theorem synthesized_eq (name : List Char) : synthesized name =
    (if name.contains '-' then [] else "HTML".toList) ++ pascal name ++ "Element".toList := rfl

theorem IsPlainTag.isTypeName_synthesized_iff (plain : IsPlainTag name) :
    IsTypeName (synthesized name) ↔ ':' ∉ name := by
  rw [synthesized_eq]
  constructor
  · intro valid member
    have part := valid.isNamePart ':' (by simp [plain.colon_mem_pascal member])
    contradiction
  · intro apart
    refine isTypeName_iff.2 ⟨?_, fun d member => ?_⟩
    · split
      · obtain ⟨c, head, start⟩ := plain.head?_pascal
        exact ⟨c, by simp [Option.mem_def.1 head], start⟩
      · exact ⟨'H', rfl, rfl⟩
    · rcases List.mem_append.1 member with front | back
      · rcases List.mem_append.1 front with lead | inside
        · have leads : ∀ c ∈ "HTML".toList, isNamePart c = true := List.all_eq_true.1 (by decide)
          split at lead
          · exact absurd lead List.not_mem_nil
          · exact leads d lead
        · obtain ⟨c, member, hyphen, same⟩ := plain.mem_pascal inside
          have colon : c ≠ ':' := fun same => apart (same ▸ member)
          obtain ⟨lower, upper⟩ :=
            isNamePart_of_tag (plain.ascii c member) (plain.tag.inside c member) hyphen colon
          obtain rfl | rfl := same
          · exact lower
          · exact upper
      · have ends : ∀ c ∈ "Element".toList, isNamePart c = true := List.all_eq_true.1 (by decide)
        exact ends d back

end

/-- The table has no tag with a colon and gives names only. -/
theorem known?_cases {name type : String} (known : known? name = some type) :
    IsTypeName type.toList ∧ ':' ∉ name.toList := by
  unfold known? at known
  split at known
  all_goals first
    | contradiction
    | (cases known; exact ⟨by decide, by decide⟩)

theorem isTypeName_typeName {name : String} (plain : IsPlainTag name.toList) :
    IsTypeName (typeName (some name) []).toList ↔ ':' ∉ name.toList := by
  have base : typeName (some name) [] =
      (known? name).getD (String.ofList (synthesized name.toList)) := rfl
  rw [base]
  cases known : known? name with
  | some type =>
    obtain ⟨valid, apart⟩ := known?_cases known
    exact iff_of_true valid apart
  | none => simpa using plain.isTypeName_synthesized_iff

end Element

namespace Declaration

/-- A line that gives a key the name of a type. -/
def IsTypeLine (depth : Nat) (text : Chars) : Prop :=
  ∃ key type, Element.IsTypeName type.toList ∧ text = line String.toList depth (key, type)

/-- A line tells which key it has and which type. -/
theorem line_inj {depth : Nat} {entry other : String × String}
    (same : line String.toList depth entry = line String.toList depth other) : entry = other := by
  have split (entry : String × String) : line String.toList depth entry =
      (indent depth ++ ['"']) ++ (entry.1.toList.flatMap Text.escape ++
        '"' :: ([':', ' '] ++ entry.2.toList ++ [';', '\n'])) := by
    simp [line, Text.quoted]
  rw [split, split] at same
  have read := congrArg JsonValue.stringAfter? (List.append_cancel_left same)
  rw [Text.stringAfter?_quoted, Text.stringAfter?_quoted] at read
  simp only [Option.some.injEq, Prod.mk.injEq, List.append_cancel_left_eq,
    List.append_cancel_right_eq, String.toList_inj] at read
  exact Prod.ext read.1 read.2

theorem isTypeLine_iff {depth : Nat} {key type : String} :
    IsTypeLine depth (line String.toList depth (key, type)) ↔ Element.IsTypeName type.toList := by
  constructor
  · rintro ⟨otherKey, otherType, valid, same⟩
    cases line_inj same
    exact valid
  · exact fun valid => ⟨key, type, valid, rfl⟩

/-- Every entry has its line in the text of its dictionary. -/
theorem exists_line {dict : Dict String} {entry : String × String} (depth : Nat)
    (member : entry ∈ dict.entries) :
    ∃ before after, types depth dict = before ++ line String.toList depth entry ++ after := by
  obtain ⟨first, last, split⟩ := List.append_of_mem member
  have filled : dict.isEmpty = false := by
    rw [Dict.isEmpty, split]
    cases first <;> rfl
  refine ⟨['{', '\n'] ++ first.flatMap (line String.toList depth),
    last.flatMap (line String.toList depth) ++ indent (depth - 1) ++ ['}'], ?_⟩
  have text : types depth dict = ['{', '\n'] ++ dict.entries.flatMap (line String.toList depth) ++
      indent (depth - 1) ++ ['}'] := by
    rw [types, body, filled]
    rfl
  rw [text, split]
  simp

end Declaration

open Declaration in
/-- The type of a tag is a name, and the lines of declarations that hold it are well formed, exactly if no
colon stands in the tag. -/
theorem Element.isTypeName_typeName_iff (name : String) (plain : IsPlainTag name.toList) :
    (IsTypeName (typeName (some name) []).toList ↔ ':' ∉ name.toList) ∧
      ∀ depth (dict : Dict String) key, dict.get? key = some (typeName (some name) []) →
        ∃ before text after, types depth dict = before ++ text ++ after ∧
          text = line String.toList depth (key, typeName (some name) []) ∧
          (IsTypeLine depth text ↔ ':' ∉ name.toList) := by
  have valid := isTypeName_typeName plain
  refine ⟨valid, fun depth dict key listed => ?_⟩
  obtain ⟨before, after, text⟩ := exists_line depth (Dict.get?_eq_some_iff.1 listed)
  exact ⟨before, _, after, text, rfl, isTypeLine_iff.trans valid⟩

/-- A custom element with an underscore and a digit in its name. -/
theorem Element.isTypeName_typeName_rating : IsPlainTag "star-rating_2".toList ∧
    ':' ∉ "star-rating_2".toList ∧ typeName (some "star-rating_2") [] = "StarRating_2Element" ∧
    IsTypeName "StarRating_2Element".toList := by
  have plain : IsPlainTag "star-rating_2".toList := by decide
  have type : typeName (some "star-rating_2") [] = "StarRating_2Element" := by decide
  exact ⟨plain, by decide, type, type ▸ (isTypeName_typeName_iff "star-rating_2" plain).1.2 (by decide)⟩

/-- The colon of a tag gets into the name of its type. -/
theorem Element.typeName_rect : IsPlainTag "svg:rect".toList ∧
    typeName (some "svg:rect") [] = "HTMLSvg:rectElement" ∧
    ¬IsTypeName (typeName (some "svg:rect") []).toList :=
  ⟨by decide, by decide, by decide⟩

end Querymap
