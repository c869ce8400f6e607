import Querymap.Proofs.Pug.Heads

/-! Heads of tags in full: names with `-` and `:` inside, shorthands and attribute lists. A head is read
as its tag unless the first word of its name is a keyword. -/
namespace Querymap.Pug

/-- A tag name: word characters, with `-` and `:` inside. -/
structure IsTagName (name : List Char) : Prop where
  nonempty : name ≠ []
  inside : ∀ c ∈ name, (Text.isWord c || isNameJoint c) = true
  first : ∀ c ∈ name.head?, Text.isWord c = true
  last : ∀ c ∈ name.getLast?, Text.isWord c = true

instance (name : List Char) : Decidable (IsTagName name) :=
  decidable_of_iff (name ≠ [] ∧ name.all (fun c => Text.isWord c || isNameJoint c) = true ∧
    name.head?.all Text.isWord = true ∧ name.getLast?.all Text.isWord = true)
    ⟨fun ⟨nonempty, inside, first, last⟩ => ⟨nonempty, List.all_eq_true.1 inside,
        (Option.all_eq_true _ _).1 first, (Option.all_eq_true _ _).1 last⟩,
      fun ⟨nonempty, inside, first, last⟩ => ⟨nonempty, List.all_eq_true.2 inside,
        (Option.all_eq_true _ _).2 first, (Option.all_eq_true _ _).2 last⟩⟩

/-- What stands behind the name of a tag. -/
inductive HeadPart
  | id (name : List Char)
  | class (name : List Char)
  /-- An attribute list, without its parentheses. -/
  | list (inner : List Char)

namespace HeadPart

def print : HeadPart → List Char
  | .id name => '#' :: name
  | .class name => '.' :: name
  | .list inner => '(' :: (inner ++ [')'])

def attributes : HeadPart → List Attribute
  | .id name => [⟨"id", .literal (String.ofList name)⟩]
  | .class name => [⟨"class", .literal (String.ofList name)⟩]
  | .list inner => readAttributes inner

/-- The names are what the shorthands take; the list is on one line and closed at its end. -/
def Valid : HeadPart → Prop
  | .id name => name ≠ [] ∧ name.all isIdChar = true
  | .class name => name.any isClassLetter = true ∧ name.all isClassChar = true
  | .list inner => matchingBracket? ')' ('(' :: (inner ++ [')'])) = some (inner.length + 1) ∧
    '\n' ∉ inner

instance (part : HeadPart) : Decidable part.Valid :=
  match part with
  | .id _ | .class _ | .list _ => inferInstanceAs (Decidable (_ ∧ _))

end HeadPart

section Parts

variable {part : HeadPart} {parts : List HeadPart} {after : List Char}

/-- What may stand behind the parts of a head: nothing, or an expansion. -/
def EndsHead (after : List Char) : Prop := after = [] ∨ ∃ text, after = ':' :: ' ' :: text

theorem EndsHead.head? (ends : EndsHead after) {c : Char} (head : c ∈ after.head?) : c = ':' := by
  rcases ends with rfl | ⟨text, rfl⟩ <;> cases head
  rfl

/-- Every part begins with a mark of its own. -/
theorem head?_parts (ends : EndsHead after) {c : Char}
    (head : c ∈ (parts.flatMap HeadPart.print ++ after).head?) :
    c = '#' ∨ c = '.' ∨ c = '(' ∨ c = ':' := by
  cases parts with
  | nil => exact .inr (.inr (.inr (ends.head? head)))
  | cons part parts =>
    cases part <;> cases head <;> simp

theorem splitShorthand?_id {name : List Char} (valid : (HeadPart.id name).Valid)
    (stops : ∀ c ∈ after.head?, isIdChar c = false) :
    splitShorthand? (HeadPart.print (.id name) ++ after) =
      some (⟨"id", .literal (String.ofList name)⟩, after) := by
  obtain ⟨nonempty, inside⟩ := valid
  have inside := List.all_eq_true.1 inside
  simp [HeadPart.print, splitShorthand?, Text.takeWhile_append_all inside stops,
    Text.dropWhile_append_all inside stops, nonempty]

theorem splitShorthand?_class {name : List Char} (valid : (HeadPart.class name).Valid)
    (stops : ∀ c ∈ after.head?, isClassChar c = false) :
    splitShorthand? (HeadPart.print (.class name) ++ after) =
      some (⟨"class", .literal (String.ofList name)⟩, after) := by
  obtain ⟨lettered, inside⟩ := valid
  have inside := List.all_eq_true.1 inside
  simp [HeadPart.print, splitShorthand?, Text.takeWhile_append_all inside stops,
    Text.dropWhile_append_all inside stops, lettered]

theorem readParentheses_list {inner : List Char} (valid : (HeadPart.list inner).Valid)
    (number : Nat) (lines : List Line) :
    readParentheses number (HeadPart.print (.list inner) ++ after) lines =
      .ok (inner, after, ⟨lines, List.suffix_refl _⟩) := by
  have found := matchingFrom_append after valid.1
  rw [readParentheses.eq_def, HeadPart.print, matchingBracket?, found]
  simp

/-- The parts of a head are read one after the other. -/
theorem readTagAttributes_parts (valid : ∀ part ∈ parts, part.Valid) (ends : EndsHead after)
    (number : Nat) (lines : List Line) :
    readTagAttributes number (parts.flatMap HeadPart.print ++ after) lines =
      .ok (parts.flatMap HeadPart.attributes, after, ⟨lines, List.suffix_refl _⟩) := by
  induction parts with
  | nil =>
    rcases ends with rfl | ⟨text, rfl⟩
    · exact readTagAttributes_nil number lines
    · rw [List.flatMap_nil, List.nil_append, readTagAttributes]
      rfl
  | cons part parts ih =>
    obtain ⟨first, others⟩ := List.forall_mem_cons.1 valid
    rw [List.flatMap_cons, List.append_assoc]
    cases part with
    | id name =>
      have stops : ∀ c ∈ (parts.flatMap HeadPart.print ++ after).head?, isIdChar c = false := by
        intro c head
        rcases head?_parts ends head with rfl | rfl | rfl | rfl <;> decide
      rw [readTagAttributes_shorthand (splitShorthand?_id first stops), ih others]
      rfl
    | «class» name =>
      have stops : ∀ c ∈ (parts.flatMap HeadPart.print ++ after).head?, isClassChar c = false := by
        intro c head
        rcases head?_parts ends head with rfl | rfl | rfl | rfl <;> decide
      rw [readTagAttributes_shorthand (splitShorthand?_class first stops), ih others]
      rfl
    | list inner =>
      rw [readTagAttributes_list rfl (readParentheses_list first number lines), ih others]
      rfl

theorem HeadPart.Valid.trimmed (valid : part.Valid) : Text.Trimmed part.print := by
  cases part with
  | id name =>
    refine .of_solid (by simp [print]) (List.forall_mem_cons.2 ⟨rfl, fun c member => ?_⟩)
    exact Text.isBlank_eq_false (by decide +kernel) (List.all_eq_true.1 valid.2 c member)
  | «class» name =>
    refine .of_solid (by simp [print]) (List.forall_mem_cons.2 ⟨rfl, fun c member => ?_⟩)
    exact Text.isBlank_eq_false (by decide +kernel) (List.all_eq_true.1 valid.2 c member)
  | list inner =>
    exact (trimmed_symbol '(' rfl).append inner valid.2 (trimmed_symbol ')' rfl)

theorem trimmed_parts {start : List Char} (trimmed : Text.Trimmed start)
    (valid : ∀ part ∈ parts, part.Valid) :
    Text.Trimmed (start ++ parts.flatMap HeadPart.print) := by
  induction parts generalizing start with
  | nil => simpa using trimmed
  | cons part parts ih =>
    obtain ⟨first, others⟩ := List.forall_mem_cons.1 valid
    have := ih (trimmed.append [] (by simp) first.trimmed) others
    simpa using this

end Parts

section Names

variable {name after : List Char}

/-- A tag name is taken as a whole; joints behind it are left, since they end no name. -/
theorem splitTagName?_of_isTagName (valid : IsTagName name) (joints : List Char)
    (joint : ∀ c ∈ joints, isNameJoint c = true)
    (ends : ∀ c ∈ after.head?, Text.isWord c = false ∧ isNameJoint c = false) :
    splitTagName? (name ++ (joints ++ after)) = some (name, joints ++ after) := by
  have taken : (name ++ (joints ++ after)).takeWhile (fun c => Text.isWord c || isNameJoint c) =
      name ++ joints := by
    rw [← List.append_assoc]
    refine Text.takeWhile_append_all (fun c member => ?_) (fun c head => ?_)
    · rcases List.mem_append.1 member with inside | behind
      · exact valid.inside c inside
      · rw [joint c behind, Bool.or_true]
    · rw [(ends c head).1, (ends c head).2, Bool.false_or]
  have kept : Text.dropEndWhile isNameJoint (name ++ joints) = name := by
    rw [Text.dropEndWhile_append_all name joint]
    refine Text.dropEndWhile_of_getLast? fun c last => ?_
    have word := valid.last c last
    refine Bool.eq_false_iff.2 fun joint => ?_
    simp only [isNameJoint, Bool.or_eq_true, beq_iff_eq] at joint
    rcases joint with rfl | rfl <;> contradiction
  cases name with
  | nil => exact absurd rfl valid.nonempty
  | cons c rest =>
    rw [List.cons_append] at taken ⊢
    rw [splitTagName?, if_pos (valid.first c rfl), taken, kept]
    simp

theorem IsTagName.head?_append (valid : IsTagName name) {c : Char}
    (head : c ∈ (name ++ after).head?) : Text.isWord c = true := by
  cases name with
  | nil => exact absurd rfl valid.nonempty
  | cons first rest => exact valid.first c head

theorem IsTagName.trimmed (valid : IsTagName name) : Text.Trimmed name :=
  .of_solid valid.nonempty fun c member =>
    Text.isBlank_eq_false (p := fun c => Text.isWord c || isNameJoint c) (by decide +kernel)
      (valid.inside c member)

variable {parts : List HeadPart}

theorem splitTagName?_head (valid : IsTagName name) (parts : List HeadPart) (ends : EndsHead after) :
    splitTagName? (name ++ (parts.flatMap HeadPart.print ++ after)) =
      some (name, parts.flatMap HeadPart.print ++ after) := by
  have plain {rest : List Char} (stops : ∀ c ∈ rest.head?, c = '#' ∨ c = '.' ∨ c = '(') :
      splitTagName? (name ++ rest) = some (name, rest) := by
    refine splitTagName?_of_isTagName valid [] (by simp) fun c head => ?_
    rcases stops c head with rfl | rfl | rfl <;> decide
  cases parts with
  | nil =>
    rcases ends with rfl | ⟨text, rfl⟩
    · exact plain (by simp)
    · -- The colon of an expansion is a joint that ends no name.
      exact splitTagName?_of_isTagName valid [':'] (by simp [isNameJoint]) (by simp; decide)
  | cons part parts =>
    refine plain fun c head => ?_
    cases part <;> cases head <;> simp

theorem takeWhile_head (name : List Char) (parts : List HeadPart) (ends : EndsHead after) :
    (name ++ (parts.flatMap HeadPart.print ++ after)).takeWhile Text.isWord =
      name.takeWhile Text.isWord := by
  refine Text.takeWhile_append_stop name fun c head => ?_
  rcases head?_parts ends head with rfl | rfl | rfl | rfl <;> decide

/-- A head that begins with no keyword is read up to what follows its parts. -/
theorem readForm_tagName (valid : IsTagName name) (parted : ∀ part ∈ parts, part.Valid)
    (ends : EndsHead after) (free : String.ofList (name.takeWhile Text.isWord) ∉ keywords)
    (number : Nat) (lines : List Line) :
    readForm number (name ++ (parts.flatMap HeadPart.print ++ after)) lines =
      (readTail number after).map fun tail =>
        (.tag (String.ofList name) (parts.flatMap HeadPart.attributes) tail,
          ⟨lines, List.suffix_refl _⟩) := by
  have unreserved : splitKeyword? (name ++ (parts.flatMap HeadPart.print ++ after)) = none := by
    rwa [splitKeyword?_eq_none_iff, takeWhile_head name parts ends]
  have tagged := splitTagName?_head valid parts ends
  have unslashed : withoutSlash after = after := by
    rcases ends with rfl | ⟨text, rfl⟩ <;> rfl
  rw [readForm_of_word fun c head => valid.head?_append head, unreserved, tagged]
  simp [readTag, tagged, readTagAttributes_parts parted ends, unslashed]

end Names

section Templates

variable {name : List Char} {parts : List HeadPart}

/-- A node that a line with a keyword starts is no tag. -/
def Node.isTag : Node → Bool
  | .tag .. => true
  | _ => false

theorem Node.isTag_extend (node : Node) (nodes : Block) : (node.extend nodes).isTag = node.isTag := by
  cases node <;> rfl

theorem readKeyword_isTag {number : Nat} {keyword : String} {rest : List Char} {form : Form}
    (read : readKeyword number keyword rest = .ok form) :
    (∃ node children, form = .node node children ∧ node.isTag = false) ∨ ∃ text, form = .when text := by
  unfold readKeyword at read
  split at read
  case h_7 | h_8 => exact .inr ⟨_, (Except.ok.inj read).symm⟩
  all_goals first
    | contradiction
    | (cases read; exact .inl ⟨_, _, rfl, rfl⟩)
    | (split at read <;> cases read; exact .inl ⟨_, _, rfl, rfl⟩)

/-- A line whose first word is a keyword is no tag. -/
theorem readLine_isTag {number : Nat} {text : List Char} {lines : List Line} {node : Node}
    {children : Children} {rest : Rest lines} (word : ∀ c ∈ text.head?, Text.isWord c = true)
    (reserved : String.ofList (text.takeWhile Text.isWord) ∈ keywords)
    (read : readLine number text lines = .ok (node, children, rest)) : node.isTag = false := by
  obtain ⟨⟨keyword, after⟩, found⟩ :=
    Option.ne_none_iff_exists'.1 fun none => splitKeyword?_eq_none_iff.1 none reserved
  have forms {form : Form} {rest : Rest lines} (read : readForm number text lines = .ok (form, rest)) :
      (∃ node children, form = .node node children ∧ node.isTag = false) ∨
        ∃ text, form = .when text := by
    rw [readForm_of_word word, found] at read
    obtain ⟨_, form, same⟩ := map_eq_ok read
    cases same
    exact readKeyword_isTag form
  rw [readLine] at read
  split at read
  case h_1 => contradiction
  case h_2 form =>
    cases read
    obtain ⟨_, _, ⟨⟩, plain⟩ | ⟨_, ⟨⟩⟩ := forms form
    exact plain
  case h_4 => cases read; rfl
  case h_5 =>
    obtain ⟨_, _, same⟩ := map_eq_ok read
    cases same
    rfl
  all_goals
    next form => obtain ⟨_, _, ⟨⟩, _⟩ | ⟨_, ⟨⟩⟩ := forms form

theorem readChildren_nil (level : Nat) (children : Children) :
    erase (readChildren level children []) = .ok ([], []) := by
  cases children with
  | block => exact readChildren_block_nil level
  | raw => exact readChildren_raw (by simp [Outside])
  | none => exact readChildren_none (by simp [Outside])
  | prose => rw [readChildren, readText]; rfl

/-- The one node of a template with one line. -/
theorem readLine_of_parse {content : String} {text : List Char} {block : Block}
    (cut : readLines content.toList = .ok [⟨1, 0, text⟩]) (parsed : parse content = .ok block) :
    ∃ node children rest, readLine 1 text [] = .ok (node, children, rest) ∧
      block = [node.extend []] := by
  have failed {error : ParseError}
      (read : erase (readNodes none 0 [] [⟨1, 0, text⟩]) = .error error) : False := by
    have := parse_of_error cut (by rwa [readBlock_none])
    rw [parsed] at this
    cases this
  cases branches : elseBranch? text with
  | some chained =>
    refine absurd ?_ (@failed ⟨1, .unexpectedElse⟩)
    simp [readNodes, branches, erase, Except.map]
  | none =>
    cases read : readLine 1 text [] with
    | error error =>
      refine absurd ?_ (@failed error)
      simp [readNodes, branches, read, erase, Except.map]
    | ok result =>
      obtain ⟨node, children, rest, suffix⟩ := result
      obtain rfl := List.suffix_nil.1 suffix
      have := parse_line cut branches read (readChildren_nil 0 children) rfl
      exact ⟨node, children, _, rfl, Except.ok.inj (parsed.symm.trans this)⟩

theorem readLines_text {text : List Char} (trimmed : Text.Trimmed text) :
    readLines text = .ok [⟨1, 0, text⟩] := by
  have lines := @readLines_print [⟨1, 0, text⟩] ⟨⟨rfl, trimmed⟩, trivial⟩
  rw [← readLines_concat]
  simpa [Line.print] using lines

/-- A tag name with shorthands and attribute lists is a template of one tag, provided that the word at
the start of the name is no keyword. -/
theorem parse_tagName_iff (valid : IsTagName name) (parted : ∀ part ∈ parts, part.Valid) :
    parse (String.ofList (name ++ parts.flatMap HeadPart.print)) =
        .ok [.tag (String.ofList name) (parts.flatMap HeadPart.attributes) []] ↔
      String.ofList (name.takeWhile Text.isWord) ∉ keywords := by
  have cut : readLines (String.ofList (name ++ parts.flatMap HeadPart.print)).toList =
      .ok [⟨1, 0, name ++ parts.flatMap HeadPart.print⟩] := by
    rw [String.toList_ofList]
    exact readLines_text (trimmed_parts valid.trimmed parted)
  have first : (name ++ parts.flatMap HeadPart.print).takeWhile Text.isWord =
      name.takeWhile Text.isWord := by
    simpa using takeWhile_head name parts (.inl rfl)
  constructor
  · intro parsed reserved
    obtain ⟨node, children, rest, read, same⟩ := readLine_of_parse cut parsed
    have untagged := readLine_isTag (fun c head => valid.head?_append head) (first ▸ reserved) read
    rw [← node.isTag_extend [], ← (List.cons.inj same).1] at untagged
    contradiction
  · intro free
    have read := readForm_tagName valid parted (.inl rfl) free 1 []
    rw [List.append_nil, readTail] at read
    exact parse_line cut (elseBranch?_of_free (first ▸ free)) (readLine_tag read)
      (readChildren_block_nil 0) rfl

theorem parse_tagName_panel :
    IsTagName "my-panel".toList ∧ (∀ part ∈ [HeadPart.id "main".toList], part.Valid) ∧
      parse "my-panel#main" = .ok [.tag "my-panel" [⟨"id", .literal "main"⟩] []] := by
  have named : IsTagName "my-panel".toList := by decide
  have parted : ∀ part ∈ [HeadPart.id "main".toList], part.Valid := by decide
  exact ⟨named, parted, (parse_tagName_iff named parted).2 (by decide)⟩

/-- A name that goes on behind a keyword with a hyphen is taken for the keyword. -/
theorem parse_if_panel : parse "if-panel#main" = .ok [.conditional [] .none] := by
  have cut : readLines "if-panel#main".toList = .ok [⟨1, 0, "if-panel#main".toList⟩] :=
    readLines_text (.of_any (by decide) (by decide))
  exact parse_line cut rfl (readLine_node rfl) (readChildren_block_nil 0) rfl

end Templates

end Querymap.Pug
