import Querymap.Declaration
import Querymap.Proofs.Dict
import Querymap.Proofs.Text.Quoted

/-! Declaration files read back. The text of a declaration file determines its model: keys are quoted,
and a type reaches to the end of its line. -/
namespace Querymap.Declaration

open JsonValue

/-! A reader of the five bodies. -/

/-- A type up to the semicolon that ends its line. -/
def readType (text : Chars) : Option (String × Chars) :=
  let line := text.takeWhile (· != '\n')
  if line.getLast? = some ';' then
    some (String.ofList line.dropLast, text.drop line.dropLast.length)
  else none

section

variable {β : Type} (value : Chars → Option (β × Chars))

/-- At most `limit` entries, each on a line of its own behind `depth` tabs. -/
def readEntries (depth : Nat) : (limit : Nat) → Chars → Option (List (String × β) × Chars)
  | 0, text => some ([], text)
  | limit + 1, text =>
    match Text.dropStart? (indent depth ++ ['"']) text with
    | none => some ([], text)
    | some rest => do
      let (some key, rest) ← stringAfter? rest | none
      let rest ← Text.dropStart? [':', ' '] rest
      let (type, rest) ← value rest
      let rest ← Text.dropStart? [';', '\n'] rest
      let (entries, rest) ← readEntries depth limit rest
      return ((key, type) :: entries, rest)

def readBody (depth : Nat) (text : Chars) : Option (Dict β × Chars) :=
  match Text.dropStart? ['{', '\n'] text with
  | none => (Text.dropStart? ['{', ' ', '}'] text).map fun rest => (∅, rest)
  | some rest => do
    let (entries, rest) ← readEntries value depth text.length rest
    let rest ← Text.dropStart? (indent (depth - 1) ++ ['}']) rest
    return (Dict.ofList entries, rest)

/-- The interface of a name, whose body is one level deep. -/
def readInterface (exported : Bool) (name : String) (text : Chars) : Option (Dict β × Chars) := do
  let keyword := if exported then "export ".toList else []
  let rest ← Text.dropStart? (keyword ++ "interface ".toList ++ name.toList ++ [' ']) text
  let (dict, rest) ← readBody value 1 rest
  let rest ← Text.dropStart? ['\n', '\n'] rest
  return (dict, rest)

end

/-- The model of a declaration file. What follows the five interfaces depends on no model. -/
def read? (exported : Bool) (text : String) : Option Model := do
  let (selectors, rest) ← readInterface readType exported "SelectorMap" text.toList
  let (ids, rest) ← readInterface readType exported "IDMap" rest
  let (classes, rest) ← readInterface readType exported "ClassMap" rest
  let (modules, rest) ← readInterface (readBody readType 2) exported "ModuleMap" rest
  let (tags, _) ← readInterface readType exported "TagMap" rest
  return { selectors, modules, ids, classes, tags }

/-! Reading gives back what was written. -/

/-- A value is read back from before the end of its line. -/
def ReadsBack {β : Type} (read : Chars → Option (β × Chars)) (write : β → Chars) (value : β) : Prop :=
  ∀ rest, read (write value ++ ';' :: '\n' :: rest) = some (value, ';' :: '\n' :: rest)

theorem readType_readsBack {type : String} (oneLine : '\n' ∉ type.toList) :
    ReadsBack readType String.toList type := by
  intro rest
  have inside : ∀ c ∈ type.toList ++ [';'], (c != '\n') = true := by
    intro c member
    rcases List.mem_append.1 member with member | ends
    · exact bne_iff_ne.2 fun newline => oneLine (newline ▸ member)
    · rw [List.mem_singleton.1 ends]
      rfl
  have line : (type.toList ++ ';' :: '\n' :: rest).takeWhile (· != '\n') = type.toList ++ [';'] := by
    rw [List.append_cons, List.takeWhile_append_of_pos inside, List.takeWhile_cons_of_neg (by simp),
      List.append_nil]
  simp [readType, line]

/-- The closing brace of a body begins no entry. -/
theorem dropStart?_close (depth : Nat) (rest : Chars) :
    Text.dropStart? (indent (depth + 1) ++ ['"']) (indent depth ++ '}' :: rest) = none := by
  induction depth with
  | zero => rfl
  | succ depth ih => simpa [indent, List.replicate_succ, Text.dropStart?] using ih

theorem dropStart?_append (start rest : Chars) :
    Text.dropStart? start (start ++ rest) = some rest :=
  Text.dropStart?_eq_some_iff.2 rfl

section

variable {β : Type} {read : Chars → Option (β × Chars)} {write : β → Chars}

/-- The line of an entry. -/
def line (write : β → Chars) (depth : Nat) (entry : String × β) : Chars :=
  indent depth ++ Text.quoted entry.1.toList ++ [':', ' '] ++ write entry.2 ++ [';', '\n']

theorem readEntries_line {entry : String × β} (back : ReadsBack read write entry.2) (depth limit : Nat)
    (rest : Chars) :
    readEntries read depth (limit + 1) (line write depth entry ++ rest) =
      (readEntries read depth limit rest).map fun (entries, rest) => (entry :: entries, rest) := by
  have split : line write depth entry ++ rest = (indent depth ++ ['"']) ++
      (entry.1.toList.flatMap Text.escape ++ '"' :: ([':', ' '] ++
        (write entry.2 ++ ';' :: '\n' :: rest))) := by
    simp [line, Text.quoted]
  rw [split, readEntries, dropStart?_append]
  simp only [Text.stringAfter?_quoted, dropStart?_append, Option.bind_eq_bind, Option.bind_some, back rest]
  rw [show ';' :: '\n' :: rest = [';', '\n'] ++ rest from rfl, dropStart?_append, Option.bind_some]
  cases readEntries read depth limit rest <;> rfl

theorem readEntries_lines {entries : List (String × β)}
    (back : ∀ entry ∈ entries, ReadsBack read write entry.2) (depth : Nat) {limit : Nat}
    (enough : entries.length < limit) (rest : Chars) :
    readEntries read (depth + 1) limit
      (entries.flatMap (line write (depth + 1)) ++ (indent depth ++ '}' :: rest)) =
        some (entries, indent depth ++ '}' :: rest) := by
  obtain ⟨limit, rfl⟩ := Nat.exists_eq_succ_of_ne_zero (Nat.ne_of_gt (Nat.zero_lt_of_lt enough))
  induction entries generalizing limit with
  | nil =>
    rw [List.flatMap_nil, List.nil_append, readEntries, dropStart?_close]
  | cons entry others ih =>
    have fewer : others.length < limit := Nat.lt_of_succ_lt_succ enough
    obtain ⟨limit, rfl⟩ := Nat.exists_eq_succ_of_ne_zero (Nat.ne_of_gt (Nat.zero_lt_of_lt fewer))
    have rest := ih (fun other member => back other (List.mem_cons_of_mem _ member)) limit fewer
    rw [List.flatMap_cons, List.append_assoc, readEntries_line (back entry List.mem_cons_self), rest]
    rfl

/-- No body has more entries than characters. -/
theorem length_le_length_lines (entries : List (String × β)) (depth : Nat) :
    entries.length ≤ (entries.flatMap (line write depth)).length := by
  induction entries with
  | nil => exact Nat.le_refl _
  | cons entry others ih =>
    simp only [List.flatMap_cons, List.length_append, List.length_cons, line]
    omega

theorem ofList_entries (dict : Dict β) : Dict.ofList dict.entries = dict := by
  apply Dict.ext_get?
  intro key
  rw [Dict.get?_ofList, Dict.lastWrite?_entries]

theorem readBody_body {dict : Dict β} (back : ∀ value ∈ dict.values, ReadsBack read write value)
    (depth : Nat) (rest : Chars) :
    readBody read (depth + 1) (body write (depth + 1) dict ++ rest) = some (dict, rest) := by
  unfold body
  split
  · next empty =>
    have same : dict = ∅ := by
      obtain ⟨entries, _⟩ := dict
      cases entries with
      | nil => rfl
      | cons => contradiction
    subst same
    rfl
  · have entries : ∀ entry ∈ dict.entries, ReadsBack read write entry.2 := fun entry member =>
      back entry.2 (List.mem_map_of_mem member)
    have text : ['{', '\n'] ++ dict.entries.flatMap (line write (depth + 1)) ++
        indent (depth + 1 - 1) ++ ['}'] ++ rest = ['{', '\n'] ++
          (dict.entries.flatMap (line write (depth + 1)) ++ (indent depth ++ '}' :: rest)) := by
      simp
    have enough : dict.entries.length < (['{', '\n'] ++
        (dict.entries.flatMap (line write (depth + 1)) ++ (indent depth ++ '}' :: rest))).length := by
      have : dict.entries.length ≤ (dict.entries.flatMap (line write (depth + 1))).length :=
        length_le_length_lines dict.entries (depth + 1)
      simp only [List.length_append, List.length_cons]
      omega
    change readBody read (depth + 1) (['{', '\n'] ++ dict.entries.flatMap (line write (depth + 1)) ++
        indent (depth + 1 - 1) ++ ['}'] ++ rest) = _
    rw [text, readBody, dropStart?_append]
    have close : indent depth ++ '}' :: rest = indent (depth + 1 - 1) ++ ['}'] ++ rest := by simp
    simp only [readEntries_lines entries depth enough, Option.bind_eq_bind, Option.bind_some]
    rw [close, dropStart?_append]
    simp [ofList_entries]

/-- The interface of a body. -/
def interface (exported : Bool) (name : String) (text : Chars) : Chars :=
  (if exported then "export ".toList else []) ++ "interface ".toList ++ name.toList ++ [' '] ++ text ++
    ['\n', '\n']

theorem readInterface_interface {dict : Dict β}
    (back : ∀ value ∈ dict.values, ReadsBack read write value) (exported : Bool) (name : String)
    (rest : Chars) :
    readInterface read exported name (interface exported name (body write 1 dict) ++ rest) =
      some (dict, rest) := by
  rw [interface, List.append_assoc _ _ rest, List.append_assoc _ (body write 1 dict)]
  simp only [readInterface, dropStart?_append, readBody_body back 0, Option.bind_eq_bind,
    Option.bind_some]
  rfl

end

end Querymap.Declaration

namespace Querymap

/-- No type of the model holds the end of a line. -/
structure Model.HasOneLineTypes (model : Model) : Prop where
  selectors : ∀ type ∈ model.selectors.values, '\n' ∉ type.toList
  ids : ∀ type ∈ model.ids.values, '\n' ∉ type.toList
  classes : ∀ type ∈ model.classes.values, '\n' ∉ type.toList
  modules : ∀ ids ∈ model.modules.values, ∀ type ∈ ids.values, '\n' ∉ type.toList
  tags : ∀ type ∈ model.tags.values, '\n' ∉ type.toList

namespace Declaration

/-- The five interfaces come first. -/
theorem chars_eq (model : Model) (exported : Bool) : ∃ rest, chars model exported =
    interface exported "SelectorMap" (body String.toList 1 model.selectors) ++
      (interface exported "IDMap" (body String.toList 1 model.ids) ++
        (interface exported "ClassMap" (body String.toList 1 model.classes) ++
          (interface exported "ModuleMap" (body (types 2) 1 model.modules) ++
            (interface exported "TagMap" (body String.toList 1 model.tags) ++ rest)))) := by
  have first : ∃ rest, chars model exported =
      (bodies model).flatMap (fun entry => interface exported entry.1 entry.2) ++ rest :=
    ⟨_, List.append_assoc _ _ _⟩
  obtain ⟨rest, same⟩ := first
  refine ⟨rest, ?_⟩
  rw [same]
  simp only [bodies, List.flatMap_cons, List.flatMap_nil, List.append_nil, List.append_assoc]
  rfl

theorem read?_declaration {model : Model} (plain : model.HasOneLineTypes) (exported : Bool) :
    read? exported (model.declaration exported) = some model := by
  have types {dict : Dict String} (oneLine : ∀ type ∈ dict.values, '\n' ∉ type.toList) :
      ∀ type ∈ dict.values, ReadsBack readType String.toList type := fun type member =>
    readType_readsBack (oneLine type member)
  have modules : ∀ ids ∈ model.modules.values,
      ReadsBack (readBody readType 2) (Declaration.types 2) ids := fun ids member rest =>
    readBody_body (types (plain.modules ids member)) 1 _
  obtain ⟨rest, text⟩ := chars_eq model exported
  rw [Model.declaration, read?, String.toList_ofList, text]
  simp only [readInterface_interface (types plain.selectors), readInterface_interface (types plain.ids),
    readInterface_interface (types plain.classes), readInterface_interface modules,
    readInterface_interface (types plain.tags), Option.bind_eq_bind, Option.bind_some]
  rfl

end Declaration

/-- The text of a declaration file determines its model, and reading the five bodies recovers it. -/
theorem Model.declaration_inj {model other : Model} (plain : model.HasOneLineTypes)
    (plain' : other.HasOneLineTypes) (exported : Bool) :
    (model.declaration exported = other.declaration exported ↔ model = other) ∧
      Declaration.read? exported (model.declaration exported) = some model := by
  have back := Declaration.read?_declaration plain exported
  have back' := Declaration.read?_declaration plain' exported
  refine ⟨⟨fun same => ?_, fun same => by rw [same]⟩, back⟩
  rw [same, back'] at back
  exact (Option.some.inj back).symm

/-- A key that spells the end of one entry and the beginning of another, and types that spell braces. -/
def forgedKey : Model where
  ids := Dict.ofList [("a\": A;\n\t\"b", "B; \x7d")]
  modules := Dict.ofList [("m", Dict.ofList [("x", "{ }")])]

/-- The entries that `forgedKey` spells. -/
def spelledEntries : Model where
  ids := Dict.ofList [("a", "A"), ("b", "B; \x7d")]
  modules := Dict.ofList [("m", Dict.ofList [("x", "{ }")])]

theorem Model.declaration_ne_forgedKey :
    forgedKey.HasOneLineTypes ∧ spelledEntries.HasOneLineTypes ∧
      forgedKey.declaration true ≠ spelledEntries.declaration true ∧
      Declaration.read? true (forgedKey.declaration true) = some forgedKey := by
  have plain : forgedKey.HasOneLineTypes := by constructor <;> decide
  have plain' : spelledEntries.HasOneLineTypes := by constructor <;> decide
  have apart : forgedKey ≠ spelledEntries := by decide
  obtain ⟨same_iff, back⟩ := Model.declaration_inj plain plain' true
  exact ⟨plain, plain', fun same => apart (same_iff.1 same), back⟩

end Querymap
