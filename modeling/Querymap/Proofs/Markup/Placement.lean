import Querymap.Proofs.Markup.Forest
import Querymap.Proofs.Scope

/-! What scopes hold after tags have been placed in them one after the other. A module with an id
empties its scope; any other tag adds its id and its classes to the scope it is placed in. -/
namespace Querymap.Markup

open Dict

/-- An opened tag with the scope that holds it. -/
structure Placed where
  tag : String
  attributes : Attributes
  scope : ScopeKey

namespace Placed

/-- The tag is a module that opens the scope anew. -/
def opens (placed : Placed) (key : ScopeKey) : Prop :=
  (moduleId? placed.tag placed.attributes).map .named = some key

instance (placed : Placed) (key : ScopeKey) : Decidable (placed.opens key) :=
  inferInstanceAs (Decidable (_ = _))

def isElement (placed : Placed) : Prop := placed.tag ≠ moduleTag

instance (placed : Placed) : Decidable placed.isElement := inferInstanceAs (Decidable (_ ≠ _))

/-- The selector of the element's id with its type. -/
def idWrite? (placed : Placed) : Option (String × String) :=
  (placed.attributes.value? "id").map fun id =>
    ("#" ++ id, Recorder.idType placed.tag placed.attributes)

/-- The element's classes with its type. -/
def classEntries (placed : Placed) : List (String × String) :=
  match placed.attributes.value? "class" with
  | some names => (Text.words names.toList).map fun name =>
    (String.ofList name, Recorder.classType placed.tag placed.attributes)
  | none => []

/-- A scope with the element's id and classes added. -/
def enter (placed : Placed) (scope : Scope) : Scope where
  ids := match placed.idWrite? with
    | some write => scope.ids.insert write.1 write.2
    | none => scope.ids
  classes := scope.classes ++ placed.classEntries

theorem not_opens_of_element {placed : Placed} (element : placed.isElement) (key : ScopeKey) :
    ¬placed.opens key := by
  have tag : placed.tag ≠ moduleTag := element
  simp [opens, moduleId?, tag]

end Placed

/-- The tags placed after a scope was last opened. -/
def since (key : ScopeKey) (placed : List Placed) : List Placed :=
  (placed.reverse.takeWhile fun tag => ¬tag.opens key).reverse

/-- The elements that a scope holds. -/
def held (key : ScopeKey) (placed : List Placed) : List Placed :=
  (since key placed).filter fun tag => tag.isElement ∧ tag.scope = key

def contents (key : ScopeKey) (placed : List Placed) : Scope where
  ids := ofList ((held key placed).filterMap Placed.idWrite?)
  classes := (held key placed).flatMap Placed.classEntries

/-- A scope exists from the start or is opened. -/
def Present (placed : List Placed) (key : ScopeKey) : Prop :=
  key = .default ∨ ∃ tag ∈ placed, tag.opens key

/-- Places one tag in a scope map. -/
def place (map : ScopeMap) (placed : Placed) : ScopeMap :=
  if placed.tag = moduleTag then
    match moduleId? placed.tag placed.attributes with
    | some id => map.reset (.named id)
    | none => map
  else Recorder.recordElement map placed.scope placed.tag placed.attributes

/-- A map holds the contents of exactly the scopes that are present. -/
def Holds (map : ScopeMap) (placed : List Placed) : Prop :=
  ∀ key scope, map.get? key = some scope ↔ Present placed key ∧ scope = contents key placed

theorem since_concat (key : ScopeKey) (placed : List Placed) (tag : Placed) :
    since key (placed ++ [tag]) = if tag.opens key then [] else since key placed ++ [tag] := by
  by_cases opens : tag.opens key <;> simp [since, opens]

theorem held_concat (key : ScopeKey) (placed : List Placed) (tag : Placed) :
    held key (placed ++ [tag]) =
      if tag.opens key then []
      else held key placed ++ if tag.isElement ∧ tag.scope = key then [tag] else [] := by
  rw [held, since_concat]
  by_cases opens : tag.opens key
  · simp [opens]
  · by_cases element : tag.isElement ∧ tag.scope = key <;> simp [opens, held, element]

theorem contents_of_opens {key : ScopeKey} (placed : List Placed) {tag : Placed}
    (opens : tag.opens key) : contents key (placed ++ [tag]) = {} := by
  simp [contents, held_concat, opens, ofList, EmptyCollection.emptyCollection]

theorem contents_of_element (placed : List Placed) {tag : Placed} (element : tag.isElement) :
    contents tag.scope (placed ++ [tag]) = tag.enter (contents tag.scope placed) := by
  have kept : held tag.scope (placed ++ [tag]) = held tag.scope placed ++ [tag] := by
    simp [held_concat, Placed.not_opens_of_element element, element]
  simp only [contents, kept, Placed.enter, List.filterMap_append, List.flatMap_append,
    List.flatMap_cons, List.flatMap_nil, List.append_nil, Scope.mk.injEq, and_true]
  cases written : tag.idWrite? <;> simp [written, ofList]

theorem contents_of_other {key : ScopeKey} (placed : List Placed) {tag : Placed}
    (kept : ¬tag.opens key) (other : ¬(tag.isElement ∧ tag.scope = key)) :
    contents key (placed ++ [tag]) = contents key placed := by
  simp [contents, held_concat, kept, other]

theorem Present.append {key : ScopeKey} {placed : List Placed} (present : Present placed key)
    (more : List Placed) : Present (placed ++ more) key := by
  rcases present with same | ⟨tag, member, opens⟩
  · exact .inl same
  · exact .inr ⟨tag, List.mem_append_left _ member, opens⟩

theorem present_concat {key : ScopeKey} {placed : List Placed} {tag : Placed} :
    Present (placed ++ [tag]) key ↔ Present placed key ∨ tag.opens key := by
  simp only [Present, List.mem_append, List.mem_singleton, or_and_right, exists_or, or_assoc,
    exists_eq_left]

theorem get?_recordElement {map : ScopeMap} {tag : Placed} {scope : Scope}
    (known : map.get? tag.scope = some scope) (key : ScopeKey) :
    (Recorder.recordElement map tag.scope tag.tag tag.attributes).get? key =
      if key = tag.scope then some (tag.enter scope) else map.get? key := by
  simp only [Recorder.recordElement, Placed.enter, Placed.idWrite?, Placed.classEntries]
  cases tag.attributes.value? "id" <;> cases tag.attributes.value? "class" <;>
    by_cases own : key = tag.scope <;>
    simp [ScopeMap.recordId, ScopeMap.recordClasses, ScopeMap.modify, Scope.recordId,
      Scope.recordClasses, known, own]

theorem holds_place {map : ScopeMap} {placed : List Placed} (holds : Holds map placed)
    {tag : Placed} (inside : Present placed tag.scope) :
    Holds (place map tag) (placed ++ [tag]) := by
  intro key scope
  rw [present_concat]
  by_cases module : tag.tag = moduleTag
  · have other : ¬(tag.isElement ∧ tag.scope = key) := fun element => element.1 module
    cases found : moduleId? tag.tag tag.attributes with
    | none =>
      have kept : ¬tag.opens key := by simp [Placed.opens, found]
      simp only [place, if_pos module, found, kept, or_false, contents_of_other placed kept other]
      exact holds key scope
    | some id =>
      simp only [place, if_pos module, found, ScopeMap.reset, ScopeMap.get?_set]
      by_cases own : key = .named id
      · subst own
        have opens : tag.opens (.named id) := by simp [Placed.opens, found]
        simp [contents_of_opens placed opens, opens, eq_comm]
      · have kept : ¬tag.opens key := by simpa [Placed.opens, found] using Ne.symm own
        simp only [own, if_false, kept, or_false, contents_of_other placed kept other]
        exact holds key scope
  · have element : tag.isElement := module
    have kept := Placed.not_opens_of_element element key
    have known := (holds tag.scope (contents tag.scope placed)).2 ⟨inside, rfl⟩
    simp only [place, if_neg module, get?_recordElement known, kept, or_false]
    by_cases own : key = tag.scope
    · subst own
      simp [contents_of_element placed element, inside, eq_comm]
    · have other : ¬(tag.isElement ∧ tag.scope = key) := fun element => own element.2.symm
      simp only [own, if_false, contents_of_other placed kept other]
      exact holds key scope

namespace Holds

variable {map : ScopeMap} {placed : List Placed} (holds : Holds map placed)

include holds

theorem isSome_get?_named (id : String) :
    (map.get? (.named id)).isSome ↔ ∃ tag ∈ placed, tag.opens (.named id) := by
  rw [Option.isSome_iff_exists]
  constructor
  · rintro ⟨scope, known⟩
    exact ((holds _ scope).1 known).1.resolve_left (by simp)
  · intro opened
    exact ⟨_, (holds (.named id) _).2 ⟨.inr opened, rfl⟩⟩

theorem ids {key : ScopeKey} {scope : Scope} (known : map.get? key = some scope) (selector : String) :
    scope.ids.get? selector = lastWrite? ((held key placed).filterMap Placed.idWrite?) selector := by
  rw [((holds key scope).1 known).2, contents, get?_ofList]

theorem classes {key : ScopeKey} {scope : Scope} (known : map.get? key = some scope) :
    scope.classes = (held key placed).flatMap Placed.classEntries := by
  rw [((holds key scope).1 known).2, contents]

end Holds

theorem holds_nil : Holds {} [] := by
  intro key scope
  cases key with
  | default => simp [ScopeMap.get?, Present, contents, held, since, ofList, eq_comm]; rfl
  | named name => simp [ScopeMap.get?, Present]

end Querymap.Markup
