import Querymap.Html.OpenElements
import Querymap.Proofs.Markup.Forest

/-! Any tags give well-nested events. Elements are told apart by the index of their start tag; which of
them an end tag closes is said of the tags alone, and the stack of open elements follows it. -/
namespace Querymap.Html

open Markup

/-- The tag at an index starts an element that does not end there. -/
def Starts (tags : List Tag) (name : String) (index : Nat) : Prop :=
  ∃ attributes, tags[index]? = some (.start name attributes false) ∧ name ∉ voidElements

/-- The innermost of some elements that has a name. -/
def Innermost (tags : List Tag) (among : Nat → Prop) (name : String) (element : Nat) : Prop :=
  among element ∧ Starts tags name element ∧
    ∀ inner > element, among inner → ¬Starts tags name inner

/-- An end tag closes the innermost open element of its name and all elements opened inside it. -/
def ClosedAt (tags : List Tag) (among : Nat → Prop) (index element : Nat) : Prop :=
  among element ∧ ∃ name, tags[index]? = some (.stop name) ∧
    ∃ outer ≤ element, Innermost tags among name outer

/-- The elements that are open before the tag at an index. -/
def OpenBefore (tags : List Tag) : Nat → Nat → Prop
  | 0, _ => False
  | index + 1, element =>
    (element = index ∧ ∃ name, Starts tags name index) ∨
      (OpenBefore tags index element ∧ ¬ClosedAt tags (OpenBefore tags index) index element)

/-- An event of an element. -/
structure Emission where
  element : Nat
  event : Event

/-- The ends of some elements, the innermost first. -/
def Ends (tags : List Tag) (closing : Nat → Prop) (emissions : List Emission) : Prop :=
  ∃ elements : List (Nat × String), elements.Pairwise (·.1 > ·.1) ∧
    (∀ element name, (element, name) ∈ elements ↔ closing element ∧ Starts tags name element) ∧
    emissions = elements.map fun (element, name) => ⟨element, .closed name⟩

/-- The events that one tag causes, or the end of the document after the last one. -/
inductive Emits (tags : List Tag) (index : Nat) : List Emission → Prop
  | alone {name : String} {attributes : Attributes} {selfClosing : Bool}
      (found : tags[index]? = some (.start name attributes selfClosing))
      (ends : selfClosing = true ∨ name ∈ voidElements) :
      Emits tags index [⟨index, .opened name attributes⟩, ⟨index, .closed name⟩]
  | start {name : String} {attributes : Attributes}
      (found : tags[index]? = some (.start name attributes false)) (stays : name ∉ voidElements) :
      Emits tags index [⟨index, .opened name attributes⟩]
  | stop {name : String} {emissions : List Emission} (found : tags[index]? = some (.stop name))
      (ends : Ends tags (ClosedAt tags (OpenBefore tags index) index) emissions) :
      Emits tags index emissions
  | finish {emissions : List Emission} (ended : index = tags.length)
      (ends : Ends tags (OpenBefore tags index) emissions) : Emits tags index emissions

/-- Well-nested events in which every end is that of the element that started. -/
inductive Matched : List Emission → Prop
  | nil : Matched []
  | element {element : Nat} {name : String} {attributes : Attributes} {inner rest : List Emission} :
      Matched inner → Matched rest →
        Matched (⟨element, .opened name attributes⟩ :: (inner ++ ⟨element, .closed name⟩ :: rest))

namespace Matched

theorem append {first second : List Emission} (matched : Matched first) (others : Matched second) :
    Matched (first ++ second) := by
  induction matched with
  | nil => exact others
  | element inner _ _ ih => simpa using element inner ih

theorem wellNested {emissions : List Emission} (matched : Matched emissions) :
    WellNested (emissions.map Emission.event) := by
  induction matched with
  | nil => exact .nil
  | element _ _ inner rest => simpa using WellNested.element inner rest

end Matched

/-- An element that starts. -/
def Emission.opened? (emission : Emission) : Option (Nat × String × Attributes) :=
  match emission.event with
  | .opened name attributes => some (emission.element, name, attributes)
  | .closed _ => none

/-- An element that ends. -/
def Emission.closed? (emission : Emission) : Option (Nat × String) :=
  match emission.event with
  | .opened .. => none
  | .closed name => some (emission.element, name)

/-- Every element that starts ends once. -/
theorem Matched.closed_perm {emissions : List Emission} (matched : Matched emissions) :
    (emissions.filterMap Emission.closed?).Perm
      ((emissions.filterMap Emission.opened?).map fun start => (start.1, start.2.1)) := by
  induction matched with
  | nil => exact .nil
  | @element element name attributes inner rest _ _ ihInner ihRest =>
    simp only [List.filterMap_cons, List.filterMap_append, Emission.opened?, Emission.closed?,
      List.map_cons, List.map_append]
    exact List.perm_middle.trans (.cons _ (ihInner.append ihRest))

/-- The start tags from an index on, in order. -/
def startsFrom (index : Nat) : List Tag → List (Nat × String × Attributes)
  | [] => []
  | .start name attributes _ :: rest => (index, name, attributes) :: startsFrom (index + 1) rest
  | .stop _ :: rest => startsFrom (index + 1) rest

/-! The events with their elements, as the stack of open elements gives them. -/

/-- Open elements, the innermost first. -/
abbrev Stack := List (Nat × String)

def Stack.ends (stack : Stack) : List Emission := stack.map fun (element, name) => ⟨element, .closed name⟩

/-- The events of each tag from an index on, and those of the end of the document. -/
def emissionsFrom (index : Nat) (stack : Stack) : List Tag → List (List Emission)
  | [] => [stack.ends]
  | .start name attributes selfClosing :: rest =>
    if selfClosing || voidElements.contains name then
      [⟨index, .opened name attributes⟩, ⟨index, .closed name⟩] :: emissionsFrom (index + 1) stack rest
    else [⟨index, .opened name attributes⟩] :: emissionsFrom (index + 1) ((index, name) :: stack) rest
  | .stop name :: rest =>
    match stack.dropWhile (·.2 != name) with
    | [] => [] :: emissionsFrom (index + 1) stack rest
    | last :: outer =>
      Stack.ends (stack.takeWhile (·.2 != name) ++ [last]) :: emissionsFrom (index + 1) outer rest

theorem length_emissionsFrom (index : Nat) (stack : Stack) (tags : List Tag) :
    (emissionsFrom index stack tags).length = tags.length + 1 := by
  fun_induction emissionsFrom index stack tags <;> simp_all

/-- The open elements up to the innermost one of a name, and those around it. -/
theorem stack_split {stack outer : Stack} {last : Nat × String} {name : String}
    (found : stack.dropWhile (·.2 != name) = last :: outer) :
    stack = stack.takeWhile (·.2 != name) ++ last :: outer ∧ last.2 = name ∧
      ∀ inner ∈ stack.takeWhile (·.2 != name), inner.2 ≠ name := by
  refine ⟨?_, ?_, fun inner member => ?_⟩
  · rw [← found, List.takeWhile_append_dropWhile]
  · have stops := List.head?_dropWhile_not (·.2 != name) stack
    simpa [found] using stops
  · simpa using List.all_eq_true.1 List.all_takeWhile inner member

theorem events_emissionsFrom (index : Nat) (stack : Stack) (tags : List Tag) :
    (emissionsFrom index stack tags).flatten.map Emission.event =
      eventsWithin (stack.map (·.2)) tags := by
  fun_induction emissionsFrom index stack tags with
  | case1 => simp [Stack.ends, eventsWithin]
  | case2 index stack name attributes selfClosing rest alone ih =>
    rw [eventsWithin, if_pos alone]
    simp [ih]
  | case3 index stack name attributes selfClosing rest stays ih =>
    rw [eventsWithin, if_neg stays]
    simp [ih]
  | case4 index stack name rest none ih =>
    have stray : (stack.map (·.2)).dropWhile (· != name) = [] := by
      rw [List.dropWhile_map]
      exact congrArg _ none
    rw [eventsWithin, stray]
    exact ih
  | case5 index stack name rest last outer found ih =>
    have named := (stack_split found).2.1
    have innermost : (stack.map (·.2)).dropWhile (· != name) = last.2 :: outer.map (·.2) := by
      rw [List.dropWhile_map]
      exact congrArg _ found
    rw [eventsWithin, innermost, List.takeWhile_map]
    simp [Stack.ends, ih, named, Function.comp_def]

theorem opened_ends (stack : Stack) : stack.ends.filterMap Emission.opened? = [] := by
  rw [Stack.ends, List.filterMap_map]
  exact List.filterMap_eq_nil_iff.2 fun _ _ => rfl

theorem opened_emissionsFrom (index : Nat) (stack : Stack) (tags : List Tag) :
    (emissionsFrom index stack tags).flatten.filterMap Emission.opened? = startsFrom index tags := by
  fun_induction emissionsFrom index stack tags with
  | case1 index stack =>
    rw [List.flatten_cons, List.flatten_nil, List.append_nil]
    exact opened_ends stack
  | case2 _ _ _ _ _ _ _ ih | case3 _ _ _ _ _ _ _ ih | case4 _ _ _ _ _ ih =>
    rw [List.flatten_cons, List.filterMap_append, ih]
    rfl
  | case5 index stack name rest last outer found ih =>
    rw [List.flatten_cons, List.filterMap_append, opened_ends, ih]
    rfl

/-! The events are matched. -/

/-- Events that lead out of the open elements. -/
def Completes : Stack → List Emission → Prop
  | [], emissions => Matched emissions
  | (element, name) :: outer, emissions => ∃ inner rest,
    Matched inner ∧ Completes outer rest ∧ emissions = inner ++ ⟨element, .closed name⟩ :: rest

theorem Completes.prepend {stack : Stack} {first emissions : List Emission} (matched : Matched first)
    (completes : Completes stack emissions) : Completes stack (first ++ emissions) := by
  cases stack with
  | nil => exact matched.append completes
  | cons last outer =>
    obtain ⟨inner, rest, inside, around, rfl⟩ := completes
    exact ⟨first ++ inner, rest, matched.append inside, around, (List.append_assoc ..).symm⟩

theorem Completes.start {element : Nat} {name : String} {outer : Stack} {emissions : List Emission}
    (completes : Completes ((element, name) :: outer) emissions) (attributes : Attributes) :
    Completes outer (⟨element, .opened name attributes⟩ :: emissions) := by
  obtain ⟨inner, rest, inside, around, rfl⟩ := completes
  simpa using around.prepend (@Matched.element element name attributes inner [] inside .nil)

theorem Completes.ends {outer : Stack} {emissions : List Emission} (completes : Completes outer emissions)
    (inner : Stack) : Completes (inner ++ outer) (inner.ends ++ emissions) := by
  induction inner with
  | nil => exact completes
  | cons last inner ih => exact ⟨[], _, .nil, ih, rfl⟩

theorem completes_emissionsFrom (index : Nat) (stack : Stack) (tags : List Tag) :
    Completes stack (emissionsFrom index stack tags).flatten := by
  fun_induction emissionsFrom index stack tags with
  | case1 index stack => simpa using @Completes.ends [] [] .nil stack
  | case2 index stack name attributes selfClosing rest alone ih =>
    exact ih.prepend (@Matched.element index name attributes [] [] .nil .nil)
  | case3 index stack name attributes selfClosing rest stays ih => exact ih.start attributes
  | case4 index stack name rest none ih => exact ih
  | case5 index stack name rest last outer found ih =>
    have whole := (stack_split found).1
    have completes := ih.ends (stack.takeWhile (·.2 != name) ++ [last])
    rwa [List.append_assoc, List.singleton_append, ← whole] at completes

/-! The stack follows the tags. -/

section

variable {tags : List Tag} {index element : Nat} {name : String}

theorem Starts.unique {other : String} (starts : Starts tags name element)
    (others : Starts tags other element) : name = other := by
  obtain ⟨_, found, _⟩ := starts
  obtain ⟨_, found', _⟩ := others
  cases found.symm.trans found'
  rfl

theorem lt_of_openBefore (opened : OpenBefore tags index element) : element < index := by
  induction index with
  | zero => exact opened.elim
  | succ index ih =>
    rcases opened with ⟨rfl, _⟩ | ⟨before, _⟩
    · exact Nat.lt_succ_self _
    · exact Nat.lt_succ_of_lt (ih before)

/-- The stack holds the open elements. -/
structure Represents (tags : List Tag) (index : Nat) (stack : Stack) : Prop where
  sorted : stack.Pairwise (·.1 > ·.1)
  mem_iff : ∀ element name, (element, name) ∈ stack ↔
    OpenBefore tags index element ∧ Starts tags name element

/-- A start tag closes nothing. -/
theorem openBefore_of_start {attributes : Attributes} {selfClosing : Bool}
    (found : tags[index]? = some (.start name attributes selfClosing)) :
    OpenBefore tags (index + 1) element ↔
      (element = index ∧ ∃ name, Starts tags name index) ∨ OpenBefore tags index element := by
  have kept : ¬ClosedAt tags (OpenBefore tags index) index element := by
    rintro ⟨_, _, stops, _⟩
    cases found.symm.trans stops
  rw [OpenBefore]
  simp only [kept, not_false_eq_true, and_true]

theorem Represents.alone {stack : Stack} (represents : Represents tags index stack)
    {attributes : Attributes} {selfClosing : Bool}
    (found : tags[index]? = some (.start name attributes selfClosing))
    (ends : selfClosing = true ∨ name ∈ voidElements) : Represents tags (index + 1) stack := by
  have closed : ¬∃ name, Starts tags name index := by
    rintro ⟨_, _, starts, stays⟩
    cases found.symm.trans starts
    rcases ends with never | void
    · contradiction
    · exact stays void
  refine ⟨represents.sorted, fun element name => ?_⟩
  rw [openBefore_of_start found, represents.mem_iff]
  simp only [closed, and_false, false_or]

theorem Represents.push {stack : Stack} (represents : Represents tags index stack)
    {attributes : Attributes} (found : tags[index]? = some (.start name attributes false))
    (stays : name ∉ voidElements) : Represents tags (index + 1) ((index, name) :: stack) := by
  have starts : Starts tags name index := ⟨attributes, found, stays⟩
  refine ⟨List.pairwise_cons.2 ⟨fun other member => ?_, represents.sorted⟩, fun element other => ?_⟩
  · exact lt_of_openBefore ((represents.mem_iff _ _).1 member).1
  · rw [openBefore_of_start found, List.mem_cons, represents.mem_iff, or_and_right]
    refine or_congr_left ⟨?_, ?_⟩
    · rintro ⟨⟩
      exact ⟨⟨rfl, name, starts⟩, starts⟩
    · rintro ⟨⟨rfl, _⟩, others⟩
      rw [starts.unique others]

theorem openBefore_of_stop (found : tags[index]? = some (.stop name)) :
    OpenBefore tags (index + 1) element ↔
      OpenBefore tags index element ∧ ¬ClosedAt tags (OpenBefore tags index) index element := by
  have nothing : ¬∃ name, Starts tags name index := by
    rintro ⟨_, _, starts, _⟩
    cases found.symm.trans starts
  rw [OpenBefore]
  simp only [nothing, and_false, false_or]

/-- In a stack the indices tell what is inside an element from what is around it. -/
theorem sorted_split {inner outer : Stack} {last : Nat × String}
    (sorted : (inner ++ last :: outer).Pairwise (·.1 > ·.1)) (entry : Nat × String) :
    (entry ∈ inner ++ [last] ↔ entry ∈ inner ++ last :: outer ∧ last.1 ≤ entry.1) ∧
      (entry ∈ outer ↔ entry ∈ inner ++ last :: outer ∧ entry.1 < last.1) := by
  obtain ⟨_, below, inside⟩ := List.pairwise_append.1 sorted
  have after : entry ∈ outer → entry.1 < last.1 := (List.pairwise_cons.1 below).1 entry
  have before : entry ∈ inner → last.1 < entry.1 := fun member =>
    inside entry member last List.mem_cons_self
  simp only [List.mem_append, List.mem_cons, List.not_mem_nil, or_false]
  grind

/-- An end tag closes nothing if no open element has its name. -/
theorem Represents.stray {stack : Stack} (represents : Represents tags index stack)
    (found : tags[index]? = some (.stop name)) (none : stack.dropWhile (·.2 != name) = [])
    (element : Nat) : ¬ClosedAt tags (OpenBefore tags index) index element := by
  rintro ⟨_, other, stops, outer, _, opened, starts, _⟩
  cases found.symm.trans stops
  have member := (represents.mem_iff _ _).2 ⟨opened, starts⟩
  rw [← List.takeWhile_append_dropWhile (p := (·.2 != name)) (l := stack), none, List.append_nil] at member
  simpa using List.all_eq_true.1 List.all_takeWhile _ member

/-- An end tag closes the part of the stack down to the innermost element of its name. -/
theorem Represents.closedAt_iff {stack outer : Stack} {last : Nat × String}
    (represents : Represents tags index stack) (found : tags[index]? = some (.stop name))
    (innermost : stack.dropWhile (·.2 != name) = last :: outer) :
    ClosedAt tags (OpenBefore tags index) index element ↔
      OpenBefore tags index element ∧ last.1 ≤ element := by
  obtain ⟨whole, named, others⟩ := stack_split innermost
  have sorted := represents.sorted
  rw [whole] at sorted
  have lastIn : (last.1, name) ∈ stack := by
    rw [whole, ← named]
    exact List.mem_append_right _ List.mem_cons_self
  obtain ⟨lastOpen, lastStarts⟩ := (represents.mem_iff _ _).1 lastIn
  constructor
  · rintro ⟨opened, _, stops, around, inside, _, _, only⟩
    cases found.symm.trans stops
    refine ⟨opened, Nat.le_trans (Nat.le_of_not_lt fun later => ?_) inside⟩
    exact only last.1 later lastOpen lastStarts
  · rintro ⟨opened, inside⟩
    refine ⟨opened, name, found, last.1, inside, lastOpen, lastStarts, fun inner later open' starts => ?_⟩
    have member := (represents.mem_iff _ _).2 ⟨open', starts⟩
    rw [whole] at member
    have closes := (sorted_split sorted (inner, name)).1.2 ⟨member, Nat.le_of_lt later⟩
    rcases List.mem_append.1 closes with above | same
    · exact others _ above rfl
    · rw [← List.mem_singleton.1 same] at later
      exact Nat.lt_irrefl _ later

theorem Represents.keep {stack : Stack} (represents : Represents tags index stack)
    (found : tags[index]? = some (.stop name)) (none : stack.dropWhile (·.2 != name) = []) :
    Represents tags (index + 1) stack := by
  refine ⟨represents.sorted, fun element other => ?_⟩
  rw [openBefore_of_stop found, represents.mem_iff]
  simp only [represents.stray found none element, not_false_eq_true, and_true]

theorem Represents.pop {stack outer : Stack} {last : Nat × String}
    (represents : Represents tags index stack) (found : tags[index]? = some (.stop name))
    (innermost : stack.dropWhile (·.2 != name) = last :: outer) :
    Represents tags (index + 1) outer := by
  obtain ⟨whole, _⟩ := stack_split innermost
  have sorted := represents.sorted
  rw [whole] at sorted
  refine ⟨(List.pairwise_cons.1 (List.pairwise_append.1 sorted).2.1).2, fun element other => ?_⟩
  rw [openBefore_of_stop found, represents.closedAt_iff found innermost,
    (sorted_split sorted (element, other)).2, ← whole, represents.mem_iff]
  grind

theorem Represents.ends {stack outer : Stack} {last : Nat × String}
    (represents : Represents tags index stack) (found : tags[index]? = some (.stop name))
    (innermost : stack.dropWhile (·.2 != name) = last :: outer) :
    Ends tags (ClosedAt tags (OpenBefore tags index) index)
      (Stack.ends (stack.takeWhile (·.2 != name) ++ [last])) := by
  obtain ⟨whole, _⟩ := stack_split innermost
  have sorted := represents.sorted
  rw [whole] at sorted
  refine ⟨_, ?_, fun element other => ?_, rfl⟩
  · rw [List.append_cons] at sorted
    exact (List.pairwise_append.1 sorted).1
  · rw [represents.closedAt_iff found innermost, (sorted_split sorted (element, other)).1, ← whole,
      represents.mem_iff]
    grind

theorem next_of_drop {tag : Tag} {rest : List Tag} (left : tags.drop index = tag :: rest) :
    tags[index]? = some tag ∧ tags.drop (index + 1) = rest ∧ index + 1 ≤ tags.length := by
  have found : tags[index]? = some tag := by
    rw [← List.head?_drop, left, List.head?_cons]
  refine ⟨found, ?_, (List.getElem?_eq_some_iff.1 found).1⟩
  rw [← List.tail_drop, left, List.tail_cons]

/-- The first events are those of the next tag; the others come from the stack after it. -/
theorem emits_cons {first chunk : List Emission} {others : List (List Emission)}
    (now : Emits tags index first)
    (later : ∀ {offset}, others[offset]? = some chunk → Emits tags (index + 1 + offset) chunk)
    {offset : Nat} (placed : (first :: others)[offset]? = some chunk) :
    Emits tags (index + offset) chunk := by
  cases offset with
  | zero =>
    cases placed
    exact now
  | succ offset =>
    rw [← Nat.add_assoc, Nat.add_right_comm]
    exact later placed

/-- Each tag causes its events, given that the stack holds the open elements. -/
theorem emits_emissionsFrom {rest : List Tag} {stack : Stack} (represents : Represents tags index stack)
    (left : tags.drop index = rest) (inside : index ≤ tags.length) {offset : Nat} {chunk : List Emission}
    (placed : (emissionsFrom index stack rest)[offset]? = some chunk) :
    Emits tags (index + offset) chunk := by
  fun_induction emissionsFrom index stack rest generalizing offset with
  | case1 index stack =>
    have ended : index = tags.length := Nat.le_antisymm inside (List.drop_eq_nil_iff.1 left)
    refine emits_cons (.finish ended ⟨stack, represents.sorted, represents.mem_iff, rfl⟩) ?_ placed
    intro _ nothing
    cases nothing
  | case2 index stack name attributes selfClosing rest alone ih =>
    obtain ⟨found, others, bound⟩ := next_of_drop left
    have ends : selfClosing = true ∨ name ∈ voidElements := by simpa using alone
    exact emits_cons (.alone found ends)
      (fun placed => ih (represents.alone found ends) others bound placed) placed
  | case3 index stack name attributes selfClosing rest stays ih =>
    obtain ⟨found, others, bound⟩ := next_of_drop left
    simp only [Bool.or_eq_true, List.contains_iff_mem, not_or, Bool.not_eq_true] at stays
    obtain ⟨rfl, stays⟩ := stays
    exact emits_cons (.start found stays)
      (fun placed => ih (represents.push found stays) others bound placed) placed
  | case4 index stack name rest none ih =>
    obtain ⟨found, others, bound⟩ := next_of_drop left
    have nothing : Ends tags (ClosedAt tags (OpenBefore tags index) index) [] :=
      ⟨[], .nil, fun element _ => by simp [represents.stray found none element], rfl⟩
    exact emits_cons (.stop found nothing)
      (fun placed => ih (represents.keep found none) others bound placed) placed
  | case5 index stack name rest last outer innermost ih =>
    obtain ⟨found, others, bound⟩ := next_of_drop left
    exact emits_cons (.stop found (represents.ends found innermost))
      (fun placed => ih (represents.pop found innermost) others bound placed) placed

theorem emits_stray {chunks : List (List Emission)} (length : chunks.length = tags.length + 1)
    (emits : ∀ index chunk, chunks[index]? = some chunk → Emits tags index chunk)
    (found : tags[index]? = some (.stop name))
    (stray : ∀ element, OpenBefore tags index element → ¬Starts tags name element) :
    chunks[index]? = some [] := by
  have bound := (List.getElem?_eq_some_iff.1 found).1
  obtain ⟨chunk, placed⟩ : ∃ chunk, chunks[index]? = some chunk :=
    ⟨_, List.getElem?_eq_getElem (by omega)⟩
  rw [placed]
  cases emits index _ placed with
  | alone starts | start starts => cases found.symm.trans starts
  | finish ended => omega
  | stop stops ends =>
    cases found.symm.trans stops
    obtain ⟨elements, _, members, same⟩ := ends
    have none : elements = [] := List.eq_nil_iff_forall_not_mem.2 fun (element, other) member => by
      obtain ⟨⟨_, _, stops, outer, _, opened, starts, _⟩, _⟩ := (members element other).1 member
      cases found.symm.trans stops
      exact stray outer opened starts
    rw [same, none]
    rfl

end

/-- The events of a document, tag by tag. -/
structure Nested (tags : List Tag) (chunks : List (List Emission)) : Prop where
  length : chunks.length = tags.length + 1
  emits : ∀ index chunk, chunks[index]? = some chunk → Emits tags index chunk
  events : chunks.flatten.map Emission.event = events tags
  wellNested : WellNested (Html.events tags)
  /-- An end closes the element that it is the end of. -/
  matched : Matched chunks.flatten
  /-- One start for each start tag, in order and with its attributes. -/
  opened : chunks.flatten.filterMap Emission.opened? = startsFrom 0 tags
  /-- One end for each start tag. -/
  closed : (chunks.flatten.filterMap Emission.closed?).Perm
    ((startsFrom 0 tags).map fun start => (start.1, start.2.1))
  /-- An end tag without an open element of its name emits nothing. -/
  stray : ∀ index name, tags[index]? = some (.stop name) →
    (∀ element, OpenBefore tags index element → ¬Starts tags name element) → chunks[index]? = some []

theorem exists_nested (tags : List Tag) : ∃ chunks, Nested tags chunks := by
  have represents : Represents tags 0 [] := ⟨.nil, by simp [OpenBefore]⟩
  have matched : Matched (emissionsFrom 0 [] tags).flatten := completes_emissionsFrom 0 [] tags
  have same := events_emissionsFrom 0 [] tags
  have opened := opened_emissionsFrom 0 [] tags
  have emits : ∀ index chunk, (emissionsFrom 0 [] tags)[index]? = some chunk → Emits tags index chunk := by
    intro index chunk placed
    rw [← Nat.zero_add index]
    exact emits_emissionsFrom represents List.drop_zero (Nat.zero_le _) placed
  have length := length_emissionsFrom 0 [] tags
  refine ⟨emissionsFrom 0 [] tags, length, emits, same, ?_, matched, opened, ?_, ?_⟩
  · have nested := matched.wellNested
    rwa [same] at nested
  · rw [← opened]
    exact matched.closed_perm
  · exact fun index name found stray => emits_stray length emits found stray

end Querymap.Html
