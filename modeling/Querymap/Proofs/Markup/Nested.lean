import Querymap.Proofs.Markup.Placement

/-! Nested mode is lexical scoping. While a forest is recorded, the current scope is that of the nearest
module around, and the outer scopes are those to which the open modules lead back. -/
namespace Querymap.Markup

open Dict

/-- An opened tag in the scope that lexically holds it. -/
def Opening.placed (opening : Opening) : Placed :=
  ⟨opening.tag, opening.attributes, nearest opening.ancestors⟩

def Forest.placed (forest : Forest) : List Placed := (forest.openings []).map Opening.placed

namespace Recorder

theorem run_append (mode : ScopeMode) (recorder : Recorder) (first second : List Event) :
    run mode recorder (first ++ second) = run mode (run mode recorder first) second :=
  List.foldl_append

/-- The outer scopes while a tag is open. -/
def outerWithin (recorder : Recorder) (tag : String) : List ScopeKey :=
  if tag = moduleTag then recorder.current :: recorder.outer else recorder.outer

theorem step_opened {recorder : Recorder} {ancestors : List (String × Attributes)}
    (current : recorder.current = nearest ancestors) (tag : String) (attributes : Attributes) :
    step .nested recorder (.opened tag attributes) =
      ⟨place recorder.map ⟨tag, attributes, nearest ancestors⟩,
        nearest ((tag, attributes) :: ancestors), recorder.outerWithin tag⟩ := by
  obtain ⟨map, _, outer⟩ := recorder
  subst current
  by_cases module : tag = moduleTag
  · simp only [step, if_pos module, openModule, place, nearest_cons, moduleId?, outerWithin]
    cases attributes.value? "id" <;> rfl
  · simp only [step, if_neg module, place, nearest_cons, moduleId?, outerWithin]

theorem step_closed {recorder : Recorder} {ancestors : List (String × Attributes)}
    (current : recorder.current = nearest ancestors) (tag : String) (attributes : Attributes)
    (map : ScopeMap) :
    step .nested ⟨map, nearest ((tag, attributes) :: ancestors), recorder.outerWithin tag⟩
      (.closed tag) = ⟨map, recorder.current, recorder.outer⟩ := by
  by_cases module : tag = moduleTag
  · simp only [step, if_pos module, outerWithin, closeModule]
  · simp only [step, if_neg module, outerWithin, nearest_cons, moduleId?, current]

theorem present_within {before : List Placed} {ancestors : List (String × Attributes)}
    (inside : Present before (nearest ancestors)) (tag : String) (attributes : Attributes) :
    Present (before ++ [⟨tag, attributes, nearest ancestors⟩])
      (nearest ((tag, attributes) :: ancestors)) := by
  rw [present_concat, nearest_cons]
  cases opened : moduleId? tag attributes with
  | none => exact .inl inside
  | some id => exact .inr (by simp [Placed.opens, opened])

/-- An element is recorded by its tag, what is inside it, and its end, which leads back. -/
theorem run_cons {recorder : Recorder} {ancestors : List (String × Attributes)}
    (current : recorder.current = nearest ancestors) {tag : String} {attributes : Attributes}
    {children : Forest} {inner : ScopeMap}
    (ran : run .nested (step .nested recorder (.opened tag attributes)) children.events =
      ⟨inner, nearest ((tag, attributes) :: ancestors), recorder.outerWithin tag⟩)
    (siblings : Forest) :
    run .nested recorder (Forest.cons tag attributes children siblings).events =
      run .nested ⟨inner, recorder.current, recorder.outer⟩ siblings.events := by
  have whole : (Forest.cons tag attributes children siblings).events =
      (.opened tag attributes :: (children.events ++ [.closed tag])) ++ siblings.events := by
    simp [Forest.events]
  rw [whole, run_append]
  change run .nested (run .nested (step .nested recorder (.opened tag attributes)) _) _ = _
  rw [run_append, ran]
  exact congrArg (run .nested · siblings.events) (step_closed current tag attributes inner)

/-- Recording a forest places its tags and leads back to the scope it started from. -/
theorem run_nested (forest : Forest) {recorder : Recorder} {before : List Placed}
    {ancestors : List (String × Attributes)} (holds : Holds recorder.map before)
    (current : recorder.current = nearest ancestors)
    (inside : Present before (nearest ancestors)) :
    ∃ map, run .nested recorder forest.events = ⟨map, recorder.current, recorder.outer⟩ ∧
      Holds map (before ++ (forest.openings ancestors).map Opening.placed) := by
  induction forest generalizing recorder before ancestors with
  | nil => exact ⟨recorder.map, rfl, by simpa [Forest.openings] using holds⟩
  | cons tag attributes children siblings ihChildren ihSiblings =>
    have opened := step_opened current tag attributes
    have entered : Holds (step .nested recorder (.opened tag attributes)).map
        (before ++ [⟨tag, attributes, nearest ancestors⟩]) := by
      rw [opened]
      exact holds_place holds inside
    obtain ⟨inner, ran, holdsInner⟩ :=
      ihChildren entered (by rw [opened]) (present_within inside tag attributes)
    have led : run .nested (step .nested recorder (.opened tag attributes)) children.events =
        ⟨inner, nearest ((tag, attributes) :: ancestors), recorder.outerWithin tag⟩ := by
      rw [ran, opened]
    obtain ⟨map, rest, holdsMap⟩ := ihSiblings
      (show Holds (Recorder.mk inner recorder.current recorder.outer).map _ from holdsInner) current
      ((inside.append _).append _)
    exact ⟨map, (run_cons current led siblings).trans rest,
      by simpa [Forest.openings, Opening.placed] using holdsMap⟩

end Recorder

/-- The state after recording, said of the forest alone. -/
structure Lexical (forest : Forest) (recorder : Recorder) : Prop where
  current : recorder.current = .default
  outer : recorder.outer = []
  scopes : ∀ id, (recorder.map.get? (.named id)).isSome ↔
    ∃ opening ∈ forest.openings [], moduleId? opening.tag opening.attributes = some id
  ids : ∀ key scope, recorder.map.get? key = some scope → ∀ selector,
    scope.ids.get? selector = lastWrite? ((held key forest.placed).filterMap Placed.idWrite?) selector
  classes : ∀ key scope, recorder.map.get? key = some scope →
    scope.classes = (held key forest.placed).flatMap Placed.classEntries

theorem lexical_run (forest : Forest) : Lexical forest (Recorder.run .nested {} forest.events) := by
  have initial : Holds (Recorder.mk {} (nearest []) []).map [] := holds_nil
  have outside : Present [] (nearest []) := .inl rfl
  obtain ⟨map, ran, holds⟩ := Recorder.run_nested forest initial rfl outside
  rw [List.nil_append] at holds
  refine ran ▸ ⟨rfl, rfl, fun id => ?_, fun _ _ known => holds.ids known,
    fun _ _ known => holds.classes known⟩
  have opened (opening : Opening) : opening.placed.opens (.named id) ↔
      moduleId? opening.tag opening.attributes = some id := by
    simp [Placed.opens, Opening.placed]
  rw [holds.isSome_get?_named id]
  constructor
  · rintro ⟨tag, member, opens⟩
    obtain ⟨opening, inside, rfl⟩ := List.mem_map.1 member
    exact ⟨opening, inside, (opened opening).1 opens⟩
  · rintro ⟨opening, inside, opens⟩
    exact ⟨opening.placed, List.mem_map_of_mem inside, (opened opening).2 opens⟩

theorem lexical_of_wellNested {events : List Event} (nested : WellNested events) :
    (∃ forest : Forest, forest.events = events) ∧ ∀ forest : Forest, forest.events = events →
      Lexical forest (Recorder.run .nested {} events) := by
  refine ⟨wellNested_iff.1 nested, ?_⟩
  rintro forest rfl
  exact lexical_run forest

/-- A module that is opened again inside itself. -/
def reopened : Forest :=
  .cons "dom-module" (.ofList [("id", "m")])
    (.cons "div" (.ofList [("id", "a")]) .nil
      (.cons "dom-module" (.ofList [("id", "m")])
        (.cons "p" (.ofList [("class", "b b")]) .nil .nil) .nil)) .nil

theorem lexical_reopened : WellNested reopened.events ∧
    Lexical reopened (Recorder.run .nested {} reopened.events) ∧
    (Recorder.run .nested {} reopened.events).map.get? (.named "m") =
      some ⟨∅, [("b", "HTMLParagraphElement"), ("b", "HTMLParagraphElement")]⟩ := by
  have nested : WellNested reopened.events := wellNested_iff.2 ⟨reopened, rfl⟩
  exact ⟨nested, (lexical_of_wellNested nested).2 reopened rfl, by decide +kernel⟩

end Querymap.Markup
