import Querymap.Markup.Recorder

/-! Well-nested streams of tag events are the events of forests. A forest gives each opened tag its
ancestors, and with them the scope that lexically holds it. -/
namespace Querymap.Markup

/-- Every end closes the innermost open tag, which has the same name. -/
inductive WellNested : List Event → Prop
  | nil : WellNested []
  | element {tag : String} {attributes : Attributes} {inner rest : List Event} :
      WellNested inner → WellNested rest →
        WellNested (.opened tag attributes :: (inner ++ .closed tag :: rest))

inductive Forest
  | nil
  | cons (tag : String) (attributes : Attributes) (children siblings : Forest)

/-- The id of a module that opens a scope. -/
def moduleId? (tag : String) (attributes : Attributes) : Option String :=
  if tag = moduleTag then attributes.value? "id" else none

/-- An opened tag, with the tags that are open around it, the innermost first. -/
structure Opening where
  tag : String
  attributes : Attributes
  ancestors : List (String × Attributes)

/-- The scope of the nearest module with an id. -/
def nearest (ancestors : List (String × Attributes)) : ScopeKey :=
  match ancestors.findSome? fun ancestor => moduleId? ancestor.1 ancestor.2 with
  | some id => .named id
  | none => .default

namespace Forest

def events : Forest → List Event
  | .nil => []
  | .cons tag attributes children siblings =>
    .opened tag attributes :: (children.events ++ .closed tag :: siblings.events)

/-- The opened tags in the order of the stream. -/
def openings (ancestors : List (String × Attributes)) : Forest → List Opening
  | .nil => []
  | .cons tag attributes children siblings =>
    ⟨tag, attributes, ancestors⟩ ::
      (children.openings ((tag, attributes) :: ancestors) ++ siblings.openings ancestors)

end Forest

theorem wellNested_iff {events : List Event} :
    WellNested events ↔ ∃ forest : Forest, forest.events = events := by
  constructor
  · intro nested
    induction nested with
    | nil => exact ⟨.nil, rfl⟩
    | @element tag attributes inner rest _ _ children siblings =>
      obtain ⟨children, rfl⟩ := children
      obtain ⟨siblings, rfl⟩ := siblings
      exact ⟨.cons tag attributes children siblings, rfl⟩
  · rintro ⟨forest, rfl⟩
    induction forest with
    | nil => exact .nil
    | cons _ _ _ _ children siblings => exact .element children siblings

theorem nearest_cons (tag : String) (attributes : Attributes)
    (ancestors : List (String × Attributes)) :
    nearest ((tag, attributes) :: ancestors) =
      match moduleId? tag attributes with
      | some id => .named id
      | none => nearest ancestors := by
  simp only [nearest, List.findSome?_cons]
  cases moduleId? tag attributes <;> rfl

end Querymap.Markup
