import Querymap.Proofs.Scope
import Querymap.Script.Calls
import Querymap.Script.Elements

/-! JSX elements, recorded by one walk. What an element is taken to have as attributes is a parameter:
those in its tag, or with them those of all elements inside its attributes. -/
namespace Querymap.Script

mutual

/-- A JSX element whose attributes are texts and, in braces, elements. -/
inductive Jsx
  | element (tag : String) (attributes : Jsx.Attributes) (children : Jsx.Children)

inductive Jsx.Attributes
  | nil
  | text (name value : String) (rest : Jsx.Attributes)
  | element (name : String) (value : Jsx) (rest : Jsx.Attributes)

inductive Jsx.Children
  | nil
  | text (value : String) (rest : Jsx.Children)
  | element (value : Jsx) (rest : Jsx.Children)

end

namespace Jsx

mutual

/-- An element as it is written. Text between elements leaves no tree. -/
def tree : Jsx → Tree
  | .element tag attributes children => .element tag attributes.trees [] children.trees

def Attributes.trees : Attributes → List Tree
  | .nil => []
  | .text name value rest => .attr name (.string (some value)) :: rest.trees
  | .element name value rest => .attr name (.group .container [value.tree]) :: rest.trees

def Children.trees : Children → List Tree
  | .nil => []
  | .text _ rest => rest.trees
  | .element value rest => value.tree :: rest.trees

end

mutual

/-- All elements in an element satisfy a property of tag and attributes. -/
def Each (P : String → Attributes → Prop) : Jsx → Prop
  | .element tag attributes children => P tag attributes ∧ attributes.Each P ∧ children.Each P

def Attributes.Each (P : String → Attributes → Prop) : Attributes → Prop
  | .nil => True
  | .text _ _ rest => rest.Each P
  | .element _ value rest => value.Each P ∧ rest.Each P

def Children.Each (P : String → Attributes → Prop) : Children → Prop
  | .nil => True
  | .text _ rest => rest.Each P
  | .element value rest => value.Each P ∧ rest.Each P

end

section

variable {P Q R : String → Attributes → Prop}

mutual

theorem Each.combine (both : ∀ tag attributes, P tag attributes → Q tag attributes → R tag attributes) :
    (jsx : Jsx) → jsx.Each P → jsx.Each Q → jsx.Each R
  | .element tag attributes children, ⟨p, within, below⟩, ⟨q, within', below'⟩ =>
    ⟨both tag attributes p q, Attributes.Each.combine both attributes within within',
      Children.Each.combine both children below below'⟩

theorem Attributes.Each.combine
    (both : ∀ tag attributes, P tag attributes → Q tag attributes → R tag attributes) :
    (attributes : Attributes) → attributes.Each P → attributes.Each Q → attributes.Each R
  | .nil, _, _ => trivial
  | .text _ _ rest, within, within' => Attributes.Each.combine both rest within within'
  | .element _ value rest, ⟨first, within⟩, ⟨first', within'⟩ =>
    ⟨Each.combine both value first first', Attributes.Each.combine both rest within within'⟩

theorem Children.Each.combine
    (both : ∀ tag attributes, P tag attributes → Q tag attributes → R tag attributes) :
    (children : Children) → children.Each P → children.Each Q → children.Each R
  | .nil, _, _ => trivial
  | .text _ rest, below, below' => Children.Each.combine both rest below below'
  | .element value rest, ⟨first, below⟩, ⟨first', below'⟩ =>
    ⟨Each.combine both value first first', Children.Each.combine both rest below below'⟩

end

end

/-- The record of one element. A module with an id is a scope and nothing else. -/
def enter (scope : ScopeKey) (map : ScopeMap) (tag : String) (own : ElementAttributes) : ScopeMap :=
  if tag = Markup.moduleTag ∧ own.id.isSome = true then map.touch (innerScope scope tag own)
  else recordElement map scope tag [] own

mutual

/-- Records all elements, each with the attributes that `read` gives it. -/
def record (read : Attributes → ElementAttributes) (scope : ScopeKey) (map : ScopeMap) :
    Jsx → ScopeMap
  | .element tag attributes children =>
    children.record read (innerScope scope tag (read attributes))
      (attributes.record read (innerScope scope tag (read attributes))
        (enter scope map tag (read attributes)))

def Attributes.record (read : Attributes → ElementAttributes) (scope : ScopeKey) (map : ScopeMap) :
    Attributes → ScopeMap
  | .nil => map
  | .text _ _ rest => rest.record read scope map
  | .element _ value rest => rest.record read scope (value.record read scope map)

def Children.record (read : Attributes → ElementAttributes) (scope : ScopeKey) (map : ScopeMap) :
    Children → ScopeMap
  | .nil => map
  | .text _ rest => rest.record read scope map
  | .element value rest => rest.record read scope (value.record read scope map)

end

/-- The attributes of a tag that are texts. -/
def Attributes.texts : Attributes → List (String × String)
  | .nil => []
  | .text name value rest => (name, value) :: rest.texts
  | .element _ _ rest => rest.texts

/-- The attributes in a tag. -/
def Attributes.written (attributes : Attributes) : ElementAttributes := .ofPairs attributes.texts

/-! The elements as they are written. -/

theorem stringAttributes_trees : (attributes : Attributes) →
    stringAttributes attributes.trees = attributes.texts
  | .nil => rfl
  | .text name value rest => congrArg ((name, value) :: ·) (stringAttributes_trees rest)
  | .element _ _ rest => stringAttributes_trees rest

theorem recordElements_element (scope : ScopeKey) (map : ScopeMap) (tag : String)
    (attributes children : List Tree) :
    recordElements scope map (.element tag attributes [] children) =
      recordAllElements (innerScope scope tag (.ofPairs (stringAttributes attributes)))
        (recordAllElements (innerScope scope tag (.ofPairs (stringAttributes attributes)))
          (enter scope map tag (.ofPairs (stringAttributes attributes))) attributes) children := by
  rw [recordElements, enter, innerScope]
  dsimp only
  split
  · next id module found =>
    rw [found]
    simp only [of_decide_eq_true module, Option.isSome_some, and_self, if_true]
  · next other =>
    cases found : (ElementAttributes.ofPairs (stringAttributes attributes)).id with
    | none => simp only [Option.isSome_none, Bool.false_eq_true, and_false, if_false]
    | some id =>
      have apart : tag ≠ Markup.moduleTag := fun module => other id (decide_eq_true module) found
      simp only [apart, false_and, if_false]

mutual

theorem recordElements_tree (scope : ScopeKey) (map : ScopeMap) : (jsx : Jsx) →
    recordElements scope map jsx.tree = jsx.record Attributes.written scope map
  | .element tag attributes children => by
    rw [tree, recordElements_element, stringAttributes_trees, recordAllElements_attributes _ _ attributes,
      recordAllElements_children _ _ children, record, Attributes.written]

theorem recordAllElements_attributes (scope : ScopeKey) (map : ScopeMap) :
    (attributes : Attributes) → recordAllElements scope map attributes.trees =
      attributes.record Attributes.written scope map
  | .nil => rfl
  | .text _ _ rest => by
    simp only [Attributes.trees, recordAllElements, recordElements, Attributes.record,
      recordAllElements_attributes _ _ rest]
  | .element _ value rest => by
    simp only [Attributes.trees, recordAllElements, recordElements, Attributes.record,
      recordElements_tree _ _ value, recordAllElements_attributes _ _ rest]

theorem recordAllElements_children (scope : ScopeKey) (map : ScopeMap) :
    (children : Children) → recordAllElements scope map children.trees =
      children.record Attributes.written scope map
  | .nil => rfl
  | .text _ rest => by
    simp only [Children.trees, Children.record, recordAllElements_children _ _ rest]
  | .element value rest => by
    simp only [Children.trees, recordAllElements, Children.record, recordElements_tree _ _ value,
      recordAllElements_children _ _ rest]

end

/-! Attributes that are taken over. -/

mutual

/-- All text attributes in an element, those of its own tag first. -/
def allTexts : Jsx → List (String × String)
  | .element _ attributes children => attributes.texts ++ attributes.inner ++ children.allTexts

/-- All text attributes of the elements inside the attributes of a tag. -/
def Attributes.inner : Attributes → List (String × String)
  | .nil => []
  | .text _ _ rest => rest.inner
  | .element _ value rest => value.allTexts ++ rest.inner

def Children.allTexts : Children → List (String × String)
  | .nil => []
  | .text _ rest => rest.allTexts
  | .element value rest => value.allTexts ++ rest.allTexts

end

/-- The attributes in a tag and those of all elements inside them. -/
def Attributes.taken (attributes : Attributes) : ElementAttributes :=
  .ofPairs (attributes.texts ++ attributes.inner)

def Attributes.ofTexts : List (String × String) → Attributes
  | [] => .nil
  | (name, value) :: rest => .text name value (ofTexts rest)

/-- Further text attributes behind those of a tag. -/
def Attributes.extend (others : List (String × String)) : Attributes → Attributes
  | .nil => .ofTexts others
  | .text name value rest => .text name value (rest.extend others)
  | .element name value rest => .element name value (rest.extend others)

mutual

/-- Each element takes over, behind its own attributes, the text attributes of all elements inside
them. -/
def absorbed : Jsx → Jsx
  | .element tag attributes children =>
    .element tag (attributes.absorbed.extend attributes.inner) children.absorbed

def Attributes.absorbed : Attributes → Attributes
  | .nil => .nil
  | .text name value rest => .text name value rest.absorbed
  | .element name value rest => .element name value.absorbed rest.absorbed

def Children.absorbed : Children → Children
  | .nil => .nil
  | .text value rest => .text value rest.absorbed
  | .element value rest => .element value.absorbed rest.absorbed

end

theorem texts_ofTexts : (texts : List (String × String)) → (Attributes.ofTexts texts).texts = texts
  | [] => rfl
  | text :: rest => congrArg (text :: ·) (texts_ofTexts rest)

theorem texts_extend (others : List (String × String)) : (attributes : Attributes) →
    (attributes.extend others).texts = attributes.texts ++ others
  | .nil => texts_ofTexts others
  | .text name value rest => congrArg ((name, value) :: ·) (texts_extend others rest)
  | .element _ _ rest => texts_extend others rest

theorem texts_absorbed : (attributes : Attributes) → attributes.absorbed.texts = attributes.texts
  | .nil => rfl
  | .text name value rest => congrArg ((name, value) :: ·) (texts_absorbed rest)
  | .element _ _ rest => texts_absorbed rest

theorem record_ofTexts (read : Attributes → ElementAttributes) (scope : ScopeKey) (map : ScopeMap) :
    (texts : List (String × String)) → (Attributes.ofTexts texts).record read scope map = map
  | [] => rfl
  | _ :: rest => record_ofTexts read scope map rest

theorem record_extend (read : Attributes → ElementAttributes) (scope : ScopeKey) (map : ScopeMap)
    (others : List (String × String)) : (attributes : Attributes) →
      (attributes.extend others).record read scope map = attributes.record read scope map
  | .nil => record_ofTexts read scope map others
  | .text _ _ rest => record_extend read scope map others rest
  | .element _ _ rest => record_extend read scope _ others rest

mutual

theorem record_absorbed (scope : ScopeKey) (map : ScopeMap) : (jsx : Jsx) →
    jsx.absorbed.record Attributes.written scope map = jsx.record Attributes.taken scope map
  | .element tag attributes children => by
    have taken : (attributes.absorbed.extend attributes.inner).written = attributes.taken := by
      rw [Attributes.written, texts_extend, texts_absorbed, Attributes.taken]
    rw [absorbed, record, taken, record_extend, record_absorbed_attributes _ _ attributes,
      record_absorbed_children _ _ children, record]

theorem record_absorbed_attributes (scope : ScopeKey) (map : ScopeMap) : (attributes : Attributes) →
    attributes.absorbed.record Attributes.written scope map =
      attributes.record Attributes.taken scope map
  | .nil => rfl
  | .text _ _ rest => record_absorbed_attributes scope map rest
  | .element _ value rest => by
    simp only [Attributes.absorbed, Attributes.record, record_absorbed scope map value,
      record_absorbed_attributes scope _ rest]

theorem record_absorbed_children (scope : ScopeKey) (map : ScopeMap) : (children : Children) →
    children.absorbed.record Attributes.written scope map =
      children.record Attributes.taken scope map
  | .nil => rfl
  | .text _ rest => record_absorbed_children scope map rest
  | .element value rest => by
    simp only [Children.absorbed, Children.record, record_absorbed scope map value,
      record_absorbed_children scope _ rest]

end

/-! Elements inside attributes that leave the typings of the element around them as they are. -/

/-- What a tag takes over from the elements inside its attributes changes nothing of its own. -/
def Undisturbed (_tag : String) (attributes : Attributes) : Prop :=
  attributes.taken = attributes.written

/-- An attribute on which typings do not depend. -/
def Idle (text : String × String) : Prop :=
  text.2 = "" ∨ text.1 ∉ ["id", "class", "className", Markup.typeAttribute]

theorem set_of_idle {text : String × String} (idle : Idle text) (attributes : ElementAttributes) :
    attributes.set text.1 text.2 = attributes := by
  obtain ⟨name, value⟩ := text
  unfold ElementAttributes.set
  rcases idle with rfl | other
  · exact if_pos rfl
  · simp only [List.mem_cons, List.not_mem_nil, or_false, not_or] at other
    simp [other]

theorem undisturbed_of_idle {attributes : Attributes} (tag : String)
    (idle : ∀ text ∈ attributes.inner, Idle text) : Undisturbed tag attributes := by
  have kept : ∀ (texts : List (String × String)) (own : ElementAttributes), (∀ text ∈ texts, Idle text) →
      texts.foldl (fun own text => own.set text.1 text.2) own = own := by
    intro texts own idle
    induction texts with
    | nil => rfl
    | cons text rest ih =>
      have first := set_of_idle (idle text List.mem_cons_self) own
      simp only [List.foldl_cons, first]
      exact ih fun other member => idle other (List.mem_cons_of_mem _ member)
  rw [Undisturbed, Attributes.taken, Attributes.written, ElementAttributes.ofPairs, List.foldl_append]
  exact kept _ _ idle

mutual

theorem record_undisturbed (scope : ScopeKey) (map : ScopeMap) : (jsx : Jsx) → jsx.Each Undisturbed →
    jsx.record Attributes.taken scope map = jsx.record Attributes.written scope map
  | .element tag attributes children, ⟨same, within, below⟩ => by
    rw [record, record, show attributes.taken = attributes.written from same,
      record_undisturbed_attributes _ _ attributes within,
      record_undisturbed_children _ _ children below]

theorem record_undisturbed_attributes (scope : ScopeKey) (map : ScopeMap) :
    (attributes : Attributes) → attributes.Each Undisturbed →
      attributes.record Attributes.taken scope map = attributes.record Attributes.written scope map
  | .nil, _ => rfl
  | .text _ _ rest, within => record_undisturbed_attributes scope map rest within
  | .element _ value rest, ⟨first, within⟩ => by
    rw [Attributes.record, Attributes.record, record_undisturbed scope map value first,
      record_undisturbed_attributes scope _ rest within]

theorem record_undisturbed_children (scope : ScopeKey) (map : ScopeMap) :
    (children : Children) → children.Each Undisturbed →
      children.record Attributes.taken scope map = children.record Attributes.written scope map
  | .nil, _ => rfl
  | .text _ rest, below => record_undisturbed_children scope map rest below
  | .element value rest, ⟨first, below⟩ => by
    rw [Children.record, Children.record, record_undisturbed scope map value first,
      record_undisturbed_children scope _ rest below]

end

end Jsx

end Querymap.Script
