import Querymap.Extract
import Querymap.Proofs.Script.Jsx
import Querymap.Proofs.Script.Tree

/-! JSX elements and the calls that they compile to. The object literals in a call are those of all
elements inside the attributes of its element, and so its attributes are theirs as well. -/
namespace Querymap.Script.Jsx

mutual

/-- The call that an element compiles to: of its tag, its attributes as an object, and its children. -/
def lowered (callee : Tree) : Jsx → Tree
  | .element tag attributes children =>
    .call callee
      (.string (some tag) :: .object (attributes.fields callee) :: children.arguments callee)

def Attributes.fields (callee : Tree) : Attributes → List Tree
  | .nil => []
  | .text name value rest => .field name (.string (some value)) :: rest.fields callee
  | .element name value rest => .field name (value.lowered callee) :: rest.fields callee

def Children.arguments (callee : Tree) : Children → List Tree
  | .nil => []
  | .text value rest => .string (some value) :: rest.arguments callee
  | .element value rest => value.lowered callee :: rest.arguments callee

end

/-! The scopes that a recording leaves. -/

theorem has_recordElement {scope key : ScopeKey} {map : ScopeMap} {tag : String}
    {own : ElementAttributes} (present : map.Has key) :
    (recordElement map scope tag [] own).Has key := by
  have classes : ∀ (names : List String) {map : ScopeMap} (type : String), map.Has key →
      (names.foldl (fun map names => map.recordClasses scope names type) map).Has key := by
    intro names
    induction names with
    | nil => exact fun _ present => present
    | cons _ _ ih => exact fun _ present => ih _ (present.modify _)
  unfold recordElement
  refine classes _ _ ?_
  split
  · split
    · exact present
    · exact present.modify _
  · exact present

theorem has_enter {scope key : ScopeKey} {map : ScopeMap} {tag : String} {own : ElementAttributes}
    (present : map.Has key) : (enter scope map tag own).Has key := by
  unfold enter
  split
  · exact present.modify _
  · exact has_recordElement present

mutual

theorem has_record {read : Attributes → ElementAttributes} {key scope : ScopeKey} {map : ScopeMap}
    (present : map.Has key) : (jsx : Jsx) → (jsx.record read scope map).Has key
  | .element _ attributes children =>
    has_record_children (has_record_attributes (has_enter present) attributes) children

theorem has_record_attributes {read : Attributes → ElementAttributes} {key scope : ScopeKey}
    {map : ScopeMap} (present : map.Has key) :
    (attributes : Attributes) → (attributes.record read scope map).Has key
  | .nil => present
  | .text _ _ rest => has_record_attributes present rest
  | .element _ value rest => has_record_attributes (has_record present value) rest

theorem has_record_children {read : Attributes → ElementAttributes} {key scope : ScopeKey}
    {map : ScopeMap} (present : map.Has key) :
    (children : Children) → (children.record read scope map).Has key
  | .nil => present
  | .text _ rest => has_record_children present rest
  | .element value rest => has_record_children (has_record present value) rest

end

/-- The scope inside an element is there once the element is recorded. -/
theorem has_innerScope {scope : ScopeKey} {map : ScopeMap} {tag : String} {own : ElementAttributes}
    (present : map.Has scope) : (enter scope map tag own).Has (innerScope scope tag own) := by
  by_cases opens : tag = Markup.moduleTag ∧ own.id.isSome = true
  · rw [enter, if_pos opens]
    exact ScopeMap.has_touch ..
  · have same : innerScope scope tag own = scope := by
      unfold innerScope
      split
      · next id found => exact if_neg fun module => opens ⟨module, by rw [found]; rfl⟩
      · rfl
    rw [same]
    exact has_enter present

/-! The elements as calls. -/

/-- No module has a class. -/
def Classless (read : Attributes → ElementAttributes) (tag : String) (attributes : Attributes) : Prop :=
  tag = Markup.moduleTag → (read attributes).classes = []

theorem classless_of_ne {tag : String} (other : tag ≠ Markup.moduleTag)
    (read : Attributes → ElementAttributes) (attributes : Attributes) : Classless read tag attributes :=
  fun module => absurd module other

section

variable {factory : String} {callee : Tree}

theorem objectFields_dotted : (callee : Tree) → {name : String} → dottedName? callee = some name →
    objectFields callee = []
  | .identifier _, _, _ => rfl
  | .member owner _, _, named => by
    obtain ⟨_, inner, _⟩ := Option.map_eq_some_iff.1 named
    exact objectFields_dotted owner inner

theorem recordCalls_dotted (factory : String) (scope : ScopeKey) (map : ScopeMap) :
    (callee : Tree) → {name : String} → dottedName? callee = some name →
      recordCalls factory scope map callee = map
  | .identifier _, _, _ => rfl
  | .member owner _, _, named => by
    obtain ⟨_, inner, _⟩ := Option.map_eq_some_iff.1 named
    exact recordCalls_dotted factory scope map owner inner

theorem stringFields_fields (callee : Tree) : (attributes : Attributes) →
    stringFields (attributes.fields callee) = attributes.texts
  | .nil => rfl
  | .text name value rest => congrArg ((name, value) :: ·) (stringFields_fields callee rest)
  | .element _ (.element ..) rest => stringFields_fields callee rest

mutual

theorem objectFields_lowered (made : dottedName? callee = some factory) : (jsx : Jsx) →
    objectFields (jsx.lowered callee) = jsx.allTexts
  | .element tag attributes children => by
    simp only [lowered, objectFields, allObjectFields, objectFields_dotted callee made, stringFields_fields,
      allObjectFields_fields made attributes, allObjectFields_arguments made children, allTexts,
      List.nil_append]

theorem allObjectFields_fields (made : dottedName? callee = some factory) :
    (attributes : Attributes) → allObjectFields (attributes.fields callee) = attributes.inner
  | .nil => rfl
  | .text _ _ rest => allObjectFields_fields made rest
  | .element _ value rest => by
    simp only [Attributes.fields, allObjectFields, objectFields, objectFields_lowered made value,
      allObjectFields_fields made rest, Attributes.inner]

theorem allObjectFields_arguments (made : dottedName? callee = some factory) :
    (children : Children) → allObjectFields (children.arguments callee) = children.allTexts
  | .nil => rfl
  | .text _ rest => allObjectFields_arguments made rest
  | .element value rest => by
    simp only [Children.arguments, allObjectFields, objectFields_lowered made value,
      allObjectFields_arguments made rest, Children.allTexts]

end

theorem recordCalls_element (made : dottedName? callee = some factory) (scope : ScopeKey)
    (map : ScopeMap) (tag : String) (fields arguments : List Tree) :
    recordCalls factory scope map (.call callee (.string (some tag) :: .object fields :: arguments)) =
      recordAllCalls factory (innerScope scope tag (.ofPairs (objectFields (.object fields))))
        (recordAllCalls factory (innerScope scope tag (.ofPairs (objectFields (.object fields))))
          (recordElement
            (map.touch (innerScope scope tag (.ofPairs (objectFields (.object fields)))))
            (innerScope scope tag (.ofPairs (objectFields (.object fields)))) tag []
            (.ofPairs (objectFields (.object fields)))) fields) arguments := by
  have makes : madeTag? factory callee (.string (some tag) :: .object fields :: arguments) =
      some tag := if_pos made
  rw [recordCalls, makes]
  simp only [recordCalls_dotted _ _ _ callee made, madeAttributes, recordAllCalls, recordCalls]

/-- A call enters an element as the element itself does, in a scope that is there already. -/
theorem recordElement_touch {scope : ScopeKey} {map : ScopeMap} (present : map.Has scope)
    {tag : String} {own : ElementAttributes}
    (classless : tag = Markup.moduleTag → own.classes = []) :
    recordElement (map.touch (innerScope scope tag own)) (innerScope scope tag own) tag [] own =
      enter scope map tag own := by
  unfold enter innerScope
  cases found : own.id with
  | none =>
    simp only [Option.isSome_none, Bool.false_eq_true, and_false, if_false]
    rw [ScopeMap.touch_eq_self present]
  | some id =>
    by_cases module : tag = Markup.moduleTag
    · simp [recordElement, found, module, classless module]
    · simp only [module, false_and, if_false]
      rw [ScopeMap.touch_eq_self present]

mutual

theorem recordCalls_lowered (made : dottedName? callee = some factory) {scope : ScopeKey}
    {map : ScopeMap} (present : map.Has scope) :
    (jsx : Jsx) → jsx.Each (Classless Attributes.taken) →
      recordCalls factory scope map (jsx.lowered callee) = jsx.record Attributes.taken scope map
  | .element tag attributes children, ⟨classless, within, below⟩ => by
    -- The object of a call holds what its element takes over.
    have taken : ElementAttributes.ofPairs (objectFields (.object (attributes.fields callee))) =
        attributes.taken := by
      rw [objectFields, stringFields_fields, allObjectFields_fields made, Attributes.taken]
    have inside : (enter scope map tag attributes.taken).Has (innerScope scope tag attributes.taken) :=
      has_innerScope present
    rw [lowered, recordCalls_element made, taken, recordElement_touch present classless,
      recordAllCalls_fields made inside attributes within,
      recordAllCalls_arguments made (has_record_attributes inside attributes) children below, record]

theorem recordAllCalls_fields (made : dottedName? callee = some factory) {scope : ScopeKey}
    {map : ScopeMap} (present : map.Has scope) :
    (attributes : Attributes) → attributes.Each (Classless Attributes.taken) →
      recordAllCalls factory scope map (attributes.fields callee) =
        attributes.record Attributes.taken scope map
  | .nil, _ => rfl
  | .text _ _ rest, within => by
    simp only [Attributes.fields, recordAllCalls, recordCalls, Attributes.record,
      recordAllCalls_fields made present rest within]
  | .element _ value rest, ⟨first, within⟩ => by
    simp only [Attributes.fields, recordAllCalls, recordCalls, Attributes.record,
      recordCalls_lowered made present value first,
      recordAllCalls_fields made (has_record present value) rest within]

theorem recordAllCalls_arguments (made : dottedName? callee = some factory) {scope : ScopeKey}
    {map : ScopeMap} (present : map.Has scope) :
    (children : Children) → children.Each (Classless Attributes.taken) →
      recordAllCalls factory scope map (children.arguments callee) =
        children.record Attributes.taken scope map
  | .nil, _ => rfl
  | .text _ rest, below => by
    simp only [Children.arguments, recordAllCalls, recordCalls, Children.record,
      recordAllCalls_arguments made present rest below]
  | .element value rest, ⟨first, below⟩ => by
    simp only [Children.arguments, recordAllCalls, Children.record,
      recordCalls_lowered made present value first,
      recordAllCalls_arguments made (has_record present value) rest below]

end

end

/-! The two extractions. -/

/-- A script is read as a single statement, an expression. -/
def Reads (content : String) (expression : Tree) : Prop :=
  ∃ form, Script.parse content = .ok [.group form [expression]]

/-- A compiled script is read as a single statement, an expression. -/
def ReadsCompiled (content : String) (expression : Tree) : Prop :=
  ∃ form, (parseTolerant content).result = some [.group form [expression]]

theorem extract_jsx {content : String} {jsx : Jsx} (reads : Reads content jsx.tree)
    (path : Option Path) :
    Extract.jsx path content = .ok (jsx.record Attributes.written .default {}) := by
  obtain ⟨form, parsed⟩ := reads
  unfold Extract.jsx
  rw [parsed]
  exact congrArg Except.ok (recordElements_tree _ _ jsx)

theorem extract_compiled {content factory : String} {callee : Tree} {jsx : Jsx}
    (made : dottedName? callee = some factory) (reads : ReadsCompiled content (jsx.lowered callee))
    (classless : jsx.Each (Classless Attributes.taken)) :
    (Extract.compiled factory content).map = jsx.record Attributes.taken .default {} := by
  obtain ⟨form, parsed⟩ := reads
  have start : ScopeMap.Has {} .default := rfl
  simp only [Extract.compiled, parsed, Option.getD_some, recordAllCalls, recordCalls,
    recordCalls_lowered made start jsx classless]

/-- A compiled element has the typings of an element whose tags take over the attributes of all elements
inside theirs. Where that changes nothing, these are the typings of the element itself. -/
theorem compiled_map_eq (jsx : Jsx) (factory : String) (callee : Tree) (script : String)
    (made : dottedName? callee = some factory) (reads : ReadsCompiled script (jsx.lowered callee)) :
    (jsx.Each (Classless Attributes.taken) → ∀ path content, Reads content jsx.absorbed.tree →
      Extract.jsx path content = .ok (Extract.compiled factory script).map) ∧
    (jsx.Each (Classless Attributes.written) → jsx.Each Undisturbed →
      ∀ path content, Reads content jsx.tree →
        Extract.jsx path content = .ok (Extract.compiled factory script).map) := by
  refine ⟨fun classless path content written => ?_, fun classless undisturbed path content written => ?_⟩
  · rw [extract_jsx written, extract_compiled made reads classless, record_absorbed]
  · have taken : jsx.Each (Classless Attributes.taken) := Each.combine
      (fun _ attributes classless (same : attributes.taken = attributes.written) module =>
        same ▸ classless module) jsx classless undisturbed
    rw [extract_jsx written, extract_compiled made reads taken, record_undisturbed _ _ jsx undisturbed]

/-- A panel whose header is an element. -/
def panel (header : Attributes) : Jsx :=
  .element "div" (.text "id" "a" (.element "header" (.element "p" header .nil) .nil)) .nil

theorem eq_ok_of_toOption {ε α : Type} {result : Except ε α} {a : α} (h : result.toOption = some a) :
    result = .ok a := by
  cases result with
  | error => contradiction
  | ok => exact congrArg Except.ok (Option.some.inj h)

/-- A header without id and classes. -/
def titled : Attributes := .text "title" "b" .nil

theorem reads_panel :
    Reads "<div id=\"a\" header=\x7b<p title=\"b\"/>\x7d/>" (panel titled).tree :=
  ⟨.statement, eq_ok_of_toOption (by decide +kernel)⟩

theorem readsCompiled_panel :
    ReadsCompiled "h(\"div\", \x7b id: \"a\", header: h(\"p\", \x7b title: \"b\" \x7d) \x7d)"
      ((panel titled).lowered (.identifier "h")) :=
  ⟨.statement, by decide +kernel⟩

theorem compiled_map_eq_panel :
    Extract.jsx none "<div id=\"a\" header=\x7b<p title=\"b\"/>\x7d/>" = .ok (Extract.compiled "h"
      "h(\"div\", \x7b id: \"a\", header: h(\"p\", \x7b title: \"b\" \x7d) \x7d)").map := by
  have both := compiled_map_eq (panel titled) "h" (.identifier "h") _ rfl readsCompiled_panel
  have classless : (panel titled).Each (Classless Attributes.written) :=
    ⟨classless_of_ne (by decide) _ _, ⟨⟨classless_of_ne (by decide) _ _, trivial, trivial⟩, trivial⟩,
      trivial⟩
  have undisturbed : (panel titled).Each Undisturbed := by
    refine ⟨undisturbed_of_idle _ ?_, ⟨⟨undisturbed_of_idle _ ?_, trivial, trivial⟩, trivial⟩, trivial⟩
    · rintro text member
      cases List.mem_singleton.1 member
      exact .inr (by decide)
    · rintro text ⟨⟩
  exact both.2 classless undisturbed none _ reads_panel

/-- An id inside an attribute is taken for that of the element around it, whose own id is lost. -/
theorem compiled_map_ne :
    (panel (.text "id" "b" .nil)).Each (Classless Attributes.written) ∧
    recordCalls "h" .default {} ((panel (.text "id" "b" .nil)).lowered (.identifier "h")) ≠
      recordElements .default {} (panel (.text "id" "b" .nil)).tree ∧
    Extract.jsx none "<div id=\"a\" header=\x7b<p id=\"b\"/>\x7d/>" ≠ .ok (Extract.compiled "h"
      "h(\"div\", \x7b id: \"a\", header: h(\"p\", \x7b id: \"b\" \x7d) \x7d);").map := by
  refine ⟨⟨classless_of_ne (by decide) _ _, ⟨⟨classless_of_ne (by decide) _ _, trivial, trivial⟩, trivial⟩,
    trivial⟩, by decide +kernel, fun same => ?_⟩
  exact absurd (congrArg Except.toOption same) (by decide +kernel)

end Querymap.Script.Jsx
