import Querymap.Extract

/-! The recordings of a script as visitors that keep the scope in their state, and as one pass over all
trees in source order. A visitor leaves every tree with the scope it came with; each element is recorded
once, in the scope of the nearest module around it. -/
namespace Querymap.Script

/-! The trees of a script in source order. -/

theorem Tree.sizeOf_part {part tree : Tree} (member : part ∈ tree.parts) : sizeOf part < sizeOf tree := by
  cases tree with
  | identifier | string => contradiction
  | member | field | spread | attr =>
    cases List.mem_singleton.1 member
    simp +arith
  | call callee arguments =>
    rcases List.mem_cons.1 member with rfl | inside
    · simp +arith
    · have := List.sizeOf_lt_of_mem inside
      simp +arith
      omega
  | object parts | group _ parts =>
    have := List.sizeOf_lt_of_mem (show part ∈ parts from member)
    simp +arith
    omega
  | element _ attributes _ children =>
    rcases List.mem_append.1 member with inside | inside <;>
      have := List.sizeOf_lt_of_mem inside <;> simp +arith <;> omega

/-- What holds of a tree if it holds of its parts holds of all trees. -/
theorem Tree.induction_parts {P : Tree → Prop} (step : ∀ tree, (∀ part ∈ tree.parts, P part) → P tree)
    (tree : Tree) : P tree :=
  step tree fun part _ => induction_parts step part
termination_by sizeOf tree
decreasing_by exact Tree.sizeOf_part ‹_›

/-- A tree in a script, with the trees around it, the innermost first. -/
structure Occurrence where
  tree : Tree
  around : List Tree

/-- A tree, followed by the trees inside it in source order. -/
def Tree.preorder (around : List Tree) (tree : Tree) : List Occurrence :=
  ⟨tree, around⟩ :: tree.parts.attach.flatMap fun part => part.1.preorder (tree :: around)
termination_by sizeOf tree
decreasing_by exact Tree.sizeOf_part part.2

theorem Tree.preorder_eq (around : List Tree) (tree : Tree) :
    tree.preorder around = ⟨tree, around⟩ :: tree.parts.flatMap (·.preorder (tree :: around)) := by
  rw [preorder, List.flatMap_subtype (g := fun part => part.preorder (tree :: around)) fun _ _ => rfl,
    List.unattach_attach]

/-- All trees of a script in source order. -/
def occurrences (items : List Tree) : List Occurrence := items.flatMap (·.preorder [])

/-- The scope of the nearest module. -/
def moduleScope (module? : Tree → Option String) (trees : List Tree) : ScopeKey :=
  match trees.findSome? module? with
  | some id => .named id
  | none => .default

theorem moduleScope_cons (module? : Tree → Option String) (tree : Tree) (around : List Tree) :
    moduleScope module? (tree :: around) =
      match module? tree with
      | some id => .named id
      | none => moduleScope module? around := by
  simp only [moduleScope, List.findSome?_cons]
  cases module? tree <;> rfl

/-! JSX elements. -/

/-- The id of a JSX element that is a module. -/
def elementModule? : Tree → Option String
  | .element tag attributes _ _ =>
    if tag = Markup.moduleTag then (ElementAttributes.ofPairs (stringAttributes attributes)).id
    else none
  | _ => none

/-- Records a JSX element that is no module with an id; other trees have nothing to record. -/
def recordTree (map : ScopeMap) (scope : ScopeKey) : Tree → ScopeMap
  | .element tag attributes typeArguments _ =>
    recordElement map scope tag typeArguments (.ofPairs (stringAttributes attributes))
  | _ => map

/-- What an occurrence adds to the scopes. A module with an id adds its scope, if it is new. -/
def enterElement (map : ScopeMap) (occurrence : Occurrence) : ScopeMap :=
  match elementModule? occurrence.tree with
  | some id => map.touch (.named id)
  | none => recordTree map (moduleScope elementModule? occurrence.around) occurrence.tree

structure ElementVisitor where
  map : ScopeMap := {}
  scope : ScopeKey := .default

/-- Visits a tree. A module with an id replaces the scope for what is inside it, and puts it back. -/
def ElementVisitor.visit (visitor : ElementVisitor) (tree : Tree) : ElementVisitor :=
  match elementModule? tree with
  | some id =>
    let inside := tree.parts.attach.foldl (fun visitor part => visitor.visit part.1)
      (ElementVisitor.mk (visitor.map.touch (.named id)) (.named id))
    { inside with scope := visitor.scope }
  | none =>
    tree.parts.attach.foldl (fun visitor part => visitor.visit part.1)
      { visitor with map := recordTree visitor.map visitor.scope tree }
termination_by sizeOf tree
decreasing_by all_goals exact Tree.sizeOf_part part.2

theorem recordAllElements_eq_foldl (scope : ScopeKey) (map : ScopeMap) (trees : List Tree) :
    recordAllElements scope map trees = trees.foldl (recordElements scope) map := by
  induction trees generalizing map with
  | nil => rfl
  | cons tree rest ih => exact ih _

/-- The recursion that hands the scope down: first the tree, then its parts. -/
theorem recordElements_eq (scope : ScopeKey) (map : ScopeMap) (tree : Tree) :
    recordElements scope map tree =
      match elementModule? tree with
      | some id => tree.parts.foldl (recordElements (.named id)) (map.touch (.named id))
      | none => tree.parts.foldl (recordElements scope) (recordTree map scope tree) := by
  cases tree with
  | element tag attributes typeArguments children =>
    simp only [recordElements, elementModule?, recordTree, Tree.parts, List.foldl_append,
      recordAllElements_eq_foldl]
    by_cases module : tag = Markup.moduleTag
    · cases (ElementAttributes.ofPairs (stringAttributes attributes)).id <;> simp [module]
    · simp [module]
  | identifier | string => rfl
  | member | field | spread | attr => rfl
  | call | object | group =>
    simp [recordElements, elementModule?, recordTree, Tree.parts, recordAllElements_eq_foldl]

theorem foldl_parts {σ : Type} (visit : σ → Tree → σ) (state : σ) (tree : Tree) :
    tree.parts.attach.foldl (fun state part => visit state part.1) state =
      tree.parts.foldl visit state := by
  rw [List.foldl_subtype (g := visit) fun _ _ _ => rfl, List.unattach_attach]

/-- Visits that each record and keep the rest of the state do so one after the other. -/
theorem foldl_visit {σ : Type} {state : ScopeMap → σ} {visit : σ → Tree → σ}
    {record : ScopeMap → Tree → ScopeMap} {trees : List Tree}
    (visits : ∀ tree ∈ trees, ∀ map, visit (state map) tree = state (record map tree)) (map : ScopeMap) :
    trees.foldl visit (state map) = state (trees.foldl record map) := by
  induction trees generalizing map with
  | nil => rfl
  | cons tree rest ih =>
    rw [List.foldl_cons, visits tree List.mem_cons_self map]
    exact ih (fun other member => visits other (List.mem_cons_of_mem _ member)) _

/-- The visitor records what the recursion does, and comes out in the scope it came with. -/
theorem ElementVisitor.visit_eq (visitor : ElementVisitor) (tree : Tree) :
    visitor.visit tree = ⟨recordElements visitor.scope visitor.map tree, visitor.scope⟩ := by
  induction tree using Tree.induction_parts generalizing visitor with
  | step tree ih =>
    have inside (map : ScopeMap) (scope : ScopeKey) : tree.parts.foldl visit ⟨map, scope⟩ =
        ⟨tree.parts.foldl (recordElements scope) map, scope⟩ :=
      foldl_visit (fun part member map => ih part member ⟨map, scope⟩) map
    rw [visit, recordElements_eq]
    cases elementModule? tree <;> simp only [foldl_parts, inside]

/-- Trees that are each recorded by one pass are recorded by one pass together. -/
theorem foldl_preorder {record : ScopeMap → Tree → ScopeMap} {enter : ScopeMap → Occurrence → ScopeMap}
    {around trees : List Tree}
    (each : ∀ tree ∈ trees, ∀ map, record map tree = (tree.preorder around).foldl enter map)
    (map : ScopeMap) :
    trees.foldl record map = (trees.flatMap (·.preorder around)).foldl enter map := by
  rw [List.foldl_flatMap]
  exact @foldl_visit ScopeMap id record _ trees each map

theorem recordElements_preorder (map : ScopeMap) (around : List Tree) (tree : Tree) :
    recordElements (moduleScope elementModule? around) map tree =
      (tree.preorder around).foldl enterElement map := by
  induction tree using Tree.induction_parts generalizing map around with
  | step tree ih =>
    have inside := foldl_preorder fun part member map => ih part member map (tree :: around)
    rw [recordElements_eq, Tree.preorder_eq, List.foldl_cons, ← inside, enterElement, moduleScope_cons]
    cases elementModule? tree <;> rfl

/-! Calls that make elements. -/

/-- The tag and the attributes of the element that a call makes. -/
def made? (factory : String) : Tree → Option (String × ElementAttributes)
  | .call callee arguments =>
    (madeTag? factory callee arguments).map fun tag => (tag, madeAttributes arguments)
  | _ => none

/-- An argument that names an element: a text, or a component. -/
def Names (argument : Tree) (tag : String) : Prop :=
  argument = .string (some tag) ∨
    argument = .identifier tag ∧ ∃ c ∈ tag.toList.head?, 'A' ≤ c ∧ c ≤ 'Z'

theorem head?_any_isUpper (name : String) :
    name.toList.head?.any Char.isUpper = true ↔ ∃ c ∈ name.toList.head?, 'A' ≤ c ∧ c ≤ 'Z' := by
  have upper (c : Char) : c.isUpper = true ↔ 'A' ≤ c ∧ c ≤ 'Z' :=
    decide_eq_true_iff
  cases name.toList.head? <;> simp [upper]

theorem madeTag?_eq_some_iff {factory tag : String} {callee : Tree} {arguments : List Tree} :
    madeTag? factory callee arguments = some tag ↔
      dottedName? callee = some factory ∧ ∃ first ∈ arguments.head?, Names first tag := by
  unfold madeTag?
  by_cases dotted : dottedName? callee = some factory
  · simp only [dotted, if_true, true_and]
    split
    · simp [Names]
    · next name _ =>
      constructor
      · intro named
        split at named
        · next upper =>
          cases named
          exact ⟨_, rfl, .inr ⟨rfl, (head?_any_isUpper _).1 upper⟩⟩
        · contradiction
      · rintro ⟨_, ⟨⟩, names⟩
        rcases names with texts | ⟨same, upper⟩
        · cases texts
        · cases same
          rw [if_pos ((head?_any_isUpper _).2 upper)]
    · next texts identifiers =>
      constructor
      · intro named
        contradiction
      · rintro ⟨first, head, names⟩
        obtain ⟨rest, rfl⟩ := List.head?_eq_some_iff.1 head
        rcases names with rfl | ⟨rfl, _⟩
        · exact absurd rfl (texts _ _)
        · exact absurd rfl (identifiers _ _)
  · simp [dotted]

theorem made?_eq_some_iff {factory : String} {tree : Tree} {tag : String}
    {attributes : ElementAttributes} : made? factory tree = some (tag, attributes) ↔
      ∃ callee arguments, tree = .call callee arguments ∧ dottedName? callee = some factory ∧
        (∃ first ∈ arguments.head?, Names first tag) ∧ attributes = madeAttributes arguments := by
  cases tree with
  | call callee arguments =>
    have makes : made? factory (.call callee arguments) = some (tag, attributes) ↔
        madeTag? factory callee arguments = some tag ∧ attributes = madeAttributes arguments := by
      rw [made?, Option.map_eq_some_iff]
      constructor
      · rintro ⟨_, named, ⟨⟩⟩
        exact ⟨named, rfl⟩
      · rintro ⟨named, rfl⟩
        exact ⟨_, named, rfl⟩
    rw [makes, madeTag?_eq_some_iff, and_assoc]
    constructor
    · exact fun parts => ⟨_, _, rfl, parts⟩
    · rintro ⟨_, _, ⟨⟩, parts⟩
      exact parts
  | _ => simp [made?]

/-- The id of a module that a call makes. -/
def callModule? (factory : String) (tree : Tree) : Option String :=
  (made? factory tree).bind fun (tag, attributes) =>
    if tag = Markup.moduleTag then attributes.id else none

/-- What an occurrence adds to the scopes. A module with an id is in its own scope. -/
def enterCall (factory : String) (map : ScopeMap) (occurrence : Occurrence) : ScopeMap :=
  match made? factory occurrence.tree with
  | some (tag, attributes) =>
    let scope := moduleScope (callModule? factory) (occurrence.tree :: occurrence.around)
    recordElement (map.touch scope) scope tag [] attributes
  | none => map

structure CallVisitor where
  map : ScopeMap := {}
  /-- The scopes of the modules around, the innermost first. -/
  modules : List ScopeKey := []

def CallVisitor.scope (visitor : CallVisitor) : ScopeKey := visitor.modules.head?.getD .default

/-- Visits a tree. A module with an id is pushed before what is inside it, and popped after that. -/
def CallVisitor.visit (factory : String) (visitor : CallVisitor) (tree : Tree) : CallVisitor :=
  match made? factory tree with
  | none => tree.parts.attach.foldl (fun visitor part => visitor.visit factory part.1) visitor
  | some (tag, attributes) =>
    let opened := match callModule? factory tree with
      | some id => { visitor with modules := .named id :: visitor.modules }
      | none => visitor
    let recorded := { opened with
      map := recordElement (opened.map.touch opened.scope) opened.scope tag [] attributes }
    let inside := tree.parts.attach.foldl (fun visitor part => visitor.visit factory part.1) recorded
    if (callModule? factory tree).isSome then { inside with modules := inside.modules.tail } else inside
termination_by sizeOf tree
decreasing_by all_goals exact Tree.sizeOf_part part.2

theorem recordAllCalls_eq_foldl (factory : String) (scope : ScopeKey) (map : ScopeMap)
    (trees : List Tree) :
    recordAllCalls factory scope map trees = trees.foldl (recordCalls factory scope) map := by
  induction trees generalizing map with
  | nil => rfl
  | cons tree rest ih => exact ih _

/-- The scope of an element that a call makes, and of what is inside it. -/
def callScope (factory : String) (scope : ScopeKey) (tree : Tree) : ScopeKey :=
  match callModule? factory tree with
  | some id => .named id
  | none => scope

theorem recordCalls_eq (factory : String) (scope : ScopeKey) (map : ScopeMap) (tree : Tree) :
    recordCalls factory scope map tree =
      tree.parts.foldl (recordCalls factory (callScope factory scope tree))
        (match made? factory tree with
        | some (tag, attributes) =>
          recordElement (map.touch (callScope factory scope tree)) (callScope factory scope tree) tag []
            attributes
        | none => map) := by
  cases tree with
  | call callee arguments =>
    simp only [recordCalls, made?, callScope, callModule?, Tree.parts, List.foldl_cons,
      recordAllCalls_eq_foldl]
    cases madeTag? factory callee arguments with
    | none => rfl
    | some tag =>
      have same : innerScope scope tag (madeAttributes arguments) =
        match (if tag = Markup.moduleTag then (madeAttributes arguments).id else none) with
        | some id => .named id
        | none => scope := by
        unfold innerScope
        by_cases module : tag = Markup.moduleTag <;> cases (madeAttributes arguments).id <;> simp [module]
      simp only [same, Option.map_some, Option.bind_some]
  | identifier | string => rfl
  | member | field | spread | attr => rfl
  | object | group | element =>
    simp [recordCalls, made?, callScope, callModule?, Tree.parts, recordAllCalls_eq_foldl]

theorem callModule?_of_not_made {factory : String} {tree : Tree} (idle : made? factory tree = none) :
    callModule? factory tree = none := by
  rw [callModule?, idle, Option.bind_none]

/-- The visitor records what the recursion does. What it pushes for a module it pops again, since the
visits in between leave the stack as it is. -/
theorem CallVisitor.visit_eq (factory : String) (visitor : CallVisitor) (tree : Tree) :
    visitor.visit factory tree =
      ⟨recordCalls factory visitor.scope visitor.map tree, visitor.modules⟩ := by
  induction tree using Tree.induction_parts generalizing visitor with
  | step tree ih =>
    have inside (map : ScopeMap) (modules : List ScopeKey) :
        tree.parts.foldl (visit factory) ⟨map, modules⟩ =
          ⟨tree.parts.foldl (recordCalls factory (modules.head?.getD .default)) map, modules⟩ :=
      foldl_visit (fun part member map => ih part member ⟨map, modules⟩) map
    rw [visit, recordCalls_eq]
    cases makes : made? factory tree with
    | none =>
      simp only [foldl_parts, inside, callScope, callModule?_of_not_made makes, CallVisitor.scope]
    | some element =>
      obtain ⟨tag, attributes⟩ := element
      cases opens : callModule? factory tree <;>
        simp [inside, callScope, opens, CallVisitor.scope]

theorem recordCalls_preorder (factory : String) (map : ScopeMap) (around : List Tree) (tree : Tree) :
    recordCalls factory (moduleScope (callModule? factory) around) map tree =
      (tree.preorder around).foldl (enterCall factory) map := by
  induction tree using Tree.induction_parts generalizing map around with
  | step tree ih =>
    have inside := foldl_preorder fun part member map => ih part member map (tree :: around)
    have scope : callScope factory (moduleScope (callModule? factory) around) tree =
        moduleScope (callModule? factory) (tree :: around) := (moduleScope_cons ..).symm
    rw [recordCalls_eq, scope, inside, Tree.preorder_eq, List.foldl_cons, enterCall]

/-! Whole scripts. -/

/-- The recordings of a script, said of the trees in it alone. -/
structure ExactlyScoped (factory : String) (items : List Tree) : Prop where
  /-- A visitor does what the recursion does that hands the scope down, and keeps its scope. -/
  element_visit : ∀ (visitor : ElementVisitor) tree,
    visitor.visit tree = ⟨recordElements visitor.scope visitor.map tree, visitor.scope⟩
  call_visit : ∀ (visitor : CallVisitor) tree, visitor.visit factory tree =
    ⟨recordCalls factory visitor.scope visitor.map tree, visitor.modules⟩
  /-- Every tree is entered once, in source order, in the scope of the nearest module. -/
  elements : items.foldl ElementVisitor.visit {} =
    ⟨(occurrences items).foldl enterElement {}, .default⟩
  calls : items.foldl (CallVisitor.visit factory) {} =
    ⟨(occurrences items).foldl (enterCall factory) {}, []⟩
  /-- The calls that make elements. -/
  makes : ∀ tree tag attributes, made? factory tree = some (tag, attributes) ↔
    ∃ callee arguments, tree = .call callee arguments ∧ dottedName? callee = some factory ∧
      (∃ first ∈ arguments.head?, Names first tag) ∧ attributes = madeAttributes arguments
  /-- The extractions are the runs of the visitors. -/
  jsx : ∀ path content, Script.parse content = .ok items →
    Extract.jsx path content = .ok (items.foldl ElementVisitor.visit {}).map
  compiled : ∀ content, (parseTolerant content).result = some items →
    (Extract.compiled factory content).map = (items.foldl (CallVisitor.visit factory) {}).map

theorem exactlyScoped (factory : String) (items : List Tree) : ExactlyScoped factory items := by
  have elements : items.foldl ElementVisitor.visit {} =
      ⟨recordAllElements .default {} items, .default⟩ := by
    rw [recordAllElements_eq_foldl]
    exact foldl_visit (fun tree _ map => ElementVisitor.visit_eq ⟨map, .default⟩ tree) {}
  have calls : items.foldl (CallVisitor.visit factory) {} =
      ⟨recordAllCalls factory .default {} items, []⟩ := by
    rw [recordAllCalls_eq_foldl]
    exact foldl_visit (fun tree _ map => CallVisitor.visit_eq factory ⟨map, []⟩ tree) {}
  have enteredElements : recordAllElements .default {} items =
      (occurrences items).foldl enterElement {} := by
    rw [recordAllElements_eq_foldl]
    exact foldl_preorder (fun tree _ map => recordElements_preorder map [] tree) {}
  have enteredCalls : recordAllCalls factory .default {} items =
      (occurrences items).foldl (enterCall factory) {} := by
    rw [recordAllCalls_eq_foldl]
    exact foldl_preorder (fun tree _ map => recordCalls_preorder factory map [] tree) {}
  refine ⟨ElementVisitor.visit_eq, CallVisitor.visit_eq factory, elements.trans (by rw [enteredElements]),
    calls.trans (by rw [enteredCalls]), fun _ _ _ => made?_eq_some_iff, fun path content parsed => ?_,
    fun content parsed => ?_⟩
  · rw [Extract.jsx, parsed, elements]
  · rw [Extract.compiled, parsed, calls]
    rfl

end Querymap.Script
