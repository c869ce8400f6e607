import Querymap.Proofs.Markup.Nested
import Querymap.Proofs.Script.Visits

/-! Forests of elements give the same scopes as markup and as JSX. Markup empties the scope of a module
that opens and JSX keeps it, which is the same where no module comes twice. -/
namespace Querymap.Script

open Markup Dict

/-! The attributes of an element, by what is written last. -/

/-- Attributes with a value. -/
def filled (texts : List (String × String)) : List (String × String) := texts.filter (!·.2.isEmpty)

def isClassName (name : String) : Bool := name == "class" || name == "className"

theorem set_eq {value : String} (filled : ¬value.isEmpty = true) (name : String)
    (own : ElementAttributes) : own.set name value =
      { id := if "id" = name then some value else own.id
        classes := own.classes ++ if isClassName name then [value] else []
        type := if typeAttribute = name then some value else own.type } := by
  rw [ElementAttributes.set, if_neg filled]
  by_cases id : name = "id"
  · subst id
    simp [isClassName, typeAttribute]
  by_cases classes : name = "class" ∨ name = "className"
  · rcases classes with rfl | rfl <;> simp [isClassName, typeAttribute]
  by_cases type : name = typeAttribute
  · subst type
    simp [isClassName, typeAttribute]
  · have plain : isClassName name = false := by simpa [isClassName] using classes
    simp [id, classes, type, plain, Ne.symm id, Ne.symm type]

theorem foldl_set (texts : List (String × String)) (own : ElementAttributes) :
    texts.foldl (fun own (name, value) => own.set name value) own =
      { id := (lastWrite? (filled texts) "id").or own.id
        classes := own.classes ++ ((filled texts).filter (isClassName ·.1)).map (·.2)
        type := (lastWrite? (filled texts) typeAttribute).or own.type } := by
  induction texts generalizing own with
  | nil => simp [filled]
  | cons text rest ih =>
    obtain ⟨name, value⟩ := text
    rw [List.foldl_cons, ih]
    dsimp only
    by_cases empty : value.isEmpty = true
    · simp [ElementAttributes.set, filled, empty]
    · have whole : filled ((name, value) :: rest) = (name, value) :: filled rest := by
        simp [filled, empty]
      rw [whole, lastWrite?_cons, lastWrite?_cons, set_eq empty, Option.or_assoc, Option.or_assoc]
      have given (key : String) (old : Option String) :
          (if key = name then some value else none).or old = if key = name then some value else old := by
        split <;> rfl
      rw [given, given, List.append_assoc]
      cases named : isClassName name <;> simp [named]

/-- Text attributes as the trees of a tag. -/
def attributeTrees (texts : List (String × String)) : List Tree :=
  texts.map fun (name, value) => .attr name (.string (some value))

theorem stringAttributes_attributeTrees (texts : List (String × String)) :
    stringAttributes (attributeTrees texts) = texts := by
  induction texts with
  | nil => rfl
  | cons text rest ih => exact congrArg (text :: ·) ih

/-- A list with at most the member of an option. -/
theorem eq_toList {α : Type} {l : List α} {o : Option α} (nodup : l.Nodup)
    (members : ∀ a, a ∈ l ↔ o = some a) : l = o.toList := by
  have same : l.Perm o.toList := by
    refine (List.perm_ext_iff_of_nodup nodup (by cases o <;> simp)).2 fun a => ?_
    rw [members, Option.mem_toList]
  cases o with
  | none => exact same.eq_nil
  | some a => exact List.perm_singleton.1 same

section

variable {texts : List (String × String)} {attributes : Attributes}

theorem mem_filled (perm : texts.Perm attributes.entries) {name value : String} :
    (name, value) ∈ filled texts ↔ attributes.value? name = some value := by
  rw [filled, List.mem_filter, perm.mem_iff, ← get?_eq_some_iff, Attributes.value?, Option.filter_eq_some_iff]

theorem lastWrite?_filled (perm : texts.Perm attributes.entries) (name : String) :
    lastWrite? (filled texts) name = attributes.value? name := by
  apply Option.ext
  intro value
  rw [lastWrite?_eq_some_iff, mem_filled perm]
  rintro ⟨name, a⟩ first ⟨_, b⟩ second rfl
  exact Option.some.inj (((mem_filled perm).1 first).symm.trans ((mem_filled perm).1 second))

/-- The attributes of an element count alike in markup and in JSX, in any order. -/
theorem ofPairs_eq (perm : texts.Perm attributes.entries)
    (plain : attributes.value? "className" = none) :
    ElementAttributes.ofPairs texts =
      ⟨attributes.value? "id", (attributes.value? "class").toList, attributes.value? typeAttribute⟩ := by
  have nodup : texts.Nodup := by
    refine perm.nodup_iff.2 (attributes.sorted.imp ?_)
    rintro a _ less rfl
    exact String.lt_irrefl _ less
  have classes : (filled texts).filter (isClassName ·.1) =
      ((attributes.value? "class").map ("class", ·)).toList := by
    refine eq_toList ((nodup.filter _).filter _) fun (name, value) => ?_
    rw [List.mem_filter, mem_filled perm, isClassName, Bool.or_eq_true, beq_iff_eq, beq_iff_eq,
      Option.map_eq_some_iff]
    constructor
    · rintro ⟨found, rfl | rfl⟩
      · exact ⟨value, found, rfl⟩
      · cases plain.symm.trans found
    · rintro ⟨_, found, ⟨⟩⟩
      exact ⟨found, .inl rfl⟩
  rw [ElementAttributes.ofPairs, foldl_set, lastWrite?_filled perm, lastWrite?_filled perm, classes]
  cases attributes.value? "class" <;> simp

end

/-! Forests. -/

/-- The JSX of a forest. The attributes of an element stand in any order. -/
inductive Writes : Forest → List Tree → Prop
  | nil : Writes .nil []
  | cons {tag : String} {attributes : Attributes} {texts : List (String × String)}
      {children siblings : Forest} {below trees : List Tree} :
      texts.Perm attributes.entries → Writes children below → Writes siblings trees →
        Writes (.cons tag attributes children siblings)
          (.element tag (attributeTrees texts) [] below :: trees)

/-- An element of which markup and JSX say the same. -/
structure Common (tag : String) (attributes : Attributes) : Prop where
  template : tag = templateTag → attributes.value? "id" = none
  module : tag = moduleTag → attributes.value? "class" = none
  plain : attributes.value? "className" = none

instance (tag : String) (attributes : Attributes) : Decidable (Common tag attributes) :=
  decidable_of_iff ((tag = templateTag → attributes.value? "id" = none) ∧
    (tag = moduleTag → attributes.value? "class" = none) ∧ attributes.value? "className" = none)
    ⟨fun ⟨template, module, plain⟩ => ⟨template, module, plain⟩,
      fun ⟨template, module, plain⟩ => ⟨template, module, plain⟩⟩

theorem foldl_attributeTrees (scope : ScopeKey) (map : ScopeMap) (texts : List (String × String)) :
    (attributeTrees texts).foldl (recordElements scope) map = map := by
  induction texts with
  | nil => rfl
  | cons _ _ ih => exact ih

section

variable {tag : String} {attributes : Attributes} {texts : List (String × String)}

theorem recordElement_common (common : Common tag attributes) (map : ScopeMap) (scope : ScopeKey)
    (element : tag ≠ moduleTag) :
    recordElement map scope tag []
      ⟨attributes.value? "id", (attributes.value? "class").toList, attributes.value? typeAttribute⟩ =
    Recorder.recordElement map scope tag attributes := by
  rw [recordElement, Recorder.recordElement]
  cases given : attributes.value? "id" with
  | none => cases attributes.value? "class" <;> rfl
  | some id =>
    have other : tag ≠ templateTag := fun template => by
      cases (common.template template).symm.trans given
    have type : Recorder.idType tag attributes =
        (attributes.value? typeAttribute).getD (Element.typeName (some tag) []) := by
      rw [Recorder.idType, if_neg other]
      cases attributes.value? typeAttribute <;> rfl
    simp only [if_neg element, ElementAttributes.idType, if_neg other, type]
    cases attributes.value? "class" <;> rfl

theorem touch_eq_reset {map : ScopeMap} {key : ScopeKey} (new : map.get? key = none) :
    map.touch key = map.reset key := by
  rw [ScopeMap.touch, ScopeMap.modify, new]
  rfl

theorem place_of_module {id : String} (opens : moduleId? tag attributes = some id) {map : ScopeMap}
    (new : map.get? (.named id) = none) (scope : ScopeKey) :
    place map ⟨tag, attributes, scope⟩ = map.touch (.named id) := by
  have module : tag = moduleTag := Classical.byContradiction fun other => by
    rw [moduleId?, if_neg other] at opens
    contradiction
  rw [place, if_pos module, opens, touch_eq_reset new]

theorem recordTree_of_common (common : Common tag attributes) (perm : texts.Perm attributes.entries)
    (closed : moduleId? tag attributes = none) (map : ScopeMap) (scope : ScopeKey) (below : List Tree) :
    recordTree map scope (.element tag (attributeTrees texts) [] below) =
      place map ⟨tag, attributes, scope⟩ := by
  rw [recordTree, stringAttributes_attributeTrees, ofPairs_eq perm common.plain, place, closed]
  by_cases module : tag = moduleTag
  · have unnamed : attributes.value? "id" = none := by rwa [moduleId?, if_pos module] at closed
    rw [if_pos module, unnamed, common.module module]
    rfl
  · rw [if_neg module]
    exact recordElement_common common map _ module

/-- An element is entered in JSX as it is placed in markup, if its scope is new. -/
theorem recordElements_common (common : Common tag attributes)
    (perm : texts.Perm attributes.entries) {map : ScopeMap}
    (fresh : ∀ id, moduleId? tag attributes = some id → map.get? (.named id) = none)
    (ancestors : List (String × Attributes)) (below : List Tree) :
    recordElements (nearest ancestors) map (.element tag (attributeTrees texts) [] below) =
      recordAllElements (nearest ((tag, attributes) :: ancestors))
        (place map ⟨tag, attributes, nearest ancestors⟩) below := by
  have module : elementModule? (.element tag (attributeTrees texts) [] below) =
      moduleId? tag attributes := by
    rw [elementModule?, stringAttributes_attributeTrees, ofPairs_eq perm common.plain, moduleId?]
  rw [recordElements_eq, module, nearest_cons, recordAllElements_eq_foldl, Tree.parts]
  cases opens : moduleId? tag attributes with
  | some id => simp only [place_of_module opens (fresh id opens), List.foldl_append, foldl_attributeTrees]
  | none =>
    simp only [recordTree_of_common common perm opens, List.foldl_append, foldl_attributeTrees]

end

/-- The ids of the modules that open scopes, in order. -/
def openedIds (placed : List Placed) : List String :=
  placed.filterMap fun tag => moduleId? tag.tag tag.attributes

/-- A module whose id no other one has finds no scope of its name. -/
theorem get?_eq_none_of_nodup {map : ScopeMap} {before after : List Placed} {tag : Placed}
    (holds : Holds map before) (distinct : (openedIds (before ++ tag :: after)).Nodup) {id : String}
    (opens : moduleId? tag.tag tag.attributes = some id) : map.get? (.named id) = none := by
  refine Option.eq_none_iff_forall_ne_some.2 fun scope known => ?_
  have again : id ∈ openedIds (tag :: after) := List.mem_filterMap.2 ⟨tag, List.mem_cons_self, opens⟩
  rw [openedIds, List.filterMap_append] at distinct
  rcases ((holds _ _).1 known).1 with default | ⟨earlier, member, same⟩
  · cases default
  · have first : id ∈ openedIds before :=
      List.mem_filterMap.2 ⟨earlier, member, by simpa [Placed.opens] using same⟩
    exact (List.nodup_append.1 distinct).2.2 id first id again rfl

/-- Recording the events of a forest is recording its JSX. -/
theorem run_writes {forest : Forest} {trees : List Tree} (writes : Writes forest trees)
    {recorder : Recorder} {before : List Placed} {ancestors : List (String × Attributes)}
    (holds : Holds recorder.map before) (current : recorder.current = nearest ancestors)
    (inside : Present before (nearest ancestors))
    (common : ∀ opening ∈ forest.openings ancestors, Common opening.tag opening.attributes)
    (distinct : (openedIds (before ++ (forest.openings ancestors).map Opening.placed)).Nodup) :
    Recorder.run .nested recorder forest.events =
      ⟨recordAllElements (nearest ancestors) recorder.map trees, recorder.current, recorder.outer⟩ := by
  induction writes generalizing recorder before ancestors with
  | nil => rfl
  | @cons tag attributes texts children siblings below trees perm _ _ ihBelow ihTrees =>
    simp only [Forest.openings, List.forall_mem_cons, List.forall_mem_append] at common
    simp only [Forest.openings, List.map_cons, List.map_append, Opening.placed] at distinct
    obtain ⟨own, commonBelow, commonBeside⟩ := common
    have opened := Recorder.step_opened current tag attributes
    have entered : Holds (Recorder.step .nested recorder (.opened tag attributes)).map
        (before ++ [⟨tag, attributes, nearest ancestors⟩]) := by
      rw [opened]
      exact holds_place holds inside
    have within := Recorder.present_within inside tag attributes
    have element := recordElements_common own perm
      (fun id opens => get?_eq_none_of_nodup holds distinct opens) ancestors below
    rw [List.append_cons, ← List.append_assoc] at distinct
    have ran := ihBelow entered (by rw [opened]) within commonBelow
      (distinct.sublist ((List.sublist_append_left _ _).filterMap _))
    obtain ⟨inner, placed, holdsInner⟩ :=
      Recorder.run_nested children entered (by rw [opened]) within
    -- Both runs end in the same scopes, of which one says what they hold.
    cases placed.symm.trans ran
    have led := ran
    rw [opened, ← element] at led
    rw [opened, ← element] at holdsInner
    have rest := ihTrees
      (show Holds (Recorder.mk _ recorder.current recorder.outer).map _ from holdsInner) current
      ((inside.append _).append _) commonBeside distinct
    exact (Recorder.run_cons current (opened ▸ led) siblings).trans rest

/-- Where no module comes twice and every element says the same in both, the markup of a forest gives
the scopes that its JSX gives. -/
theorem record_eq_recordAllElements {forest : Forest} {trees : List Tree} (writes : Writes forest trees)
    (common : ∀ opening ∈ forest.openings [], Common opening.tag opening.attributes)
    (distinct : (openedIds forest.placed).Nodup) :
    record .nested forest.events = recordAllElements .default {} trees := by
  have outside : Present [] (nearest []) := .inl rfl
  exact congrArg Recorder.map (run_writes writes holds_nil rfl outside common distinct)

/-- A module around another one, and a template without an id. -/
def modules : Forest :=
  .cons "dom-module" (.ofList [("id", "m")])
    (.cons "p" (.ofList [("id", "a"), ("class", "b c"), ("data-element-type", "Row")]) .nil
      (.cons "dom-module" (.ofList [("id", "n")])
        (.cons "li" (.ofList [("id", "a")]) .nil .nil)
        (.cons "ul" (.ofList [("id", "d")]) .nil .nil)))
    (.cons "template" (.ofList [("class", "t")]) .nil .nil)

def moduleTrees : List Tree := [
  .element "dom-module" (attributeTrees [("id", "m")]) [] [
    .element "p" (attributeTrees [("id", "a"), ("class", "b c"), ("data-element-type", "Row")]) [] [],
    .element "dom-module" (attributeTrees [("id", "n")]) [] [
      .element "li" (attributeTrees [("id", "a")]) [] []],
    .element "ul" (attributeTrees [("id", "d")]) [] []],
  .element "template" (attributeTrees [("class", "t")]) [] []]

theorem record_eq_moduleTrees : Writes modules moduleTrees ∧
    record .nested modules.events = recordAllElements .default {} moduleTrees ∧
    (recordAllElements .default {} moduleTrees).get? (.named "m") =
      some ⟨.ofList [("#a", "Row"), ("#d", "HTMLUListElement")], [("b", "Row"), ("c", "Row")]⟩ := by
  have writes : Writes modules moduleTrees :=
    .cons (by decide +kernel) (.cons (by decide +kernel) .nil (.cons (by decide +kernel)
      (.cons (by decide +kernel) .nil .nil) (.cons (by decide +kernel) .nil .nil)))
      (.cons (by decide +kernel) .nil .nil)
  have same := record_eq_recordAllElements writes (by decide +kernel) (by decide +kernel)
  exact ⟨writes, same, by decide +kernel⟩

end Querymap.Script
