import Mathlib.Data.List.Induction
import Querymap.Declaration
import Querymap.Proofs.Attribution

/-! Recording in another order. Of a scope map only the ids of its scopes and the set of its classes with
their types are merged, so recording steps may change places as long as those for one id of one scope keep
theirs. -/
namespace Querymap.ScopeMap

open Dict

section Scopes

variable (key : ScopeKey) (name type : String)

@[simp] theorem Step.scope_id : (Step.id key name type).scope = key := rfl
@[simp] theorem Step.scope_classes : (Step.classes key name type).scope = key := rfl
@[simp] theorem Step.scope_touch : (Step.touch key).scope = key := rfl
@[simp] theorem Step.scope_reset : (Step.reset key).scope = key := rfl

end Scopes

/-- The step only adds; it empties no scope. -/
def Step.Records : Step → Prop
  | .reset _ => False
  | .id .. | .classes .. | .touch _ => True

instance (step : Step) : Decidable step.Records :=
  match step with
  | .reset _ => isFalse fun records => records
  | .id .. | .classes .. | .touch _ => isTrue trivial

/-- Both steps give a type to the same id of the same scope. -/
def Step.sameId : Step → Step → Bool
  | .id key name _, .id key' name' _ => key = key' ∧ name = name'
  | _, _ => false

def Step.idWrite? : Step → Option (String × String)
  | .id _ name type => some ("#" ++ name, type)
  | _ => none

def Step.classEntries : Step → List (String × String)
  | .classes _ names type => (Text.words names.toList).map fun name => (String.ofList name, type)
  | _ => []

/-- Any other step for this id has the same others beside it. -/
theorem Step.sameId_eq {step : Step} {key : ScopeKey} {name type : String}
    (same : (Step.id key name type).sameId step = true) :
    step.sameId = (Step.id key name type).sameId := by
  cases step with
  | id key' name' type' =>
    obtain ⟨rfl, rfl⟩ : key = key' ∧ name = name' := by simpa [sameId] using same
    funext other
    cases other <;> rfl
  | classes | touch | reset => simp [sameId] at same

/-- The same recording steps in another order, in which the steps for each id of a scope stand as before. -/
structure Reordered (steps steps' : List Step) : Prop where
  records : ∀ step ∈ steps, step.Records
  perm : steps.Perm steps'
  ids : ∀ step ∈ steps, steps.filter step.sameId = steps'.filter step.sameId

/-! What recording steps leave in a scope. -/

section Recording

variable {steps steps' : List Step} {key : ScopeKey}

/-- A scope after those of the steps that concern it. -/
def recorded (key : ScopeKey) (steps : List Step) : Scope :=
  (steps.filter (·.scope = key)).foldl (fun scope step => step.change scope) {}

theorem recorded_concat (key : ScopeKey) (steps : List Step) (step : Step) :
    recorded key (steps ++ [step]) =
      if step.scope = key then step.change (recorded key steps) else recorded key steps := by
  by_cases own : step.scope = key <;> simp [recorded, own]

/-- The default scope exists from the start, any other one from its first step on. -/
def Present (key : ScopeKey) (steps : List Step) : Prop :=
  key = .default ∨ ∃ step ∈ steps, step.scope = key

theorem present_concat {step : Step} :
    Present key (steps ++ [step]) ↔ Present key steps ∨ step.scope = key := by
  simp [Present, or_and_right, exists_or, or_assoc]

theorem get?_ofSteps_iff (steps : List Step) (key : ScopeKey) (scope : Scope) :
    (ofSteps steps).get? key = some scope ↔ Present key steps ∧ scope = recorded key steps := by
  induction steps using List.reverseRecOn generalizing key scope with
  | nil => cases key <;> simp [ofSteps, get?, Present, recorded, eq_comm]
  | append_singleton steps step ih =>
    have applied : ofSteps (steps ++ [step]) = (ofSteps steps).apply step := by
      rw [ofSteps, List.foldl_append, ofSteps]
      rfl
    rw [applied, get?_apply, present_concat, recorded_concat]
    by_cases own : step.scope = key
    · subst own
      have before : ((ofSteps steps).get? step.scope).getD {} = recorded step.scope steps := by
        cases found : (ofSteps steps).get? step.scope with
        | some scope => exact ((ih step.scope scope).1 found).2
        | none =>
          have absent : ¬Present step.scope steps := fun present => by
            rw [(ih step.scope _).2 ⟨present, rfl⟩] at found
            contradiction
          have none : steps.filter (·.scope = step.scope) = [] := by
            apply List.filter_eq_nil_iff.2
            intro other member same
            exact absent (.inr ⟨other, member, by simpa using same⟩)
          rw [recorded, none]
          rfl
      simp [before, eq_comm]
    · simpa [own, Ne.symm own] using ih key scope

theorem ids_foldl_change (records : ∀ step ∈ steps, step.Records) (scope : Scope) (selector : String) :
    (steps.foldl (fun scope step => step.change scope) scope).ids.get? selector =
      (lastWrite? (steps.filterMap Step.idWrite?) selector).or (scope.ids.get? selector) := by
  induction steps generalizing scope with
  | nil => rfl
  | cons step rest ih =>
    obtain ⟨first, others⟩ := List.forall_mem_cons.1 records
    rw [List.foldl_cons, ih others]
    cases step with
    | id key id type =>
      simp only [Step.change, Scope.recordId, get?_insert, List.filterMap_cons, Step.idWrite?,
        lastWrite?_cons]
      cases lastWrite? (rest.filterMap Step.idWrite?) selector with
      | some found => rfl
      | none => by_cases own : selector = "#" ++ id <;> simp [own]
    | classes | touch => rfl
    | reset => exact first.elim

theorem classes_foldl_change (records : ∀ step ∈ steps, step.Records) (scope : Scope) :
    (steps.foldl (fun scope step => step.change scope) scope).classes =
      scope.classes ++ steps.flatMap Step.classEntries := by
  induction steps generalizing scope with
  | nil => exact (List.append_nil _).symm
  | cons step rest ih =>
    obtain ⟨first, others⟩ := List.forall_mem_cons.1 records
    rw [List.foldl_cons, ih others]
    cases step with
    | classes key names type =>
      simp [Step.change, Scope.recordClasses, Step.classEntries]
    | id | touch => rfl
    | reset => exact first.elim

theorem records_filter {p : Step → Bool} (records : ∀ step ∈ steps, step.Records) :
    ∀ step ∈ steps.filter p, step.Records :=
  fun step member => records step ((List.mem_filter.1 member).1)

/-- Only the steps for one id decide on its type. -/
theorem lastWrite?_own (key : ScopeKey) (name : String) (steps : List Step) :
    lastWrite? ((steps.filter (·.scope = key)).filterMap Step.idWrite?) ("#" ++ name) =
      lastWrite? ((steps.filter (Step.id key name "").sameId).filterMap Step.idWrite?)
        ("#" ++ name) := by
  induction steps with
  | nil => rfl
  | cons step rest ih =>
    cases step with
    | id key' name' type =>
      by_cases scope : key' = key
      · subst scope
        by_cases own : name = name'
        · subst own
          simp [Step.sameId, Step.idWrite?, lastWrite?_cons, ih]
        · simp [Step.sameId, Step.idWrite?, lastWrite?_cons, ih, own]
      · simp [Step.sameId, scope, Ne.symm scope, ih]
    | classes key' | touch key' | reset key' =>
      by_cases scope : key' = key <;>
        simp [Step.sameId, Step.idWrite?, List.filterMap_cons, scope, ih]

theorem mem_classPairs_ofSteps (records : ∀ step ∈ steps, step.Records) {pair : String × String} :
    pair ∈ Merge.classPairs (ofSteps steps) ↔ ∃ step ∈ steps, pair ∈ step.classEntries := by
  have classes (key : ScopeKey) :
      (recorded key steps).classes = (steps.filter (·.scope = key)).flatMap Step.classEntries := by
    rw [recorded, classes_foldl_change (records_filter records)]
    rfl
  simp only [Merge.classPairs, List.mem_flatMap, Prod.exists, mem_scopes_iff, get?_ofSteps_iff]
  constructor
  · rintro ⟨key, _, ⟨present, rfl⟩, member⟩
    rw [classes] at member
    obtain ⟨step, kept, member⟩ := List.mem_flatMap.1 member
    exact ⟨step, (List.mem_filter.1 kept).1, member⟩
  · rintro ⟨step, listed, member⟩
    refine ⟨step.scope, _, ⟨.inr ⟨step, listed, rfl⟩, rfl⟩, ?_⟩
    rw [classes]
    exact List.mem_flatMap.2 ⟨step, List.mem_filter.2 ⟨listed, decide_eq_true rfl⟩, member⟩

end Recording

/-! What merging sees of a scope map. -/

/-- The same ids in the same scopes, and the same classes with the same types, wherever they were met and
how often. -/
structure MergesAs (map other : ScopeMap) : Prop where
  default : map.default.ids = other.default.ids
  named : map.named.mapValues (·.ids) = other.named.mapValues (·.ids)
  classes : ∀ pair, pair ∈ Merge.classPairs map ↔ pair ∈ Merge.classPairs other

namespace Reordered

variable {steps steps' : List Step} (reordered : Reordered steps steps')

include reordered

theorem records' : ∀ step ∈ steps', step.Records :=
  fun step member => reordered.records step (reordered.perm.mem_iff.2 member)

theorem present_iff (key : ScopeKey) : Present key steps ↔ Present key steps' := by
  simp only [Present, reordered.perm.mem_iff]

theorem filter_sameId (key : ScopeKey) (id : String) :
    steps.filter (Step.id key id "").sameId = steps'.filter (Step.id key id "").sameId := by
  by_cases told : ∃ step ∈ steps, (Step.id key id "").sameId step = true
  · obtain ⟨step, member, same⟩ := told
    rw [← Step.sameId_eq same]
    exact reordered.ids step member
  · have silent : ∀ step ∈ steps, ¬(Step.id key id "").sameId step = true :=
      fun step member same => told ⟨step, member, same⟩
    rw [List.filter_eq_nil_iff.2 silent, List.filter_eq_nil_iff.2]
    exact fun step member => silent step (reordered.perm.mem_iff.2 member)

theorem ids_recorded (key : ScopeKey) : (recorded key steps).ids = (recorded key steps').ids := by
  apply ext_get?
  intro selector
  rw [recorded, recorded, ids_foldl_change (records_filter reordered.records),
    ids_foldl_change (records_filter reordered.records')]
  refine congrArg (Option.or · _) ?_
  by_cases plain : ∃ id, selector = "#" ++ id
  · obtain ⟨id, rfl⟩ := plain
    rw [lastWrite?_own, lastWrite?_own, reordered.filter_sameId]
  · have unwritten (steps : List Step) : lastWrite? (steps.filterMap Step.idWrite?) selector = none := by
      apply lastWrite?_eq_none_iff.2
      intro write member same
      obtain ⟨step, _, writes⟩ := List.mem_filterMap.1 member
      cases step with
      | id key id type =>
        cases writes
        exact plain ⟨id, same.symm⟩
      | classes | touch | reset => contradiction
    rw [unwritten, unwritten]

theorem get?_map_ids (key : ScopeKey) :
    ((ofSteps steps).get? key).map (·.ids) = ((ofSteps steps').get? key).map (·.ids) := by
  apply Option.ext
  intro ids
  simp only [Option.map_eq_some_iff, get?_ofSteps_iff, reordered.present_iff]
  constructor
  · rintro ⟨_, ⟨present, rfl⟩, rfl⟩
    exact ⟨_, ⟨present, rfl⟩, (reordered.ids_recorded key).symm⟩
  · rintro ⟨_, ⟨present, rfl⟩, rfl⟩
    exact ⟨_, ⟨present, rfl⟩, reordered.ids_recorded key⟩

theorem mergesAs : MergesAs (ofSteps steps) (ofSteps steps') where
  default := Option.some.inj (reordered.get?_map_ids .default)
  named := by
    apply ext_get?
    intro name
    rw [get?_mapValues, get?_mapValues]
    exact reordered.get?_map_ids (.named name)
  classes pair := by
    simp only [mem_classPairs_ofSteps reordered.records, mem_classPairs_ofSteps reordered.records',
      reordered.perm.mem_iff]

end Reordered

namespace MergesAs

variable {map other : ScopeMap} (alike : map.MergesAs other)

include alike

theorem moduleWrites_eq : Merge.moduleWrites map = Merge.moduleWrites other := by
  have byIds (map : ScopeMap) : Merge.moduleWrites map =
      (map.named.mapValues (·.ids)).entries.map fun entry =>
        (entry.1, ofList (entry.2.entries.map fun id => (Merge.withoutHash id.1, id.2))) := by
    simp [Merge.moduleWrites, Merge.plainIds, mapValues]
  rw [byIds, byIds, alike.named]

theorem tagWrites_eq : Merge.tagWrites map = Merge.tagWrites other := by
  have byIds (map : ScopeMap) : Merge.tagWrites map =
      (map.named.mapValues (·.ids)).entries.map fun entry =>
        (entry.1, Element.typeName (some entry.1) []) := by
    simp [Merge.tagWrites, mapValues]
  rw [byIds, byIds, alike.named]

theorem idWrites_eq : Merge.idWrites map = Merge.idWrites other := by
  rw [Merge.idWrites, Merge.idWrites, alike.default]

theorem selectorWrites_eq : Merge.selectorWrites map = Merge.selectorWrites other := by
  rw [Merge.selectorWrites, Merge.selectorWrites, alike.default, alike.tagWrites_eq]

end MergesAs

end Querymap.ScopeMap

namespace Querymap.FileTypings

open Dict Merge

variable {files others : FileTypings}

/-- The same files, of which each merges as before. -/
structure MergeAs (files others : FileTypings) : Prop where
  paths : files.keys = others.keys
  maps : ∀ path map other, files.get? path = some map → others.get? path = some other →
    map.MergesAs other

namespace MergeAs

variable (alike : files.MergeAs others)

include alike

theorem get?_map {α : Type} {view : ScopeMap → α}
    (agree : ∀ {map other : ScopeMap}, map.MergesAs other → view map = view other) (path : String) :
    (files.get? path).map view = (others.get? path).map view := by
  have known : (files.get? path).isSome ↔ (others.get? path).isSome := by
    rw [← mem_keys_iff, ← mem_keys_iff, alike.paths]
  cases here : files.get? path with
  | none =>
    cases there : others.get? path with
    | none => rfl
    | some other => simp [here, there] at known
  | some map =>
    cases there : others.get? path with
    | none => simp [here, there] at known
    | some other => exact congrArg some (agree (alike.maps path map other here there))

theorem flatMap_values {α : Type} {view : ScopeMap → List α}
    (agree : ∀ {map other : ScopeMap}, map.MergesAs other → view map = view other) :
    files.values.flatMap view = others.values.flatMap view := by
  have viewed (files : FileTypings) :
      files.values.flatMap view = (files.mapValues view).values.flatten := by
    simp [values, mapValues, List.flatMap, Function.comp_def]
  have equal : files.mapValues view = others.mapValues view := by
    apply ext_get?
    intro path
    rw [get?_mapValues, get?_mapValues, alike.get?_map agree]
  rw [viewed, viewed, equal]

theorem written_eq : written {} files.values = written {} others.values := by
  simp only [written, alike.flatMap_values ScopeMap.MergesAs.idWrites_eq,
    alike.flatMap_values ScopeMap.MergesAs.moduleWrites_eq,
    alike.flatMap_values ScopeMap.MergesAs.tagWrites_eq,
    alike.flatMap_values ScopeMap.MergesAs.selectorWrites_eq]

theorem symm : others.MergeAs files where
  paths := alike.paths.symm
  maps path map other here there :=
    let back := alike.maps path other map there here
    ⟨back.default.symm, back.named.symm, fun pair => (back.classes pair).symm⟩

theorem pairs (name type : String) (held : files.Pairs name type) : others.Pairs name type := by
  obtain ⟨path, map, found, key, scope, inside, member⟩ := held
  obtain ⟨other, there⟩ : ∃ other, others.get? path = some other := by
    apply Option.isSome_iff_exists.1
    rw [← mem_keys_iff, ← alike.paths, mem_keys_iff, found]
    rfl
  have own : (name, type) ∈ classPairs map :=
    List.mem_flatMap.2 ⟨(key, scope), ScopeMap.mem_scopes_iff.2 inside, member⟩
  obtain ⟨⟨key, scope⟩, listed, member⟩ :=
    List.mem_flatMap.1 (((alike.maps path map other found there).classes (name, type)).1 own)
  exact ⟨path, other, there, key, scope, ScopeMap.mem_scopes_iff.1 listed, member⟩

theorem classTypes_eq : files.classTypes = others.classTypes := by
  apply ext_get?
  intro name
  apply classTypes_congr
  intro type
  exact ⟨alike.pairs name type, alike.symm.pairs name type⟩

theorem mergeAll_eq : files.mergeAll = others.mergeAll := by
  have types := alike.classTypes_eq
  rw [classTypes, classTypes] at types
  rw [FileTypings.mergeAll_eq, FileTypings.mergeAll_eq, alike.written_eq, types]

end MergeAs

theorem only_ofList {name path : String} {map found : ScopeMap}
    (known : (Dict.ofList [(name, map)]).get? path = some found) : found = map := by
  have written := mem_of_lastWrite? ((get?_ofList _ _).symm.trans known)
  exact congrArg Prod.snd (List.mem_singleton.1 written)

/-- One file is merged like all files together. -/
theorem merge_eq_of_mergesAs {map other : ScopeMap} (alike : map.MergesAs other) :
    map.merge = other.merge := by
  have single (map : ScopeMap) : map.merge = mergeAll (Dict.ofList [("", map)]) := rfl
  rw [single, single]
  refine MergeAs.mergeAll_eq ⟨rfl, fun path one two here there => ?_⟩
  rw [only_ofList here, only_ofList there]
  exact alike

theorem MergeAs.mergeEach_eq (alike : files.MergeAs others) : files.mergeEach = others.mergeEach := by
  apply ext_get?
  intro path
  rw [mergeEach, mergeEach, get?_mapValues, get?_mapValues, alike.get?_map merge_eq_of_mergesAs]

/-- The same files, of which each was recorded in two orders. -/
structure Reordered (files others : FileTypings) : Prop where
  paths : files.keys = others.keys
  maps : ∀ path map other, files.get? path = some map → others.get? path = some other →
    ∃ steps steps', ScopeMap.Reordered steps steps' ∧ map = ScopeMap.ofSteps steps ∧
      other = ScopeMap.ofSteps steps'

theorem Reordered.mergeAs (reordered : files.Reordered others) : files.MergeAs others where
  paths := reordered.paths
  maps path map other here there := by
    obtain ⟨steps, steps', moved, rfl, rfl⟩ := reordered.maps path map other here there
    exact moved.mergesAs

/-- The order of recording leaves no trace in what is merged or written out. -/
theorem merge_reordered :
    (∀ steps steps', ScopeMap.Reordered steps steps' →
      (ScopeMap.ofSteps steps).merge = (ScopeMap.ofSteps steps').merge) ∧
    ∀ files others : FileTypings, files.Reordered others →
      files.mergeAll = others.mergeAll ∧ files.mergeEach = others.mergeEach ∧
        ∀ exported, files.mergeAll.declaration exported = others.mergeAll.declaration exported ∧
          files.mergeEach.mapValues (·.declaration exported) =
            others.mergeEach.mapValues (·.declaration exported) := by
  refine ⟨fun steps steps' reordered => merge_eq_of_mergesAs reordered.mergesAs, ?_⟩
  intro files others reordered
  have all := reordered.mergeAs.mergeAll_eq
  have each := reordered.mergeAs.mergeEach_eq
  refine ⟨all, each, fun exported => ?_⟩
  rw [all, each]
  exact ⟨rfl, rfl⟩

/-- An id that is recorded twice, beside a module and classes. -/
def listed : List ScopeMap.Step := [
  .classes .default "a\tb  a" "HTMLDivElement", .id .default "x" "HTMLElement",
  .touch (.named "m"), .id .default "x" "HTMLSpanElement",
  .classes (.named "m") "b" "HTMLBodyElement", .id (.named "m") "x" "HTMLElement"]

/-- The same steps as in `listed`, those for the id of the default scope in their order. -/
def shuffled : List ScopeMap.Step := [
  .classes (.named "m") "b" "HTMLBodyElement", .id .default "x" "HTMLElement",
  .id (.named "m") "x" "HTMLElement", .id .default "x" "HTMLSpanElement",
  .touch (.named "m"), .classes .default "a\tb  a" "HTMLDivElement"]

theorem merge_reordered_shuffled :
    ScopeMap.Reordered listed shuffled ∧
    (ScopeMap.ofSteps listed).merge = (ScopeMap.ofSteps shuffled).merge ∧
    Reordered (.ofList [("p.html", ScopeMap.ofSteps listed)])
      (.ofList [("p.html", ScopeMap.ofSteps shuffled)]) ∧
    mergeAll (.ofList [("p.html", ScopeMap.ofSteps listed)]) =
      mergeAll (.ofList [("p.html", ScopeMap.ofSteps shuffled)]) ∧
    (ScopeMap.ofSteps shuffled).merge.classes.entries =
      [("a", "HTMLDivElement"), ("b", "HTMLBodyElement|HTMLDivElement")] ∧
    (ScopeMap.ofSteps shuffled).merge.ids.entries = [("x", "HTMLSpanElement")] := by
  have moved : ScopeMap.Reordered listed shuffled := ⟨by decide, by decide, by decide⟩
  have files : Reordered (.ofList [("p.html", ScopeMap.ofSteps listed)])
      (.ofList [("p.html", ScopeMap.ofSteps shuffled)]) := by
    refine ⟨rfl, fun path map other here there => ⟨listed, shuffled, moved, ?_⟩⟩
    rw [only_ofList here, only_ofList there]
    exact ⟨rfl, rfl⟩
  exact ⟨moved, merge_reordered.1 listed shuffled moved, files, (merge_reordered.2 _ _ files).1,
    by decide +kernel, by decide +kernel⟩

end Querymap.FileTypings
