import Querymap.Merge
import Querymap.Proofs.Scope

/-! Merging as writing: each file adds its writes to the five dictionaries of a model, and the classes
are written at the end as unions of types. From that the merged model is described by look-ups alone. -/
namespace Querymap.Merge

open Dict

theorem withoutHash_hash (id : String) : withoutHash ("#" ++ id) = id := by
  simp [withoutHash]

/-- The ids of a scope without their `#`. -/
def plainIds (scope : Scope) : Dict String :=
  ofList (scope.ids.entries.map fun entry => (withoutHash entry.1, entry.2))

theorem lastWrite?_plain {scope : Scope} (hashed : scope.Hashed) (id : String) :
    lastWrite? (scope.ids.entries.map fun entry => (withoutHash entry.1, entry.2)) id =
      scope.ids.get? ("#" ++ id) := by
  have named : ∀ entry ∈ scope.ids.entries, (withoutHash entry.1 = id ↔ entry.1 = "#" ++ id) := by
    intro entry member
    obtain ⟨own, hash⟩ := hashed entry member
    rw [hash, withoutHash_hash, String.append_right_inj]
  rw [lastWrite?_map (·.2) named, lastWrite?_entries]
  simp

theorem get?_plainIds {scope : Scope} (hashed : scope.Hashed) (id : String) :
    (plainIds scope).get? id = scope.ids.get? ("#" ++ id) := by
  rw [plainIds, get?_ofList, lastWrite?_plain hashed]

def idWrites (map : ScopeMap) : List (String × String) :=
  map.default.ids.entries.map fun entry => (withoutHash entry.1, entry.2)

def moduleWrites (map : ScopeMap) : List (String × Dict String) :=
  map.named.entries.map fun entry => (entry.1, plainIds entry.2)

def tagWrites (map : ScopeMap) : List (String × String) :=
  map.named.entries.map fun entry => (entry.1, Element.typeName (some entry.1) [])

/-- What a file gives to selectors other than classes: the ids of its default scope, then its
modules. -/
def selectorWrites (map : ScopeMap) : List (String × String) :=
  map.default.ids.entries ++ tagWrites map

/-- A class and a type for each class of an element, in any scope. -/
def classPairs (map : ScopeMap) : List (String × String) :=
  map.scopes.flatMap (·.2.classes)

/-- A model after further writes, which do not concern classes. -/
def written (model : Model) (maps : List ScopeMap) : Model :=
  { model with
    ids := model.ids.insertAll (maps.flatMap idWrites)
    modules := model.modules.insertAll (maps.flatMap moduleWrites)
    tags := model.tags.insertAll (maps.flatMap tagWrites)
    selectors := model.selectors.insertAll (maps.flatMap selectorWrites) }

def addPair (types : Dict (Dict Unit)) (pair : String × String) : Dict (Dict Unit) :=
  types.insert pair.1 (((types.get? pair.1).getD ∅).insert pair.2 ())

namespace Collector

theorem foldl_addClass (pairs : List (String × String)) (collector : Collector) :
    pairs.foldl addClass collector = ⟨collector.model, pairs.foldl addPair collector.classTypes⟩ := by
  induction pairs generalizing collector with
  | nil => rfl
  | cons pair rest ih => exact ih (collector.addClass pair)

theorem foldl_addDefaultId (entries : List (String × String)) (collector : Collector) :
    entries.foldl addDefaultId collector =
      { collector with
        model := { collector.model with
          ids := collector.model.ids.insertAll
            (entries.map fun entry => (withoutHash entry.1, entry.2))
          selectors := collector.model.selectors.insertAll entries } } := by
  induction entries generalizing collector with
  | nil => rfl
  | cons entry rest ih => exact ih (collector.addDefaultId entry)

theorem foldl_addNamed (entries : List (String × Scope)) (collector : Collector) :
    (entries.map fun entry => (ScopeKey.named entry.1, entry.2)).foldl addScope collector =
      { model := { collector.model with
          modules := collector.model.modules.insertAll
            (entries.map fun entry => (entry.1, plainIds entry.2))
          tags := collector.model.tags.insertAll
            (entries.map fun entry => (entry.1, Element.typeName (some entry.1) []))
          selectors := collector.model.selectors.insertAll
            (entries.map fun entry => (entry.1, Element.typeName (some entry.1) [])) }
        classTypes := (entries.flatMap (·.2.classes)).foldl addPair collector.classTypes } := by
  induction entries generalizing collector with
  | nil => rfl
  | cons entry rest ih =>
    rw [List.map_cons, List.foldl_cons, ih, List.flatMap_cons, List.foldl_append]
    simp only [addScope, foldl_addClass]
    rfl

theorem add_eq (collector : Collector) (map : ScopeMap) :
    collector.add map =
      ⟨written collector.model [map], (classPairs map).foldl addPair collector.classTypes⟩ := by
  simp only [add, ScopeMap.scopes, List.foldl_cons, foldl_addNamed, addScope, foldl_addClass,
    foldl_addDefaultId, classPairs, List.flatMap_cons, List.foldl_append, List.flatMap_map, written,
    List.flatMap_nil, List.append_nil, selectorWrites, insertAll_append]
  rfl

theorem foldl_add (maps : List ScopeMap) (collector : Collector) :
    maps.foldl add collector =
      ⟨written collector.model maps, (maps.flatMap classPairs).foldl addPair collector.classTypes⟩ := by
  induction maps generalizing collector with
  | nil => rfl
  | cons map rest ih =>
    rw [List.foldl_cons, ih, add_eq]
    simp only [written, List.flatMap_cons, List.foldl_append, insertAll_append, List.flatMap_nil,
      List.append_nil]

end Collector

/-- The types of a class are joined in increasing order. -/
def union (types : Dict Unit) : String := String.intercalate "|" types.keys

theorem Collector.finish_eq (collector : Collector) :
    collector.finish =
      { collector.model with
        selectors := collector.model.selectors.insertAll
          (collector.classTypes.entries.map fun entry => ("." ++ entry.1, union entry.2))
        classes := collector.model.classes.insertAll
          (collector.classTypes.entries.map fun entry => (entry.1, union entry.2)) } := by
  obtain ⟨model, ⟨entries, sorted⟩⟩ := collector
  simp only [finish]
  clear sorted
  induction entries generalizing model with
  | nil => rfl
  | cons entry rest ih => exact ih (addUnion model entry)

/-- A type is among those of a class. -/
def Typed (types : Dict (Dict Unit)) (name type : String) : Prop :=
  ∃ kinds, types.get? name = some kinds ∧ (kinds.get? type).isSome

theorem typed_addPair {types : Dict (Dict Unit)} {pair : String × String} {name type : String} :
    Typed (addPair types pair) name type ↔ Typed types name type ∨ (name, type) = pair := by
  obtain ⟨own, added⟩ := pair
  simp only [Typed, addPair, get?_insert, Prod.mk.injEq]
  by_cases same : name = own
  · subst same
    by_cases equal : type = added
    · simp [equal]
    · cases known : types.get? name <;> simp [equal]
  · simp [same]

theorem typed_foldl_addPair {pairs : List (String × String)} {types : Dict (Dict Unit)}
    {name type : String} :
    Typed (pairs.foldl addPair types) name type ↔ Typed types name type ∨ (name, type) ∈ pairs := by
  induction pairs generalizing types with
  | nil => simp
  | cons pair rest ih => rw [List.foldl_cons, ih, typed_addPair, List.mem_cons, or_assoc]

/-- No class is without types. -/
def AllTyped (types : Dict (Dict Unit)) : Prop :=
  ∀ name kinds, types.get? name = some kinds → ∃ type, (kinds.get? type).isSome

theorem allTyped_foldl_addPair {pairs : List (String × String)} {types : Dict (Dict Unit)}
    (all : AllTyped types) : AllTyped (pairs.foldl addPair types) := by
  induction pairs generalizing types with
  | nil => exact all
  | cons pair rest ih =>
    refine ih fun name kinds found => ?_
    rw [addPair, get?_insert] at found
    split at found
    · cases found
      exact ⟨pair.2, by simp⟩
    · exact all name kinds found

end Querymap.Merge

namespace Querymap.FileTypings

open Dict Merge

theorem mergeAll_eq (files : FileTypings) :
    files.mergeAll = Collector.finish
      ⟨written {} files.values, (files.values.flatMap classPairs).foldl addPair ∅⟩ := by
  rw [mergeAll, Collector.foldl_add]

/-- All maps come from recording steps. -/
def Recorded (files : FileTypings) : Prop :=
  ∀ map ∈ files.values, ∃ steps, map = ScopeMap.ofSteps steps

/-- What the last file in path order says that says anything. -/
def lastFile? {β : Type} (files : FileTypings) (view : ScopeMap → Option β) : Option β :=
  files.values.reverse.findSome? view

/-- Some scope of some file pairs the class with the type. -/
def Pairs (files : FileTypings) (name type : String) : Prop :=
  ∃ path map, files.get? path = some map ∧ ∃ key scope, map.get? key = some scope ∧
    (name, type) ∈ scope.classes

theorem pairs_iff {files : FileTypings} {name type : String} :
    files.Pairs name type ↔ (name, type) ∈ files.values.flatMap classPairs := by
  simp only [Pairs, classPairs, List.mem_flatMap, mem_values_iff, Prod.exists,
    ScopeMap.mem_scopes_iff]
  constructor
  · rintro ⟨path, map, found, key, scope, inside, member⟩
    exact ⟨map, ⟨path, found⟩, key, scope, inside, member⟩
  · rintro ⟨map, ⟨path, found⟩, key, scope, inside, member⟩
    exact ⟨path, map, found, key, scope, inside, member⟩

/-- The types of each class in all files. -/
def classTypes (files : FileTypings) : Dict (Dict Unit) :=
  (files.values.flatMap classPairs).foldl addPair ∅

theorem typed_classTypes {files : FileTypings} {name type : String} :
    Typed files.classTypes name type ↔ files.Pairs name type := by
  rw [classTypes, typed_foldl_addPair, pairs_iff]
  simp [Typed]

theorem allTyped_classTypes (files : FileTypings) : AllTyped files.classTypes :=
  allTyped_foldl_addPair fun _ _ found => by simp at found

variable {files : FileTypings}

theorem lastFile?_congr {β : Type} {view view' : ScopeMap → Option β}
    (same : ∀ map ∈ files.values, view map = view' map) :
    files.lastFile? view = files.lastFile? view' := by
  have reversed : ∀ map ∈ files.values.reverse, view map = view' map := fun map member =>
    same map (List.mem_reverse.1 member)
  simp only [lastFile?]
  revert reversed
  induction files.values.reverse with
  | nil => exact fun _ => rfl
  | cons map rest ih =>
    intro same
    rw [List.findSome?_cons, List.findSome?_cons, same map List.mem_cons_self,
      ih fun other member => same other (List.mem_cons_of_mem _ member)]

theorem mem_of_lastFile? {β : Type} {view : ScopeMap → Option β} {value : β}
    (last : files.lastFile? view = some value) : ∃ map ∈ files.values, view map = some value := by
  obtain ⟨map, member, found⟩ := List.exists_of_findSome?_eq_some last
  exact ⟨map, List.mem_reverse.1 member, found⟩

theorem hashed_default (recorded : files.Recorded) {map : ScopeMap} (member : map ∈ files.values) :
    map.default.Hashed := by
  obtain ⟨steps, rfl⟩ := recorded map member
  exact @Scope.hashed_ofSteps steps .default _ rfl

theorem hashed_named (recorded : files.Recorded) {map : ScopeMap} (member : map ∈ files.values)
    {name : String} {scope : Scope} (found : map.named.get? name = some scope) : scope.Hashed := by
  obtain ⟨steps, rfl⟩ := recorded map member
  exact @Scope.hashed_ofSteps steps (.named name) _ found

theorem get?_ids (recorded : files.Recorded) (id : String) :
    files.mergeAll.ids.get? id = files.lastFile? (·.default.ids.get? ("#" ++ id)) := by
  rw [mergeAll_eq, Collector.finish_eq]
  simp only [written, get?_insertAll, lastWrite?_flatMap, get?_emptyCollection, Option.or_none]
  exact lastFile?_congr fun map member => lastWrite?_plain (hashed_default recorded member) id

theorem get?_modules (name : String) :
    files.mergeAll.modules.get? name =
      (files.lastFile? (·.named.get? name)).map plainIds := by
  rw [mergeAll_eq, Collector.finish_eq]
  simp only [written, get?_insertAll, lastWrite?_flatMap, get?_emptyCollection, Option.or_none]
  rw [lastFile?, List.map_findSome?]
  refine lastFile?_congr fun map _ => ?_
  rw [moduleWrites, lastWrite?_map_entries _ fun entry => plainIds entry.2]
  rfl

theorem lastWrite?_tagWrites (map : ScopeMap) (name : String) :
    lastWrite? (tagWrites map) name =
      (map.named.get? name).map fun _ => Element.typeName (some name) [] := by
  rw [tagWrites, lastWrite?_map_entries _ fun entry => Element.typeName (some entry.1) []]

theorem get?_tags (name : String) :
    files.mergeAll.tags.get? name =
      (files.lastFile? (·.named.get? name)).map fun _ => Element.typeName (some name) [] := by
  rw [mergeAll_eq, Collector.finish_eq]
  simp only [written, get?_insertAll, lastWrite?_flatMap, get?_emptyCollection, Option.or_none]
  rw [lastFile?, List.map_findSome?]
  exact lastFile?_congr fun map _ => lastWrite?_tagWrites map name

theorem get?_classes (name : String) :
    files.mergeAll.classes.get? name = (files.classTypes.get? name).map union := by
  rw [mergeAll_eq, Collector.finish_eq]
  simp only [written, get?_insertAll, get?_emptyCollection, Option.or_none]
  rw [lastWrite?_map_entries _ fun entry => union entry.2]
  rfl

theorem get?_selectors (key : String) :
    files.mergeAll.selectors.get? key =
      (lastWrite? (files.classTypes.entries.map fun entry => ("." ++ entry.1, union entry.2)) key).or
        (lastWrite? (files.values.flatMap selectorWrites) key) := by
  rw [mergeAll_eq, Collector.finish_eq]
  simp only [written, get?_insertAll, get?_emptyCollection, Option.or_none]
  rfl

theorem get?_selectors_class {name : String} (known : (files.mergeAll.classes.get? name).isSome) :
    files.mergeAll.selectors.get? ("." ++ name) = files.mergeAll.classes.get? name := by
  rw [get?_classes] at known ⊢
  rw [get?_selectors, lastWrite?_map (fun entry => union entry.2)
    (fun entry _ => String.append_right_inj "." : ∀ entry ∈ files.classTypes.entries, _),
    lastWrite?_entries]
  cases found : files.classTypes.get? name with
  | none => simp [found] at known
  | some types => rfl

/-- No class has this selector. -/
def NoClass (files : FileTypings) (key : String) : Prop :=
  ∀ name, key = "." ++ name → files.mergeAll.classes.get? name = none

theorem get?_selectors_other {key : String} (other : files.NoClass key) :
    files.mergeAll.selectors.get? key =
      lastWrite? (files.values.flatMap selectorWrites) key := by
  have none : lastWrite? (files.classTypes.entries.map fun entry =>
      ("." ++ entry.1, union entry.2)) key = none := by
    rw [lastWrite?_eq_none_iff]
    intro write member same
    obtain ⟨⟨name, types⟩, inside, rfl⟩ := List.mem_map.1 member
    have absent := other name same.symm
    rw [get?_classes, get?_eq_some_iff.2 inside] at absent
    contradiction
  rw [get?_selectors, none, Option.none_or]

theorem lastFile?_isSome {β : Type} {view : ScopeMap → Option β} :
    (files.lastFile? view).isSome ↔ ∃ map ∈ files.values, (view map).isSome := by
  simp [lastFile?, List.findSome?_isSome_iff]

theorem selectorWrites_isSome (recorded : files.Recorded) {key : String} :
    (lastWrite? (files.values.flatMap selectorWrites) key).isSome ↔
      (∃ id, key = "#" ++ id ∧ (files.mergeAll.ids.get? id).isSome) ∨
        (files.mergeAll.modules.get? key).isSome := by
  have split : ∀ map, (lastWrite? (selectorWrites map) key).isSome ↔
      (map.default.ids.get? key).isSome ∨ (map.named.get? key).isSome := by
    intro map
    rw [selectorWrites, lastWrite?_append, lastWrite?_entries, lastWrite?_tagWrites]
    simp [Option.isSome_or, or_comm]
  rw [get?_modules, Option.isSome_map, lastFile?_isSome, lastWrite?_flatMap]
  change (files.lastFile? _).isSome ↔ _
  simp only [lastFile?_isSome, split, get?_ids recorded]
  constructor
  · rintro ⟨map, member, inIds | inModules⟩
    · obtain ⟨type, found⟩ := Option.isSome_iff_exists.1 inIds
      obtain ⟨id, rfl⟩ := hashed_default recorded member _ (get?_eq_some_iff.1 found)
      exact .inl ⟨id, rfl, map, member, inIds⟩
    · exact .inr ⟨map, member, inModules⟩
  · rintro (⟨id, rfl, map, member, inIds⟩ | ⟨map, member, inModules⟩)
    · exact ⟨map, member, .inl inIds⟩
    · exact ⟨map, member, .inr inModules⟩

/-- All that a merged model holds, said of the files alone. -/
structure Describes (files : FileTypings) (model : Model) : Prop where
  ids : ∀ id, model.ids.get? id = files.lastFile? (·.default.ids.get? ("#" ++ id))
  noModule : ∀ name, files.lastFile? (·.named.get? name) = none → model.modules.get? name = none
  modules : ∀ name scope, files.lastFile? (·.named.get? name) = some scope →
    ∃ ids, model.modules.get? name = some ids ∧ ∀ id, ids.get? id = scope.ids.get? ("#" ++ id)
  tags : ∀ name, model.tags.get? name =
    (model.modules.get? name).map fun _ => Element.typeName (some name) []
  noClass : ∀ name, model.classes.get? name = none ↔ ∀ type, ¬files.Pairs name type
  classes : ∀ name types, model.classes.get? name = some types →
    ∃ sorted : List String, sorted.Pairwise (· < ·) ∧ (∀ type, type ∈ sorted ↔ files.Pairs name type) ∧
      types = String.intercalate "|" sorted
  /-- Selectors are those of classes, of ids of default scopes and of modules. -/
  selectors : ∀ key, (model.selectors.get? key).isSome ↔
    (∃ name, key = "." ++ name ∧ (model.classes.get? name).isSome) ∨
      (∃ id, key = "#" ++ id ∧ (model.ids.get? id).isSome) ∨ (model.modules.get? key).isSome
  classSelectors : ∀ name, (model.classes.get? name).isSome →
    model.selectors.get? ("." ++ name) = model.classes.get? name
  otherSelectors : ∀ key, (∀ name, key = "." ++ name → model.classes.get? name = none) →
    model.selectors.get? key = lastWrite? (files.values.flatMap selectorWrites) key

theorem describes_mergeAll (files : FileTypings) (recorded : files.Recorded) :
    files.Describes files.mergeAll where
  ids := get?_ids recorded
  noModule name absent := by rw [get?_modules, absent, Option.map_none]
  modules name scope last := by
    obtain ⟨map, member, found⟩ := mem_of_lastFile? last
    refine ⟨plainIds scope, by rw [get?_modules, last, Option.map_some], fun id => ?_⟩
    exact get?_plainIds (hashed_named recorded member found) id
  tags name := by
    rw [get?_tags, get?_modules, Option.map_map]
    rfl
  noClass name := by
    rw [get?_classes, Option.map_eq_none_iff]
    constructor
    · rintro absent type pairs
      obtain ⟨kinds, found, _⟩ := typed_classTypes.2 pairs
      rw [absent] at found
      contradiction
    · intro none
      cases found : files.classTypes.get? name with
      | none => rfl
      | some kinds =>
        obtain ⟨type, known⟩ := allTyped_classTypes files name kinds found
        exact absurd (typed_classTypes.1 ⟨kinds, found, known⟩) (none type)
  classes name types found := by
    rw [get?_classes, Option.map_eq_some_iff] at found
    obtain ⟨kinds, found, rfl⟩ := found
    refine ⟨kinds.keys, kinds.keys_sorted, fun type => ?_, rfl⟩
    rw [mem_keys_iff, ← typed_classTypes]
    simp [Typed, found]
  selectors key := by
    by_cases other : files.NoClass key
    · rw [get?_selectors_other other, selectorWrites_isSome recorded]
      refine ⟨.inr, fun held => held.resolve_left ?_⟩
      rintro ⟨name, same, known⟩
      simp [other name same] at known
    · simp only [NoClass, Classical.not_forall, exists_prop] at other
      obtain ⟨name, rfl, known⟩ := other
      have known := Option.isSome_iff_ne_none.2 known
      rw [get?_selectors_class known]
      simp only [known, true_iff]
      exact .inl ⟨name, rfl, known⟩
  classSelectors name known := get?_selectors_class known
  otherSelectors key other := get?_selectors_other other

/-- Two files with a module each, of which one is called like a class and one like an id. -/
def lookalikes : FileTypings := .ofList [
  ("a.html", ScopeMap.ofSteps [.id .default "x" "HTMLElement",
    .classes .default "c d" "HTMLDivElement", .touch (.named ".c")]),
  ("b.html", ScopeMap.ofSteps [.id (.named "#x") "y" "HTMLBodyElement", .reset (.named "#x"),
    .classes (.named "#x") "c" "HTMLBodyElement"])]

theorem describes_lookalikes : lookalikes.Recorded ∧ lookalikes.Describes lookalikes.mergeAll ∧
    lookalikes.mergeAll.selectors.entries = [("#x", "HTML#xElement"),
      (".c", "HTMLBodyElement|HTMLDivElement"), (".d", "HTMLDivElement")] := by
  have recorded : lookalikes.Recorded := by
    have values : lookalikes.values = [ScopeMap.ofSteps _, ScopeMap.ofSteps _] := rfl
    intro map member
    rw [values] at member
    rcases member with _ | ⟨_, _ | ⟨_, ⟨⟩⟩⟩
    · exact ⟨_, rfl⟩
    · exact ⟨_, rfl⟩
  exact ⟨recorded, describes_mergeAll lookalikes recorded, by decide +kernel⟩

end Querymap.FileTypings
