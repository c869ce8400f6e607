import Querymap.Proofs.Merge

/-! What the change of one file can move in the merged model. A look-up sees the files only through what
each of them says about it, so it is blind to a file that says nothing, whatever its place in the
order. -/
namespace Querymap

namespace ScopeMap

/-- An id of the default scope. Ids of other scopes stand in their modules. -/
def HasId (map : ScopeMap) (id : String) : Prop := (map.default.ids.get? ("#" ++ id)).isSome

def HasModule (map : ScopeMap) (name : String) : Prop := (map.named.get? name).isSome

/-- A class of an element in any scope. -/
def HasClass (map : ScopeMap) (name : String) : Prop := ∃ type, (name, type) ∈ Merge.classPairs map

/-- The selectors for which a scope map accounts. -/
inductive HasSelector (map : ScopeMap) : String → Prop
  | id {id : String} : map.HasId id → HasSelector map ("#" ++ id)
  | module {name : String} : map.HasModule name → HasSelector map name
  | ofClass {name : String} : map.HasClass name → HasSelector map ("." ++ name)

end ScopeMap

namespace FileTypings

open Dict Merge

/-- A file has another scope map from now on, or none. -/
def change (files : FileTypings) (path : String) : Option ScopeMap → FileTypings
  | some map => files.insert path map
  | none => files.erase path

theorem get?_change (files : FileTypings) (path other : String) (map : Option ScopeMap) :
    (files.change path map).get? other = if other = path then map else files.get? other := by
  cases map with
  | some map => exact get?_insert files path other map
  | none => exact get?_erase files path other

variable {files others : FileTypings} {path : String}

theorem erase_change (files : FileTypings) (path : String) (map : Option ScopeMap) :
    Dict.erase (files.change path map) path = files.erase path := by
  apply ext_get?
  intro other
  rw [get?_erase, get?_erase, get?_change]
  split <;> rfl

theorem Recorded.change (recorded : files.Recorded) {map : Option ScopeMap}
    (built : ∀ new ∈ map, ∃ steps, new = ScopeMap.ofSteps steps) :
    (files.change path map).Recorded := by
  intro new member
  obtain ⟨other, found⟩ := mem_values_iff.1 member
  rw [get?_change] at found
  split at found
  · exact built new found
  · exact recorded new (mem_values_iff.2 ⟨other, found⟩)

theorem Recorded.erase (recorded : files.Recorded) (path : String) :
    Recorded (Dict.erase files path) :=
  @Recorded.change files path recorded none (by simp)

theorem findSome?_reverse_filter {α β : Type} {view : α → Option β} {keep : α → Bool}
    {items : List α} (silent : ∀ item ∈ items, keep item = false → view item = none) :
    (items.filter keep).reverse.findSome? view = items.reverse.findSome? view := by
  induction items with
  | nil => rfl
  | cons item rest ih =>
    have rest := ih fun other member => silent other (List.mem_cons_of_mem _ member)
    cases kept : keep item with
    | true =>
      rw [List.filter_cons_of_pos kept, List.reverse_cons, List.reverse_cons,
        List.findSome?_append, List.findSome?_append, rest]
    | false =>
      have mute := silent item List.mem_cons_self kept
      rw [List.filter_cons_of_neg (by simp [kept]), rest, List.reverse_cons, List.findSome?_append]
      simp [mute]

/-- A file that says nothing may be left out. -/
theorem lastFile?_erase {β : Type} {view : ScopeMap → Option β}
    (silent : ∀ map, files.get? path = some map → view map = none) :
    lastFile? (Dict.erase files path) view = files.lastFile? view := by
  simp only [lastFile?, values, erase, ← List.map_reverse, List.findSome?_map]
  apply findSome?_reverse_filter
  intro entry member dropped
  have own : entry.1 = path := by simpa using dropped
  exact silent entry.2 (own ▸ get?_eq_some_iff.2 member)

theorem pairs_erase {name : String}
    (silent : ∀ map, files.get? path = some map → ¬map.HasClass name) (type : String) :
    Pairs (Dict.erase files path) name type ↔ files.Pairs name type := by
  simp only [Pairs, get?_erase]
  constructor
  · rintro ⟨other, map, found, pairs⟩
    split at found
    · contradiction
    · exact ⟨other, map, found, pairs⟩
  · rintro ⟨other, map, found, key, scope, inside, member⟩
    refine ⟨other, map, ?_, key, scope, inside, member⟩
    rw [if_neg, found]
    rintro rfl
    exact silent map found ⟨type, List.mem_flatMap.2 ⟨(key, scope), ScopeMap.mem_scopes_iff.2 inside,
      member⟩⟩

/-- The types of a class are told by the pairs that files hold. -/
theorem classTypes_congr {name : String}
    (same : ∀ type, files.Pairs name type ↔ others.Pairs name type) :
    files.classTypes.get? name = others.classTypes.get? name := by
  have typed : ∀ type, Typed files.classTypes name type ↔ Typed others.classTypes name type :=
    fun type => typed_classTypes.trans ((same type).trans typed_classTypes.symm)
  -- A class that one side knows has a type there, so the other side knows it too.
  have known : ∀ {files others : FileTypings} {kinds : Dict Unit},
      (∀ type, Typed files.classTypes name type → Typed others.classTypes name type) →
      files.classTypes.get? name = some kinds → others.classTypes.get? name ≠ none := by
    intro files others kinds includes found absent
    obtain ⟨type, held⟩ := allTyped_classTypes files name kinds found
    obtain ⟨_, there, _⟩ := includes type ⟨kinds, found, held⟩
    exact absurd (absent.symm.trans there) (by simp)
  cases here : files.classTypes.get? name with
  | none =>
    cases there : others.classTypes.get? name with
    | none => rfl
    | some kinds => exact absurd here (known (fun type => (typed type).2) there)
  | some kinds =>
    cases there : others.classTypes.get? name with
    | none => exact absurd there (known (fun type => (typed type).1) here)
    | some kinds' =>
      refine congrArg some (ext_get? fun type => ?_)
      have agree : (kinds.get? type).isSome ↔ (kinds'.get? type).isSome := by
        simpa [Typed, here, there] using typed type
      cases one : kinds.get? type <;> cases two : kinds'.get? type <;> simp_all

theorem lastWrite?_selectorWrites_erase (recorded : files.Recorded) {key : String}
    (silent : ∀ map, files.get? path = some map → ¬map.HasSelector key) :
    lastWrite? ((values (Dict.erase files path)).flatMap selectorWrites) key =
      lastWrite? (files.values.flatMap selectorWrites) key := by
  rw [lastWrite?_flatMap, lastWrite?_flatMap]
  apply lastFile?_erase
  intro map found
  rw [selectorWrites, lastWrite?_append, lastWrite?_entries, lastWrite?_tagWrites,
    Option.or_eq_none_iff, Option.map_eq_none_iff]
  have mute := silent map found
  constructor
  · exact Option.not_isSome_iff_eq_none.1 fun held => mute (.module held)
  · apply Option.not_isSome_iff_eq_none.1
    intro held
    obtain ⟨type, known⟩ := Option.isSome_iff_exists.1 held
    obtain ⟨id, rfl⟩ := hashed_default recorded (mem_values_iff.2 ⟨path, found⟩) _
      (get?_eq_some_iff.1 known)
    exact mute (.id held)

theorem lastWrite?_unions (files : FileTypings) (name : String) :
    lastWrite? (files.classTypes.entries.map fun entry => ("." ++ entry.1, union entry.2))
      ("." ++ name) = (files.classTypes.get? name).map union := by
  rw [lastWrite?_map (fun entry => union entry.2)
    (fun entry _ => String.append_right_inj "." : ∀ entry ∈ files.classTypes.entries, _),
    lastWrite?_entries]

/-- Only classes are written under their selectors. -/
theorem lastWrite?_unions_eq_none (files : FileTypings) {key : String}
    (other : ∀ name, key ≠ "." ++ name) :
    lastWrite? (files.classTypes.entries.map fun entry => ("." ++ entry.1, union entry.2)) key =
      none := by
  apply lastWrite?_eq_none_iff.2
  intro write member
  obtain ⟨entry, _, rfl⟩ := List.mem_map.1 member
  exact (other entry.1).symm

/-- Two models agree wherever none of some scope maps has a say. -/
structure AgreesBut (own : ScopeMap → Prop) (before after : Model) : Prop where
  ids : ∀ id, (∀ map, own map → ¬map.HasId id) → after.ids.get? id = before.ids.get? id
  classes : ∀ name, (∀ map, own map → ¬map.HasClass name) →
    after.classes.get? name = before.classes.get? name
  modules : ∀ name, (∀ map, own map → ¬map.HasModule name) →
    after.modules.get? name = before.modules.get? name
  tags : ∀ name, (∀ map, own map → ¬map.HasModule name) →
    after.tags.get? name = before.tags.get? name
  selectors : ∀ key, (∀ map, own map → ¬map.HasSelector key) →
    after.selectors.get? key = before.selectors.get? key

/-- Without a file the merged model is the same wherever the file has no say. -/
theorem agreesBut_erase (recorded : files.Recorded) (path : String) :
    AgreesBut (files.get? path = some ·) files.mergeAll (mergeAll (Dict.erase files path)) where
  ids id silent := by
    rw [get?_ids recorded, get?_ids (recorded.erase path)]
    exact lastFile?_erase fun map found => Option.not_isSome_iff_eq_none.1 (silent map found)
  classes name silent := by
    rw [get?_classes, get?_classes, classTypes_congr (pairs_erase silent)]
  modules name silent := by
    rw [get?_modules, get?_modules,
      lastFile?_erase fun map found => Option.not_isSome_iff_eq_none.1 (silent map found)]
  tags name silent := by
    rw [get?_tags, get?_tags,
      lastFile?_erase fun map found => Option.not_isSome_iff_eq_none.1 (silent map found)]
  selectors key silent := by
    rw [get?_selectors, get?_selectors, lastWrite?_selectorWrites_erase recorded silent]
    congr 1
    by_cases dotted : ∃ name, key = "." ++ name
    · obtain ⟨name, rfl⟩ := dotted
      rw [lastWrite?_unions, lastWrite?_unions, classTypes_congr (pairs_erase fun map found held =>
        silent map found (.ofClass held))]
    · rw [lastWrite?_unions_eq_none _ fun name same => dotted ⟨name, same⟩,
        lastWrite?_unions_eq_none _ fun name same => dotted ⟨name, same⟩]

theorem AgreesBut.symm {own : ScopeMap → Prop} {before after : Model}
    (agrees : AgreesBut own before after) : AgreesBut own after before where
  ids id silent := (agrees.ids id silent).symm
  classes name silent := (agrees.classes name silent).symm
  modules name silent := (agrees.modules name silent).symm
  tags name silent := (agrees.tags name silent).symm
  selectors key silent := (agrees.selectors key silent).symm

theorem AgreesBut.trans {own other : ScopeMap → Prop} {before middle after : Model}
    (first : AgreesBut own before middle) (second : AgreesBut other middle after) :
    AgreesBut (fun map => own map ∨ other map) before after where
  ids id silent := (second.ids id fun map held => silent map (.inr held)).trans
    (first.ids id fun map held => silent map (.inl held))
  classes name silent := (second.classes name fun map held => silent map (.inr held)).trans
    (first.classes name fun map held => silent map (.inl held))
  modules name silent := (second.modules name fun map held => silent map (.inr held)).trans
    (first.modules name fun map held => silent map (.inl held))
  tags name silent := (second.tags name fun map held => silent map (.inr held)).trans
    (first.tags name fun map held => silent map (.inl held))
  selectors key silent := (second.selectors key fun map held => silent map (.inr held)).trans
    (first.selectors key fun map held => silent map (.inl held))

/-- The change of one file moves nothing but what its old or its new scope map accounts for. -/
theorem agreesBut_change (files : FileTypings) (path : String) (map : Option ScopeMap)
    (recorded : files.Recorded) (built : ∀ new ∈ map, ∃ steps, new = ScopeMap.ofSteps steps) :
    AgreesBut (fun own => files.get? path = some own ∨ map = some own) files.mergeAll
      (mergeAll (files.change path map)) := by
  have without := agreesBut_erase recorded path
  have changed := agreesBut_erase (@Recorded.change files path recorded map built) path
  rw [erase_change] at changed
  have own : (files.change path map).get? path = map := by rw [get?_change, if_pos rfl]
  simp only [own] at changed
  exact without.trans changed.symm

theorem recorded_ofList {entries : List (String × ScopeMap)}
    (built : ∀ entry ∈ entries, ∃ steps, entry.2 = ScopeMap.ofSteps steps) :
    Recorded (Dict.ofList entries) := by
  intro map member
  obtain ⟨path, found⟩ := mem_values_iff.1 member
  rw [get?_ofList] at found
  exact built _ (mem_of_lastWrite? found)

/-- Two pages that share a class. -/
def sharingPages : FileTypings := .ofList [
  ("a.html", ScopeMap.ofSteps [.id .default "x" "HTMLElement", .classes .default "c d" "HTMLElement",
    .touch (.named "x-menu")]),
  ("b.html", ScopeMap.ofSteps [.id .default "y" "HTMLBRElement", .classes .default "c" "HTMLBRElement"])]

/-- A second page without the class. -/
def classlessPage : ScopeMap := ScopeMap.ofSteps [.id .default "z" "HTMLElement"]

/-- The shared class loses a type with the second page; whatever the first page alone names stays. -/
theorem agreesBut_change_sharingPages :
    sharingPages.Recorded ∧ (∀ new ∈ some classlessPage, ∃ steps, new = ScopeMap.ofSteps steps) ∧
      AgreesBut (fun own => sharingPages.get? "b.html" = some own ∨ some classlessPage = some own)
        sharingPages.mergeAll (mergeAll (sharingPages.change "b.html" (some classlessPage))) ∧
      sharingPages.mergeAll.classes.get? "c" = some "HTMLBRElement|HTMLElement" ∧
      (mergeAll (sharingPages.change "b.html" (some classlessPage))).classes.get? "c" =
        some "HTMLElement" := by
  have recorded : sharingPages.Recorded := by
    apply recorded_ofList
    intro entry member
    rcases member with _ | ⟨_, _ | ⟨_, ⟨⟩⟩⟩
    · exact ⟨_, rfl⟩
    · exact ⟨_, rfl⟩
  have built : ∀ new ∈ some classlessPage, ∃ steps, new = ScopeMap.ofSteps steps := by
    rintro new ⟨⟩
    exact ⟨_, rfl⟩
  exact ⟨recorded, built, agreesBut_change sharingPages "b.html" (some classlessPage) recorded built,
    by decide +kernel, by decide +kernel⟩

end FileTypings

end Querymap
