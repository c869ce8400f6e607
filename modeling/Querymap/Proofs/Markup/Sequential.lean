import Mathlib.Data.List.Induction
import Querymap.Proofs.Markup.Nested

/-! Single mode knows one scope at a time: that of the module opened last, unless a module has ended
since. This holds of any events, balanced or not. Where no module is opened inside another, nested mode
has no scope to lead back to but the default one, and both modes record the same. -/
namespace Querymap.Markup

open Dict

namespace Event

def tag : Event → String
  | .opened tag _ | .closed tag => tag

/-- The id of the module that an event opens. -/
def opens? : Event → Option String
  | .opened tag attributes => moduleId? tag attributes
  | .closed _ => none

end Event

/-- The events after the last end of a module, all of them if none has ended. -/
def sinceEnd (events : List Event) : List Event :=
  (events.reverse.takeWhile (· ≠ .closed moduleTag)).reverse

/-- The scope of the module with an id that was opened last since the last end of a module. -/
def latestScope (events : List Event) : ScopeKey :=
  match ((sinceEnd events).filterMap Event.opens?).getLast? with
  | some id => .named id
  | none => .default

/-- The tags that events open after those in `before`, each in the scope that is the latest there. -/
def placedAfter (before : List Event) : List Event → List Placed
  | [] => []
  | .opened tag attributes :: rest =>
    ⟨tag, attributes, latestScope before⟩ :: placedAfter (before ++ [.opened tag attributes]) rest
  | .closed tag :: rest => placedAfter (before ++ [.closed tag]) rest

/-- The state after recording, said of the events alone. -/
structure Sequential (events : List Event) (recorder : Recorder) : Prop where
  current : recorder.current = latestScope events
  scopes : ∀ id, (recorder.map.get? (.named id)).isSome ↔ ∃ event ∈ events, event.opens? = some id
  ids : ∀ key scope, recorder.map.get? key = some scope → ∀ selector,
    scope.ids.get? selector =
      lastWrite? ((held key (placedAfter [] events)).filterMap Placed.idWrite?) selector
  classes : ∀ key scope, recorder.map.get? key = some scope →
    scope.classes = (held key (placedAfter [] events)).flatMap Placed.classEntries

/-! One event more. -/

theorem sinceEnd_concat (events : List Event) (event : Event) :
    sinceEnd (events ++ [event]) =
      if event = .closed moduleTag then [] else sinceEnd events ++ [event] := by
  by_cases ends : event = .closed moduleTag <;> simp [sinceEnd, ends]

theorem latestScope_opened (events : List Event) (tag : String) (attributes : Attributes) :
    latestScope (events ++ [.opened tag attributes]) =
      match moduleId? tag attributes with
      | some id => .named id
      | none => latestScope events := by
  simp only [latestScope, sinceEnd_concat, reduceCtorEq, if_false, List.filterMap_append,
    List.getLast?_append]
  cases opened : moduleId? tag attributes <;> simp [Event.opens?, opened]

theorem latestScope_closed (events : List Event) (tag : String) :
    latestScope (events ++ [.closed tag]) =
      if tag = moduleTag then .default else latestScope events := by
  by_cases module : tag = moduleTag
  · simp [latestScope, sinceEnd_concat, module]
  · simp [latestScope, sinceEnd_concat, module, Event.opens?]

theorem placedAfter_concat (before events : List Event) (event : Event) :
    placedAfter before (events ++ [event]) =
      placedAfter before events ++ placedAfter (before ++ events) [event] := by
  induction events generalizing before with
  | nil => simp [placedAfter]
  | cons first rest ih => cases first <;> simp [placedAfter, ih]

theorem exists_opens_iff {before events : List Event} {id : String} :
    (∃ placed ∈ placedAfter before events, placed.opens (.named id)) ↔
      ∃ event ∈ events, event.opens? = some id := by
  induction events generalizing before with
  | nil => simp [placedAfter]
  | cons event rest ih =>
    cases event with
    | opened tag attributes =>
      have first : Placed.opens ⟨tag, attributes, latestScope before⟩ (.named id) ↔
          (Event.opened tag attributes).opens? = some id := by simp [Placed.opens, Event.opens?]
      simp only [placedAfter, List.mem_cons, exists_eq_or_imp, ih, first]
    | closed tag => simpa [placedAfter, Event.opens?] using ih

/-- The latest scope was opened. -/
theorem present_latestScope (events : List Event) :
    Present (placedAfter [] events) (latestScope events) := by
  rw [latestScope]
  split
  · next id last =>
    obtain ⟨event, recent, opens⟩ := List.mem_filterMap.1 (List.mem_of_getLast? last)
    refine .inr (exists_opens_iff.2 ⟨event, ?_, opens⟩)
    exact List.mem_reverse.1 ((List.takeWhile_sublist _).subset (List.mem_reverse.1 recent))
  · exact .inl rfl

namespace Recorder

theorem step_single_opened (events : List Event) (map : ScopeMap) (tag : String)
    (attributes : Attributes) :
    step .single ⟨map, latestScope events, []⟩ (.opened tag attributes) =
      ⟨place map ⟨tag, attributes, latestScope events⟩,
        latestScope (events ++ [.opened tag attributes]), []⟩ := by
  rw [latestScope_opened]
  by_cases module : tag = moduleTag
  · simp only [step, if_pos module, openModule, place, moduleId?]
    cases attributes.value? "id" <;> rfl
  · simp only [step, if_neg module, place, moduleId?]

theorem step_single_closed (events : List Event) (map : ScopeMap) (tag : String) :
    step .single ⟨map, latestScope events, []⟩ (.closed tag) =
      ⟨map, latestScope (events ++ [.closed tag]), []⟩ := by
  rw [latestScope_closed]
  by_cases module : tag = moduleTag
  · simp only [step, if_pos module, closeModule]
  · simp only [step, if_neg module]

/-- Any events place their tags, each in the scope that is the latest when it comes. -/
theorem run_single (events : List Event) :
    ∃ map, run .single {} events = ⟨map, latestScope events, []⟩ ∧
      Holds map (placedAfter [] events) := by
  induction events using List.reverseRecOn with
  | nil => exact ⟨{}, rfl, holds_nil⟩
  | append_singleton events event ih =>
    obtain ⟨map, ran, holds⟩ := ih
    have last : run .single {} (events ++ [event]) =
        step .single ⟨map, latestScope events, []⟩ event := by
      rw [run_append, ran]
      rfl
    rw [last, placedAfter_concat, List.nil_append]
    cases event with
    | opened tag attributes =>
      refine ⟨_, step_single_opened events map tag attributes, ?_⟩
      exact holds_place holds (present_latestScope events)
    | closed tag =>
      refine ⟨map, step_single_closed events map tag, ?_⟩
      simpa [placedAfter] using holds

end Recorder

theorem sequential_run (events : List Event) : Sequential events (Recorder.run .single {} events) := by
  obtain ⟨map, ran, holds⟩ := Recorder.run_single events
  refine ran ▸ ⟨rfl, fun id => ?_, fun _ _ known => holds.ids known, fun _ _ known => holds.classes known⟩
  exact (holds.isSome_get?_named id).trans exists_opens_iff

/-! Both modes on streams without modules inside modules. -/

/-- No module is opened inside another. -/
def Forest.Flat (forest : Forest) : Prop :=
  ∀ opening ∈ forest.openings [], opening.tag = moduleTag →
    ∀ ancestor ∈ opening.ancestors, ancestor.1 ≠ moduleTag

theorem Forest.exists_opening {forest : Forest} {event : Event} (member : event ∈ forest.events)
    (ancestors : List (String × Attributes)) :
    ∃ opening ∈ forest.openings ancestors, opening.tag = event.tag := by
  induction forest generalizing ancestors with
  | nil => simp [events] at member
  | cons tag attributes children siblings ihChildren ihSiblings =>
    simp only [events, List.mem_cons, List.mem_append] at member
    simp only [openings, List.mem_cons, List.mem_append]
    rcases member with rfl | inside | rfl | beside
    · exact ⟨_, .inl rfl, rfl⟩
    · obtain ⟨opening, listed, same⟩ := ihChildren inside ((tag, attributes) :: ancestors)
      exact ⟨opening, .inr (.inl listed), same⟩
    · exact ⟨_, .inl rfl, rfl⟩
    · obtain ⟨opening, listed, same⟩ := ihSiblings beside ancestors
      exact ⟨opening, .inr (.inr listed), same⟩

theorem Forest.ancestors_subset {forest : Forest} {ancestors : List (String × Attributes)}
    {opening : Opening} (listed : opening ∈ forest.openings ancestors) :
    ancestors ⊆ opening.ancestors := by
  induction forest generalizing ancestors with
  | nil => simp [openings] at listed
  | cons tag attributes children siblings ihChildren ihSiblings =>
    simp only [openings, List.mem_cons, List.mem_append] at listed
    rcases listed with rfl | inside | beside
    · exact List.Subset.refl _
    · exact fun ancestor member => ihChildren inside (List.mem_cons_of_mem _ member)
    · exact ihSiblings beside

namespace Recorder

section Elements

variable {tag : String} (element : tag ≠ moduleTag) (mode : ScopeMode) (recorder : Recorder)

include element

theorem step_opened_element (attributes : Attributes) :
    step mode recorder (.opened tag attributes) =
      { recorder with map := place recorder.map ⟨tag, attributes, recorder.current⟩ } := by
  rw [step, if_neg element, place, if_neg element]

theorem step_closed_element : step mode recorder (.closed tag) = recorder := by
  rw [step, if_neg element]

end Elements

/-- As long as no module begins or ends, the mode makes no difference, and the scope stays. -/
theorem run_elements {events : List Event} (elements : ∀ event ∈ events, event.tag ≠ moduleTag)
    (map : ScopeMap) (current : ScopeKey) :
    ∃ map', ∀ mode outer, run mode ⟨map, current, outer⟩ events = ⟨map', current, outer⟩ := by
  induction events generalizing map with
  | nil => exact ⟨map, fun _ _ => rfl⟩
  | cons event rest ih =>
    obtain ⟨first, others⟩ := List.forall_mem_cons.1 elements
    obtain ⟨next, stepped⟩ : ∃ next, ∀ mode outer,
        step mode ⟨map, current, outer⟩ event = ⟨next, current, outer⟩ := by
      cases event with
      | opened tag attributes =>
        have element : tag ≠ moduleTag := first
        exact ⟨place map ⟨tag, attributes, current⟩, fun mode outer =>
          step_opened_element element mode ⟨map, current, outer⟩ attributes⟩
      | closed tag =>
        have element : tag ≠ moduleTag := first
        exact ⟨map, fun mode outer => step_closed_element element mode ⟨map, current, outer⟩⟩
    obtain ⟨map', ran⟩ := ih others next
    refine ⟨map', fun mode outer => ?_⟩
    rw [run, List.foldl_cons, stepped]
    exact ran mode outer

/-- A module with no other inside leads back to the default scope in both modes. -/
theorem run_module {events : List Event} (elements : ∀ event ∈ events, event.tag ≠ moduleTag)
    (map : ScopeMap) (attributes : Attributes) :
    ∃ map', ∀ mode outer,
      run mode ⟨map, .default, outer⟩
        (.opened moduleTag attributes :: (events ++ [.closed moduleTag])) =
          ⟨map', .default, outer⟩ := by
  -- What is kept to go back to differs between the modes, but not the map and the scope inside.
  obtain ⟨entered, key, opened⟩ : ∃ entered key, ∀ mode outer, ∃ kept,
      step mode ⟨map, .default, outer⟩ (.opened moduleTag attributes) = ⟨entered, key, kept⟩ ∧
        ∀ map' key', step mode ⟨map', key', kept⟩ (.closed moduleTag) = ⟨map', .default, outer⟩ := by
    cases named : attributes.value? "id" with
    | some id =>
      refine ⟨map.reset (.named id), .named id, fun mode outer => ?_⟩
      cases mode <;> simp [step, openModule, closeModule, named]
    | none =>
      refine ⟨map, .default, fun mode outer => ?_⟩
      cases mode <;> simp [step, openModule, closeModule, named]
  obtain ⟨map', ran⟩ := run_elements elements entered key
  refine ⟨map', fun mode outer => ?_⟩
  obtain ⟨kept, entering, leaving⟩ := opened mode outer
  rw [run, List.foldl_cons, entering]
  change run mode _ (events ++ [_]) = _
  rw [run_append, ran]
  exact leaving map' key

theorem events_cons (tag : String) (attributes : Attributes) (children siblings : Forest) :
    (Forest.cons tag attributes children siblings).events =
      (.opened tag attributes :: (children.events ++ [.closed tag])) ++ siblings.events := by
  simp [Forest.events]

/-- Outside modules both modes are in the default scope and make the same of a flat forest. -/
theorem run_flat {forest : Forest} {ancestors : List (String × Attributes)}
    (outside : ∀ ancestor ∈ ancestors, ancestor.1 ≠ moduleTag)
    (flat : ∀ opening ∈ forest.openings ancestors, opening.tag = moduleTag →
      ∀ ancestor ∈ opening.ancestors, ancestor.1 ≠ moduleTag) (map : ScopeMap) :
    ∃ map', ∀ mode outer, run mode ⟨map, .default, outer⟩ forest.events = ⟨map', .default, outer⟩ := by
  induction forest generalizing ancestors map with
  | nil => exact ⟨map, fun _ _ => rfl⟩
  | cons tag attributes children siblings ihChildren ihSiblings =>
    have inside : ∀ opening ∈ children.openings ((tag, attributes) :: ancestors),
        opening.tag = moduleTag → ∀ ancestor ∈ opening.ancestors, ancestor.1 ≠ moduleTag :=
      fun opening listed => flat opening (by simp [Forest.openings, listed])
    have beside : ∀ opening ∈ siblings.openings ancestors,
        opening.tag = moduleTag → ∀ ancestor ∈ opening.ancestors, ancestor.1 ≠ moduleTag :=
      fun opening listed => flat opening (by simp [Forest.openings, listed])
    obtain ⟨map₁, first⟩ : ∃ map₁, ∀ mode outer,
        run mode ⟨map, .default, outer⟩
          (.opened tag attributes :: (children.events ++ [.closed tag])) =
            ⟨map₁, .default, outer⟩ := by
      by_cases module : tag = moduleTag
      · subst module
        refine run_module (fun event member same => ?_) map attributes
        obtain ⟨opening, listed, tagged⟩ :=
          Forest.exists_opening member ((moduleTag, attributes) :: ancestors)
        exact inside opening listed (tagged.trans same) (moduleTag, attributes)
          (Forest.ancestors_subset listed List.mem_cons_self) rfl
      · have outside' : ∀ ancestor ∈ (tag, attributes) :: ancestors, ancestor.1 ≠ moduleTag :=
          List.forall_mem_cons.2 ⟨module, outside⟩
        obtain ⟨map₁, ran⟩ := ihChildren outside' inside
          (place map ⟨tag, attributes, .default⟩)
        refine ⟨map₁, fun mode outer => ?_⟩
        rw [run, List.foldl_cons, step_opened_element module]
        change run mode _ (children.events ++ [_]) = _
        rw [run_append, ran]
        exact step_closed_element module mode _
    obtain ⟨map₂, rest⟩ := ihSiblings outside beside map₁
    refine ⟨map₂, fun mode outer => ?_⟩
    rw [events_cons, run_append, first, rest]

end Recorder

/-- What single mode records follows from the events, and on a well-nested stream without modules inside
modules it is what nested mode records. -/
theorem single_sequential (events : List Event) :
    Sequential events (Recorder.run .single {} events) ∧
    (WellNested events → (∃ forest : Forest, forest.events = events) ∧
      ∀ forest : Forest, forest.events = events → forest.Flat →
        record .single events = record .nested events) := by
  refine ⟨sequential_run events, fun nested => ⟨wellNested_iff.1 nested, ?_⟩⟩
  rintro forest rfl flat
  obtain ⟨map, ran⟩ := Recorder.run_flat (by simp) flat {}
  rw [record, record]
  exact congrArg Recorder.map ((ran .single []).trans (ran .nested []).symm)

/-- A module, one without an id, and the first one again. -/
def inTurn : Forest :=
  .cons "dom-module" (.ofList [("id", "m")])
    (.cons "div" (.ofList [("id", "a")]) .nil .nil)
    (.cons "dom-module" (.ofList [("id", "")])
      (.cons "p" (.ofList [("id", "b")]) .nil .nil)
      (.cons "dom-module" (.ofList [("id", "m")])
        (.cons "i" (.ofList [("class", "c")]) .nil .nil) .nil))

theorem single_sequential_inTurn :
    WellNested inTurn.events ∧ inTurn.Flat ∧
    Sequential inTurn.events (Recorder.run .single {} inTurn.events) ∧
    record .single inTurn.events = record .nested inTurn.events ∧
    (record .single inTurn.events).get? .default =
      some ⟨.ofList [("#b", "HTMLParagraphElement")], []⟩ ∧
    (record .single inTurn.events).get? (.named "m") = some ⟨∅, [("c", "HTMLElement")]⟩ := by
  have nested : WellNested inTurn.events := wellNested_iff.2 ⟨inTurn, rfl⟩
  have flat : inTurn.Flat := by
    unfold Forest.Flat
    decide
  exact ⟨nested, flat, (single_sequential inTurn.events).1,
    ((single_sequential inTurn.events).2 nested).2 inTurn rfl flat, by decide +kernel,
    by decide +kernel⟩

/-- The end of an inner module leads single mode out of the outer one as well. -/
example : record .single
    [.opened "dom-module" (.ofList [("id", "outer")]), .opened "dom-module" (.ofList [("id", "inner")]),
      .closed "dom-module", .opened "p" (.ofList [("id", "late")]), .closed "dom-module"] =
    ⟨⟨.ofList [("#late", "HTMLParagraphElement")], []⟩, .ofList [("inner", {}), ("outer", {})]⟩ := by
  decide +kernel

end Querymap.Markup
