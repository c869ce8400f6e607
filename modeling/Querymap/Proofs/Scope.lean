import Querymap.Proofs.Dict
import Querymap.Scope

/-! Scope maps that are built step by step. Each step changes one scope, so what holds of the empty
scope and is kept by every change holds of all scopes. -/
namespace Querymap.ScopeMap

/-- What a step makes of its scope. -/
def Step.change : Step → Scope → Scope
  | .id _ name type, scope => scope.recordId name type
  | .classes _ names type, scope => scope.recordClasses names type
  | .touch _, scope => scope
  | .reset _, _ => {}

theorem get?_apply (map : ScopeMap) (step : Step) (key : ScopeKey) :
    (map.apply step).get? key =
      if key = step.scope then some (step.change ((map.get? key).getD {})) else map.get? key := by
  have modified : map.apply step = map.set step.scope
      (step.change ((map.get? step.scope).getD {})) := by
    cases step <;> rfl
  rw [modified, get?_set]
  by_cases own : key = step.scope <;> simp [own]

def ofSteps (steps : List Step) : ScopeMap := steps.foldl apply {}

theorem scopes_ofSteps {P : Scope → Prop} (empty : P {})
    (change : ∀ (step : Step) scope, P scope → P (step.change scope)) (steps : List Step)
    {key : ScopeKey} {scope : Scope} (found : (ofSteps steps).get? key = some scope) :
    P scope := by
  have run : ∀ (steps : List Step) (map : ScopeMap),
      (∀ key scope, map.get? key = some scope → P scope) →
        ∀ key scope, (steps.foldl apply map).get? key = some scope → P scope := by
    intro steps
    induction steps with
    | nil => exact fun _ kept => kept
    | cons step rest ih =>
      intro map kept
      refine ih (map.apply step) fun key scope found => ?_
      rw [get?_apply] at found
      split at found
      · cases found
        cases known : map.get? key with
        | none => exact change step {} empty
        | some scope => exact change step scope (kept key scope known)
      · exact kept key scope found
  refine run steps {} (fun key scope found => ?_) key scope found
  cases key with
  | default => cases found; exact empty
  | named name => cases found

theorem mem_scopes_iff {map : ScopeMap} {key : ScopeKey} {scope : Scope} :
    (key, scope) ∈ map.scopes ↔ map.get? key = some scope := by
  cases key with
  | default => simp [scopes, get?, eq_comm]
  | named name => simp [scopes, get?, Dict.get?_eq_some_iff]

section

variable {map : ScopeMap} {key other : ScopeKey}

def Has (map : ScopeMap) (key : ScopeKey) : Prop := (map.get? key).isSome = true

theorem touch_eq_self (present : map.Has key) : map.touch key = map := by
  obtain ⟨scope, found⟩ := Option.isSome_iff_exists.1 present
  rw [touch, modify, found, Option.getD_some, id]
  cases key with
  | default => cases found; rfl
  | named name =>
    refine congrArg (mk map.default) (Dict.ext_get? fun other => ?_)
    rw [Dict.get?_insert]
    split
    · next same => exact same ▸ found.symm
    · rfl

theorem Has.modify (present : map.Has key) (change : Scope → Scope) : (map.modify other change).Has key := by
  rw [Has, ScopeMap.modify, get?_set]
  split
  · rfl
  · exact present

theorem has_touch (map : ScopeMap) (key : ScopeKey) : (map.touch key).Has key := by
  rw [Has, touch, ScopeMap.modify, get?_set, if_pos rfl]
  rfl

end

end Querymap.ScopeMap

namespace Querymap.Scope

/-- All ids are kept as selectors. -/
def Hashed (scope : Scope) : Prop :=
  ∀ entry ∈ scope.ids.entries, ∃ id, entry.1 = "#" ++ id

theorem hashed_change (step : ScopeMap.Step) (scope : Scope) (hashed : scope.Hashed) :
    (step.change scope).Hashed := by
  cases step with
  | id _ id type =>
    intro entry member
    rcases Dict.mem_insertEntry member with rfl | member
    · exact ⟨id, rfl⟩
    · exact hashed entry member
  | classes => exact hashed
  | touch => exact hashed
  | reset => exact fun _ member => absurd member List.not_mem_nil

theorem hashed_ofSteps {steps : List ScopeMap.Step} {key : ScopeKey} {scope : Scope}
    (found : (ScopeMap.ofSteps steps).get? key = some scope) : scope.Hashed :=
  ScopeMap.scopes_ofSteps (fun _ member => absurd member List.not_mem_nil) hashed_change steps found

end Querymap.Scope
