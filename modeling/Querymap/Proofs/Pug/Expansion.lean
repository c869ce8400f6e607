import Mathlib.Logic.Relation
import Querymap.Markup.Recorder
import Querymap.Proofs.Pug.Substitution
import Querymap.Proofs.Pug.Walk

/-! The expansion of mixins. The walk through a template always ends; where the definitions stand does not
matter; and where no mixin calls itself, the calls can be replaced by full expansions beforehand. -/
namespace Querymap.Pug

open Markup Relation

/-- The body of one mixin calls the other. -/
def Calls (known : Dict Block) (name called : String) : Prop :=
  ∃ body, known.get? name = some body ∧ called ∈ calls body

/-- No mixin calls itself, not even through others. -/
def Acyclic (known : Dict Block) : Prop :=
  ∀ name, ¬TransGen (Calls known) name name

/-- Each mixin stands for its body with all calls in it replaced. -/
def IsExpansion (known : Dict Block) (expansion : String → Option Block) : Prop :=
  ∀ name, expansion name = (known.get? name).map (substitute expansion)

set_option linter.unusedVariables false in
/-- The body of a mixin with the calls replaced, where those in `active` contribute nothing. -/
def expanded (known : Dict Block) (active : List String) (name : String) : Option Block :=
  match found : known.get? name with
  | none => none
  | some body =>
    if free : active.contains name = false then
      some (substitute (expanded known (name :: active)) body)
    else some []
termination_by (available known active).length
decreasing_by exact available_smaller found free

variable {known : Dict Block} {active other : List String} {name called : String}

theorem expanded_eq_map (known : Dict Block) (active : List String) (name : String) :
    expanded known active name = (known.get? name).map fun body =>
      if name ∈ active then [] else substitute (expanded known (name :: active)) body := by
  rw [expanded]
  split
  · next missing => rw [missing, Option.map_none]
  · next body found =>
    rw [found, Option.map_some]
    by_cases inside : name ∈ active <;> simp [inside]

theorem bare_expanded (known : Dict Block) (active : List String) (name : String) (body : Block)
    (expands : expanded known active name = some body) : Bare body := by
  fun_induction expanded known active name generalizing body with
  | case1 => contradiction
  | case2 active name raw found free ih =>
    obtain rfl := Option.some.inj expands
    exact bare_substitute ih raw
  | case3 =>
    obtain rfl := Option.some.inj expands
    exact ⟨rfl, rfl⟩

/-- No definition stands in the body of a mixin. -/
theorem withoutDefinitions_of_mixins {block body : Block}
    (found : (mixins block).get? name = some body) : ∃ raw, withoutDefinitions raw = body := by
  rw [mixins, Dict.get?_ofList] at found
  obtain ⟨⟨_, raw⟩, _, equal⟩ := List.mem_map.1 (Dict.mem_of_lastWrite? found)
  exact ⟨raw, congrArg Prod.snd equal⟩

/-- A call has the events of the body with the calls replaced, whatever calls what. -/
theorem mixinEvents_eq_tags (block : Block) (active : List String) (name : String) :
    mixinEvents (mixins block) active name = (expanded (mixins block) active name).map tags := by
  fun_induction expanded (mixins block) active name with
  | case1 active name missing => rw [mixinEvents_eq_map, missing, Option.map_none, Option.map_none]
  | case2 active name body found free ih =>
    have outside : name ∉ active := by simpa using free
    obtain ⟨raw, rfl⟩ := withoutDefinitions_of_mixins found
    rw [mixinEvents_eq_map, found, Option.map_some, Option.map_some, if_neg outside, funext ih,
      tags_substitute, substitute_withoutDefinitions]
  | case3 active name body found taken =>
    have inside : name ∈ active := by simpa using taken
    rw [mixinEvents_eq_map, found, Option.map_some, if_pos inside]
    rfl

/-! Without cycles it does not matter which mixins are being expanded. -/

/-- The mixin leads to none that is being expanded. -/
def Clear (known : Dict Block) (active : List String) (name : String) : Prop :=
  ∀ called ∈ active, ¬ReflTransGen (Calls known) name called

theorem Clear.nil : Clear known [] name :=
  fun _ member => absurd member List.not_mem_nil

theorem Clear.not_mem (clear : Clear known active name) : name ∉ active :=
  fun member => clear name member .refl

theorem Clear.step (clear : Clear known active name) (acyclic : Acyclic known)
    (calls : Calls known name called) : Clear known (name :: active) called := by
  intro target member reaches
  rcases List.mem_cons.1 member with rfl | member
  · exact acyclic target (TransGen.head' calls reaches)
  · exact clear target member (.head calls reaches)

/-- Whatever unfolds the mixins agrees with their bodies with the calls replaced. -/
theorem expanded_eq (acyclic : Acyclic known) {family : List String → String → Option Block}
    (unfolds : ∀ active name, Clear known active name →
      family active name = (known.get? name).map (substitute (family (name :: active))))
    (clear : Clear known active name) (clear' : Clear known other name) :
    expanded known active name = family other name := by
  fun_induction expanded known active name generalizing other with
  | case1 active name missing => rw [unfolds other name clear', missing, Option.map_none]
  | case2 active name body found free ih =>
    rw [unfolds other name clear', found, Option.map_some]
    refine congrArg some (substitute_congr body fun called member => ?_)
    have calls : Calls known name called := ⟨body, found, member⟩
    exact ih called (clear.step acyclic calls) (clear'.step acyclic calls)
  | case3 active name body found taken => exact absurd (by simpa using taken) clear.not_mem

theorem expanded_unfolds (clear : Clear known active name) :
    expanded known active name = (known.get? name).map (substitute (expanded known (name :: active))) := by
  simp only [expanded_eq_map known active, clear.not_mem, if_false]

theorem isExpansion_expanded (acyclic : Acyclic known) : IsExpansion known (expanded known []) := by
  intro name
  rw [expanded_unfolds .nil]
  cases found : known.get? name with
  | none => rfl
  | some body =>
    refine congrArg some (substitute_congr body fun called member => ?_)
    have calls : Calls known name called := ⟨body, found, member⟩
    exact expanded_eq acyclic (fun _ _ => expanded_unfolds) (Clear.nil.step acyclic calls) .nil

theorem IsExpansion.eq_expanded {expansion : String → Option Block}
    (expands : IsExpansion known expansion) (acyclic : Acyclic known) :
    expansion = expanded known [] := by
  funext name
  exact (@expanded_eq known [] [] name acyclic (fun _ => expansion) (fun _ name _ => expands name)
    .nil .nil).symm

/-- The walk of a template ends with well-nested events. Among definitions of different names their
places do not matter. Where no mixin calls itself, the events are those of the tree in which each call of
a mixin is replaced by its full expansion and each other call by its block. -/
theorem events_sound (block : Block) :
    (Walk (mixins block) [] (withoutDefinitions block) (events block) ∧
      (∀ stream, Walk (mixins block) [] (withoutDefinitions block) stream → stream = events block) ∧
      WellNested (events block)) ∧
    (((definitions block).map (·.1)).Nodup → ∀ mode other, Relocated block other →
      record mode (events block) = record mode (events other)) ∧
    (Acyclic (mixins block) → ∃ expansion, IsExpansion (mixins block) expansion ∧
      (∀ second, IsExpansion (mixins block) second → second = expansion) ∧
      events block = events (substitute expansion block)) := by
  have walk : Walk (mixins block) [] (withoutDefinitions block) (events block) := by
    rw [events_eq]
    exact walk_blockEvents (mixins block) [] (withoutDefinitions block)
  refine ⟨⟨walk, fun stream walk' => walk'.unique walk, walk.wellNested⟩, ?_, fun acyclic => ?_⟩
  · intro distinct mode other relocated
    rw [relocated.events_eq distinct]
  · refine ⟨_, isExpansion_expanded acyclic, fun second expands => expands.eq_expanded acyclic, ?_⟩
    rw [(bare_substitute (bare_expanded _ []) block).events_eq, events_eq, ← tags_substitute]
    exact congrArg (blockEvents · _) (funext (mixinEvents_eq_tags block []))

/-- A call before the definition, and a mixin that calls another one. -/
def cards : Block :=
  [.conditional [.call "card" [] [.text]] .none, .mixin "card" [.tag "div" [] [.call "title" [] []]],
    .mixin "title" [.tag "h2" [] []], .call "foreign" [] [.tag "p" [] []]]

/-- The same with one definition in the condition, and the other one in it. -/
def nestedCards : Block :=
  [.conditional [.mixin "card" [.mixin "title" [.tag "h2" [] []], .tag "div" [] [.call "title" [] []]],
    .call "card" [] [.text]] .none, .call "foreign" [] [.tag "p" [] []]]

theorem calls_cards (calls : Calls (mixins cards) name called) : name = "card" ∧ called = "title" := by
  obtain ⟨body, found, member⟩ := calls
  have entries : (mixins cards).entries =
      [("card", [.tag "div" [] [.call "title" [] []]]), ("title", [.tag "h2" [] []])] := rfl
  rw [Dict.get?_eq_some_iff, entries] at found
  rcases List.mem_cons.1 found with first | found
  · cases first
    exact ⟨rfl, List.mem_singleton.1 member⟩
  · cases List.mem_singleton.1 found
    contradiction

theorem acyclic_cards : Acyclic (mixins cards) := by
  intro name cycle
  obtain ⟨_, first, _⟩ := TransGen.head'_iff.1 cycle
  obtain ⟨_, _, last⟩ := TransGen.tail'_iff.1 cycle
  have apart : "card" ≠ "title" := by decide
  exact apart ((calls_cards first).1.symm.trans (calls_cards last).2)

theorem relocated_cards : Relocated cards nestedCards :=
  ⟨rfl, List.Perm.swap _ _ _⟩

theorem events_sound_cards :
    ((definitions cards).map (·.1)).Nodup ∧ Relocated cards nestedCards ∧ Acyclic (mixins cards) ∧
      WellNested (events cards) ∧ record .single (events cards) = record .single (events nestedCards) ∧
      ∃ expansion, IsExpansion (mixins cards) expansion ∧
        events cards = events (substitute expansion cards) := by
  have distinct : ((definitions cards).map (·.1)).Nodup := by decide
  obtain ⟨⟨_, _, nested⟩, places, substitution⟩ := events_sound cards
  obtain ⟨expansion, expands, _, same⟩ := substitution acyclic_cards
  have moved := places distinct .single nestedCards relocated_cards
  exact ⟨distinct, relocated_cards, acyclic_cards, nested, moved, expansion, expands, same⟩

end Querymap.Pug
