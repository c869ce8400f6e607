import Querymap.Proofs.Markup.Forest
import Querymap.Proofs.Pug.Definitions

/-! The walk through a template by rules. A derivation is a walk that ends; every template has one
whatever its mixins call, and its events are well nested. -/
namespace Querymap.Pug

open Markup

mutual

/-- The nodes in the blocks of a node, those of all branches. -/
def Node.inner : Node → Block
  | .tag _ _ block | .mixin _ block | .call _ _ block | .loop block | .case block | .when block
  | .named _ block | .code block | .group block => block
  | .conditional consequent alternate => consequent ++ alternate.inner
  | .each block none => block
  | .each block (some alternate) => block ++ alternate
  | .include .. | .text | .comment | .doctype | .inherits _ => []

def Alternate.inner : Alternate → Block
  | .none => []
  | .elseIf block next => block ++ next.inner
  | .otherwise block => block

end

/-- A node that is passed through: neither a tag nor a call. -/
def Node.isPassed : Node → Bool
  | .tag .. | .call .. => false
  | _ => true

/-- The walk through some nodes while the mixins in `active` are being expanded, with its events. -/
inductive Walk (known : Dict Block) : (active : List String) → List Node → List Event → Prop
  | done {active : List String} : Walk known active [] []
  | tag {active : List String} {name : String} {attributes : List Attribute} {block rest : List Node}
      {inner after : List Event} (inside : Walk known active block inner)
      (others : Walk known active rest after) :
      Walk known active (.tag name attributes block :: rest)
        (.opened name (tagAttributes attributes) :: (inner ++ .closed name :: after))
  /-- A call of a mixin walks through its body. -/
  | expanded {active : List String} {name : String} {attributes : List Attribute} {body : Block}
      {block rest : List Node} {inner after : List Event} (found : known.get? name = some body)
      (free : name ∉ active) (inside : Walk known (name :: active) body inner)
      (others : Walk known active rest after) :
      Walk known active (.call name attributes block :: rest) (inner ++ after)
  /-- Within its own body a mixin contributes nothing. -/
  | recursive {active : List String} {name : String} {attributes : List Attribute} {body : Block}
      {block rest : List Node} {after : List Event} (found : known.get? name = some body)
      (inside : name ∈ active) (others : Walk known active rest after) :
      Walk known active (.call name attributes block :: rest) after
  /-- A call of anything else walks through the block of the call. -/
  | foreign {active : List String} {name : String} {attributes : List Attribute}
      {block rest : List Node} {inner after : List Event} (missing : known.get? name = none)
      (inside : Walk known active block inner) (others : Walk known active rest after) :
      Walk known active (.call name attributes block :: rest) (inner ++ after)
  | passed {active : List String} {node : Node} {rest : List Node} {inner after : List Event}
      (plain : node.isPassed = true) (inside : Walk known active node.inner inner)
      (others : Walk known active rest after) : Walk known active (node :: rest) (inner ++ after)

variable {known : Dict Block} {active : List String} {block other : List Node}
  {events events' : List Event}

theorem Walk.append (first : Walk known active block events)
    (second : Walk known active other events') :
    Walk known active (block ++ other) (events ++ events') := by
  induction first with
  | done => exact second
  | tag inside _ _ ih => simpa using Walk.tag inside (ih second)
  | expanded found free inside _ _ ih =>
    rw [List.append_assoc]
    exact .expanded found free inside (ih second)
  | recursive found inside _ ih => exact .recursive found inside (ih second)
  | foreign missing inside _ _ ih =>
    rw [List.append_assoc]
    exact .foreign missing inside (ih second)
  | passed plain inside _ _ ih =>
    rw [List.append_assoc]
    exact .passed plain inside (ih second)

/-- There is one way to walk. -/
theorem Walk.unique (walk : Walk known active block events)
    (walk' : Walk known active block events') : events = events' := by
  induction walk generalizing events' with
  | done =>
    cases walk'
    rfl
  | tag _ _ inside others =>
    cases walk' with
    | tag inside' others' => rw [inside inside', others others']
    | passed plain => contradiction
  | expanded found free _ _ inside others =>
    cases walk' with
    | expanded found' _ inside' others' =>
      obtain rfl := Option.some.inj (found.symm.trans found')
      rw [inside inside', others others']
    | recursive _ taken => contradiction
    | foreign missing =>
      rw [missing] at found
      contradiction
    | passed plain => contradiction
  | recursive found taken _ others =>
    cases walk' with
    | expanded _ free => contradiction
    | recursive _ _ others' => rw [others others']
    | foreign missing =>
      rw [missing] at found
      contradiction
    | passed plain => contradiction
  | foreign missing _ _ inside others =>
    cases walk' with
    | expanded found | recursive found =>
      rw [missing] at found
      contradiction
    | foreign _ inside' others' => rw [inside inside', others others']
    | passed plain => contradiction
  | passed plain _ _ inside others =>
    cases walk' with
    | passed _ inside' others' => rw [inside inside', others others']
    | tag | expanded | recursive | foreign => contradiction

theorem WellNested.append {first second : List Event} (nested : WellNested first)
    (nested' : WellNested second) : WellNested (first ++ second) := by
  induction nested with
  | nil => exact nested'
  | element inner _ _ ih => simpa using WellNested.element inner ih

theorem Walk.wellNested (walk : Walk known active block events) : WellNested events := by
  induction walk with
  | done => exact .nil
  | tag _ _ inside others => exact .element inside others
  | expanded _ _ _ _ inside others | foreign _ _ _ inside others | passed _ _ _ inside others =>
    exact WellNested.append inside others
  | recursive _ _ _ others => exact others

/-! Every walk ends. -/

/-- The walks through the bodies of the mixins that can still be expanded. -/
def Expandable (known : Dict Block) (active : List String) : Prop :=
  ∀ name body, known.get? name = some body → name ∉ active →
    Walk known (name :: active) body (blockEvents (mixinEvents known (name :: active)) body)

mutual

theorem Expandable.walkNode (expandable : Expandable known active) (node : Node) :
    Walk known active [node] (nodeEvents (mixinEvents known active) node) := by
  have passed (plain : node.isPassed = true) {inner : List Event}
      (inside : Walk known active node.inner inner) : Walk known active [node] inner := by
    simpa using Walk.passed plain inside .done
  cases node with
  | tag name attributes block =>
    rw [nodeEvents]
    exact .tag (expandable.walk block) .done
  | call name attributes block =>
    rw [nodeEvents, mixinEvents_eq_map]
    cases found : known.get? name with
    | none => simpa using Walk.foreign found (expandable.walk block) .done
    | some body =>
      by_cases taken : name ∈ active
      · simpa [taken] using Walk.recursive found taken .done
      · simpa [taken] using Walk.expanded found taken (expandable name body found taken) .done
  | mixin _ block | loop block | case block | when block | named _ block | code block
  | group block => exact passed rfl (expandable.walk block)
  | conditional consequent alternate =>
    exact passed rfl ((expandable.walk consequent).append (expandable.walkAlternate alternate))
  | each block alternate =>
    cases alternate with
    | none => exact passed rfl (expandable.walk block)
    | some alternate => exact passed rfl ((expandable.walk block).append (expandable.walk alternate))
  | «include» | text | comment | doctype | inherits => exact passed rfl .done

theorem Expandable.walk (expandable : Expandable known active) (block : List Node) :
    Walk known active block (blockEvents (mixinEvents known active) block) := by
  cases block with
  | nil => exact .done
  | cons node rest => exact (expandable.walkNode node).append (expandable.walk rest)

theorem Expandable.walkAlternate (expandable : Expandable known active) (alternate : Alternate) :
    Walk known active alternate.inner (alternateEvents (mixinEvents known active) alternate) := by
  cases alternate with
  | none => exact .done
  | elseIf block next => exact (expandable.walk block).append (expandable.walkAlternate next)
  | otherwise block => exact expandable.walk block

end

/-- The walk through any template ends, since each expansion leaves fewer mixins to expand. -/
theorem walk_blockEvents (known : Dict Block) (active : List String) (block : List Node) :
    Walk known active block (blockEvents (mixinEvents known active) block) := by
  refine Expandable.walk (fun name body found free => ?_) block
  exact walk_blockEvents known (name :: active) body
termination_by (available known active).length
decreasing_by exact available_smaller found (by simpa using free)

end Querymap.Pug
