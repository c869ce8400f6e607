import Mathlib.Data.List.Nodup
import Querymap.Proofs.Dict
import Querymap.Pug.Mixin

/-! The mixins that a template defines, wherever their definitions stand. The events of a template depend
on its definitions and on what is left of it without them, and on nothing else. -/
namespace Querymap.Pug

open Markup

/-! A template without its definitions, and the definitions in it. -/

mutual

/-- What is left of a node without the definitions in it; nothing is left of a definition. -/
def Node.withoutDefinitions : Node → Block
  | .mixin _ _ => []
  | .tag name attributes block => [.tag name attributes (withoutDefinitions block)]
  | .conditional consequent alternate =>
    [.conditional (withoutDefinitions consequent) alternate.withoutDefinitions]
  | .call name attributes block => [.call name attributes (withoutDefinitions block)]
  | .each block none => [.each (withoutDefinitions block) none]
  | .each block (some alternate) =>
    [.each (withoutDefinitions block) (some (withoutDefinitions alternate))]
  | .loop block => [.loop (withoutDefinitions block)]
  | .case block => [.case (withoutDefinitions block)]
  | .when block => [.when (withoutDefinitions block)]
  | .named name block => [.named name (withoutDefinitions block)]
  | .code block => [.code (withoutDefinitions block)]
  | .group block => [.group (withoutDefinitions block)]
  | .include path line => [.include path line]
  | .text => [.text]
  | .comment => [.comment]
  | .doctype => [.doctype]
  | .inherits path => [.inherits path]

def withoutDefinitions : List Node → Block
  | [] => []
  | node :: rest => node.withoutDefinitions ++ withoutDefinitions rest

def Alternate.withoutDefinitions : Alternate → Alternate
  | .none => .none
  | .elseIf block next =>
    .elseIf (Querymap.Pug.withoutDefinitions block) next.withoutDefinitions
  | .otherwise block => .otherwise (Querymap.Pug.withoutDefinitions block)

end

mutual

/-- The definitions in a node in document order, a definition after those inside it. -/
def Node.definitions : Node → List (String × Block)
  | .mixin name body => definitions body ++ [(name, body)]
  | .tag _ _ block | .call _ _ block | .loop block | .case block | .when block | .named _ block
  | .code block | .group block => definitions block
  | .conditional consequent alternate => definitions consequent ++ alternate.definitions
  | .each block none => definitions block
  | .each block (some alternate) => definitions block ++ definitions alternate
  | .include .. | .text | .comment | .doctype | .inherits _ => []

def definitions : List Node → List (String × Block)
  | [] => []
  | node :: rest => node.definitions ++ definitions rest

def Alternate.definitions : Alternate → List (String × Block)
  | .none => []
  | .elseIf block next => Querymap.Pug.definitions block ++ next.definitions
  | .otherwise block => Querymap.Pug.definitions block

end

/-- The bodies of some definitions, without the definitions in them. -/
def bodies (definitions : List (String × Block)) : List (String × Block) :=
  definitions.map fun (name, body) => (name, withoutDefinitions body)

/-- The mixins of a template. The last definition of a name counts. -/
def mixins (block : Block) : Dict Block := Dict.ofList (bodies (definitions block))

theorem bodies_append (first second : List (String × Block)) :
    bodies (first ++ second) = bodies first ++ bodies second :=
  List.map_append

/-! Taking the definitions out of a template. -/

theorem blockEvents_append (expand : String → Option (List Event)) (first second : List Node) :
    blockEvents expand (first ++ second) = blockEvents expand first ++ blockEvents expand second := by
  induction first with
  | nil => rfl
  | cons node rest ih => simp only [List.cons_append, blockEvents, ih, List.append_assoc]

section

variable (expand : String → Option (List Event))

mutual

theorem nodeEvents_takeMixins (known : Dict Block) (node : Node) :
    nodeEvents expand (takeMixinsNode known node).1 = blockEvents expand node.withoutDefinitions := by
  cases node with
  | mixin name body => rfl
  | tag name attributes block | call name attributes block | loop block | case block | when block
  | named name block | code block | group block =>
    simp only [takeMixinsNode, Node.withoutDefinitions, nodeEvents, blockEvents,
      blockEvents_takeMixins, List.append_nil]
  | conditional consequent alternate =>
    simp only [takeMixinsNode, Node.withoutDefinitions, nodeEvents, blockEvents,
      blockEvents_takeMixins, alternateEvents_takeMixins, List.append_nil]
  | each block alternate =>
    cases alternate <;>
      simp only [takeMixinsNode, Node.withoutDefinitions, nodeEvents, blockEvents,
        blockEvents_takeMixins, List.append_nil]
  | «include» | text | comment | doctype | inherits => rfl

theorem blockEvents_takeMixins (known : Dict Block) (block : List Node) :
    blockEvents expand (takeMixins known block).1 = blockEvents expand (withoutDefinitions block) := by
  cases block with
  | nil => rfl
  | cons node rest =>
    simp only [takeMixins, withoutDefinitions, blockEvents, blockEvents_append,
      nodeEvents_takeMixins, blockEvents_takeMixins]

theorem alternateEvents_takeMixins (known : Dict Block) (alternate : Alternate) :
    alternateEvents expand (takeMixinsAlternate known alternate).1 =
      alternateEvents expand alternate.withoutDefinitions := by
  cases alternate with
  | none => rfl
  | elseIf block next =>
    simp only [takeMixinsAlternate, Alternate.withoutDefinitions, alternateEvents,
      blockEvents_takeMixins, alternateEvents_takeMixins]
  | otherwise block =>
    simp only [takeMixinsAlternate, Alternate.withoutDefinitions, alternateEvents,
      blockEvents_takeMixins]

end

end

/-- Tables that give each name bodies with the same events. -/
def Alike (known other : Dict Block) : Prop :=
  ∀ name expand, (known.get? name).map (blockEvents expand) = (other.get? name).map (blockEvents expand)

theorem Alike.insert {known other : Dict Block} (alike : Alike known other) (name : String)
    {body body' : Block} (same : ∀ expand, blockEvents expand body = blockEvents expand body') :
    Alike (known.insert name body) (other.insert name body') := by
  intro called expand
  rw [Dict.get?_insert, Dict.get?_insert]
  split
  · exact congrArg some (same expand)
  · exact alike called expand

mutual

theorem Alike.takeNode {known other : Dict Block} (alike : Alike known other) (node : Node) :
    Alike (takeMixinsNode known node).2 (other.insertAll (bodies node.definitions)) := by
  cases node with
  | mixin name body =>
    rw [Node.definitions, bodies_append, Dict.insertAll_append]
    exact (alike.take body).insert name fun expand => blockEvents_takeMixins expand known body
  | tag _ _ block | call _ _ block | loop block | case block | when block | named _ block
  | code block | group block => exact alike.take block
  | conditional consequent alternate =>
    rw [Node.definitions, bodies_append, Dict.insertAll_append]
    exact (alike.take consequent).takeAlternate alternate
  | each block alternate =>
    cases alternate with
    | none => exact alike.take block
    | some alternate =>
      rw [Node.definitions, bodies_append, Dict.insertAll_append]
      exact (alike.take block).take alternate
  | «include» | text | comment | doctype | inherits => exact alike

theorem Alike.take {known other : Dict Block} (alike : Alike known other) (block : List Node) :
    Alike (takeMixins known block).2 (other.insertAll (bodies (Querymap.Pug.definitions block))) := by
  cases block with
  | nil => exact alike
  | cons node rest =>
    rw [Querymap.Pug.definitions, bodies_append, Dict.insertAll_append]
    exact (alike.takeNode node).take rest

theorem Alike.takeAlternate {known other : Dict Block} (alike : Alike known other)
    (alternate : Alternate) :
    Alike (takeMixinsAlternate known alternate).2 (other.insertAll (bodies alternate.definitions)) := by
  cases alternate with
  | none => exact alike
  | elseIf block next =>
    rw [Alternate.definitions, bodies_append, Dict.insertAll_append]
    exact (alike.take block).takeAlternate next
  | otherwise block => exact alike.take block

end

/-- A call stands for the events of the body, in which the mixin itself contributes nothing. -/
theorem mixinEvents_eq_map (known : Dict Block) (active : List String) (name : String) :
    mixinEvents known active name = (known.get? name).map fun body =>
      if name ∈ active then [] else blockEvents (mixinEvents known (name :: active)) body := by
  rw [mixinEvents]
  split
  · next missing => rw [missing, Option.map_none]
  · next body found =>
    rw [found, Option.map_some]
    by_cases inside : name ∈ active <;> simp [inside]

/-- A call expands to the same events in tables that are alike. -/
theorem Alike.mixinEvents_eq {known other : Dict Block} (alike : Alike known other)
    (active : List String) (name : String) :
    mixinEvents known active name = mixinEvents other active name := by
  fun_induction mixinEvents known active name with
  | case1 active name missing =>
    have same := alike name (mixinEvents other (name :: active))
    rw [missing, Option.map_none, eq_comm, Option.map_eq_none_iff] at same
    rw [mixinEvents_eq_map, same, Option.map_none]
  | case2 active name body found free ih =>
    have same := alike name (mixinEvents other (name :: active))
    have outside : name ∉ active := by simpa using free
    rw [found, Option.map_some] at same
    rw [funext ih, mixinEvents_eq_map, same]
    simp only [outside, if_false]
  | case3 active name body found taken =>
    have same := alike name fun _ => none
    have inside : name ∈ active := by simpa using taken
    obtain ⟨body', found', _⟩ := Option.map_eq_some_iff.1 (same.symm.trans (congrArg _ found))
    rw [mixinEvents_eq_map, found', Option.map_some, if_pos inside]

/-- The events of a template: those of what is left without the definitions, where each call stands for
the body that the definitions give it. -/
theorem events_eq (block : Block) :
    events block = blockEvents (mixinEvents (mixins block) []) (withoutDefinitions block) := by
  have alike : Alike (takeMixins ∅ block).2 (mixins block) :=
    Alike.take (fun _ _ => rfl) block
  rw [events, ← blockEvents_takeMixins _ ∅]
  exact congrArg (blockEvents · (takeMixins ∅ block).1) (funext (alike.mixinEvents_eq []))

/-- The same template but for the places of its definitions. -/
structure Relocated (block other : Block) : Prop where
  left : withoutDefinitions block = withoutDefinitions other
  moved : (bodies (definitions block)).Perm (bodies (definitions other))

/-- Among definitions of different names it does not matter which one comes last. -/
theorem Relocated.mixins_eq {block other : Block} (relocated : Relocated block other)
    (distinct : ((definitions block).map (·.1)).Nodup) : mixins block = mixins other := by
  have names : (bodies (definitions block)).map (·.1) = (definitions block).map (·.1) := by
    simp [bodies]
  have functional : ∀ a ∈ bodies (definitions block), ∀ b ∈ bodies (definitions block),
      a.1 = b.1 → a.2 = b.2 := by
    intro a first b second same
    exact congrArg _ (List.inj_on_of_nodup_map (names ▸ distinct) first second same)
  have functional' : ∀ a ∈ bodies (definitions other), ∀ b ∈ bodies (definitions other),
      a.1 = b.1 → a.2 = b.2 := by
    intro a first b second
    exact functional a (relocated.moved.mem_iff.2 first) b (relocated.moved.mem_iff.2 second)
  apply Dict.ext_get?
  intro name
  apply Option.ext
  intro body
  rw [mixins, mixins, Dict.get?_ofList_eq_some_iff functional, Dict.get?_ofList_eq_some_iff functional']
  exact relocated.moved.mem_iff

theorem Relocated.events_eq {block other : Block} (relocated : Relocated block other)
    (distinct : ((definitions block).map (·.1)).Nodup) : events block = events other := by
  rw [Pug.events_eq block, Pug.events_eq other, relocated.mixins_eq distinct, relocated.left]

end Querymap.Pug
