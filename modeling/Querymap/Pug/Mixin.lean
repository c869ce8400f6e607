import Querymap.Markup.Recorder
import Querymap.Pug.Node

/-! The tags of a template. A mixin stands for its body wherever it is called, before or after its
definition, but never within itself. -/
namespace Querymap.Pug

open Markup

mutual

/-- A node without the definitions in it, and the definitions found so far. -/
def takeMixinsNode (mixins : Dict Block) : Node → Node × Dict Block
  | .mixin name body =>
    let (body, mixins) := takeMixins mixins body
    (.group [], mixins.insert name body)
  | .tag name attributes block =>
    let (block, mixins) := takeMixins mixins block
    (.tag name attributes block, mixins)
  | .conditional consequent alternate =>
    let (consequent, mixins) := takeMixins mixins consequent
    let (alternate, mixins) := takeMixinsAlternate mixins alternate
    (.conditional consequent alternate, mixins)
  | .call name attributes block =>
    let (block, mixins) := takeMixins mixins block
    (.call name attributes block, mixins)
  | .each block none =>
    let (block, mixins) := takeMixins mixins block
    (.each block none, mixins)
  | .each block (some alternate) =>
    let (block, mixins) := takeMixins mixins block
    let (alternate, mixins) := takeMixins mixins alternate
    (.each block (some alternate), mixins)
  | .loop block =>
    let (block, mixins) := takeMixins mixins block
    (.loop block, mixins)
  | .case block =>
    let (block, mixins) := takeMixins mixins block
    (.case block, mixins)
  | .when block =>
    let (block, mixins) := takeMixins mixins block
    (.when block, mixins)
  | .named name block =>
    let (block, mixins) := takeMixins mixins block
    (.named name block, mixins)
  | .code block =>
    let (block, mixins) := takeMixins mixins block
    (.code block, mixins)
  | .group block =>
    let (block, mixins) := takeMixins mixins block
    (.group block, mixins)
  | .include path line => (.include path line, mixins)
  | .text => (.text, mixins)
  | .comment => (.comment, mixins)
  | .doctype => (.doctype, mixins)
  | .inherits path => (.inherits path, mixins)

def takeMixins (mixins : Dict Block) : List Node → Block × Dict Block
  | [] => ([], mixins)
  | node :: rest =>
    let (node, mixins) := takeMixinsNode mixins node
    let (rest, mixins) := takeMixins mixins rest
    (node :: rest, mixins)

def takeMixinsAlternate (mixins : Dict Block) : Alternate → Alternate × Dict Block
  | .none => (.none, mixins)
  | .elseIf block next =>
    let (block, mixins) := takeMixins mixins block
    let (next, mixins) := takeMixinsAlternate mixins next
    (.elseIf block next, mixins)
  | .otherwise block =>
    let (block, mixins) := takeMixins mixins block
    (.otherwise block, mixins)

end

/-- Literal attributes by name. All classes together are one attribute. -/
def tagAttributes (attributes : List Attribute) : Attributes :=
  let literals := attributes.filterMap fun attr =>
    match attr.value with
    | .literal text => some (attr.name, text)
    | _ => none
  let others := Dict.ofList (literals.filter (·.1 != "class"))
  match (literals.filter (·.1 == "class")).map (·.2) with
  | [] => others
  | classes => others.insert "class" (String.intercalate " " classes)

mutual

/-- The events of a node. A call of a mixin that `expand` does not know stands for its own block. -/
def nodeEvents (expand : String → Option (List Event)) : Node → List Event
  | .tag name attributes block =>
    .opened name (tagAttributes attributes) :: blockEvents expand block ++ [.closed name]
  | .call name _ block =>
    match expand name with
    | some events => events
    | none => blockEvents expand block
  | .conditional consequent alternate =>
    blockEvents expand consequent ++ alternateEvents expand alternate
  | .each block none => blockEvents expand block
  | .each block (some alternate) => blockEvents expand block ++ blockEvents expand alternate
  | .mixin _ block | .loop block | .case block | .when block | .named _ block | .code block
  | .group block => blockEvents expand block
  | .include .. | .text | .comment | .doctype | .inherits _ => []

def blockEvents (expand : String → Option (List Event)) : List Node → List Event
  | [] => []
  | node :: rest => nodeEvents expand node ++ blockEvents expand rest

def alternateEvents (expand : String → Option (List Event)) : Alternate → List Event
  | .none => []
  | .elseIf block next => blockEvents expand block ++ alternateEvents expand next
  | .otherwise block => blockEvents expand block

end

/-- Mixins that are not being expanded. -/
def available (mixins : Dict Block) (active : List String) : List String :=
  mixins.keys.filter (!active.contains ·)

theorem available_smaller {mixins : Dict Block} {active : List String} {name : String}
    {body : Block} (found : mixins.get? name = some body) (free : active.contains name = false) :
    (available mixins (name :: active)).length < (available mixins active).length := by
  have known : name ∈ available mixins active :=
    List.mem_filter.2 ⟨Dict.mem_keys_of_get? found, by simpa using free⟩
  have fewer : available mixins (name :: active) =
      (available mixins active).filter (· != name) := by
    simp only [available, List.filter_filter]
    congr 1
    funext other
    simp only [List.contains_cons, Bool.not_or]
    rfl
  rw [fewer, List.length_filter_lt_length_iff_exists]
  exact ⟨name, known, by simp⟩

set_option linter.unusedVariables false in
/-- The events of a mixin that is called while those in `active` are being expanded. -/
def mixinEvents (mixins : Dict Block) (active : List String) (name : String) :
    Option (List Event) :=
  match found : mixins.get? name with
  | none => none
  | some body =>
    if free : active.contains name = false then
      some (blockEvents (mixinEvents mixins (name :: active)) body)
    else some []
termination_by (available mixins active).length
decreasing_by exact available_smaller found free

def events (block : Block) : List Event :=
  let (block, mixins) := takeMixins ∅ block
  blockEvents (mixinEvents mixins []) block

end Querymap.Pug
