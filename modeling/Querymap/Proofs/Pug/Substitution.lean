import Querymap.Proofs.Pug.Definitions

/-! Trees in which the calls are replaced. What replaces them matters for the called names only; a call
and what replaces it have the same events; and nothing is a mixin in what remains. -/
namespace Querymap.Pug

open Markup

mutual

/-- A node in which the calls are replaced: by the expansion of the mixin, else by the block of the call.
Nothing replaces a definition. -/
def Node.substitute (expansion : String → Option Block) : Node → Block
  | .mixin _ _ => []
  | .call name _ block =>
    match expansion name with
    | some body => body
    | none => substitute expansion block
  | .tag name attributes block => [.tag name attributes (substitute expansion block)]
  | .conditional consequent alternate =>
    [.conditional (substitute expansion consequent) (alternate.substitute expansion)]
  | .each block none => [.each (substitute expansion block) none]
  | .each block (some alternate) =>
    [.each (substitute expansion block) (some (substitute expansion alternate))]
  | .loop block => [.loop (substitute expansion block)]
  | .case block => [.case (substitute expansion block)]
  | .when block => [.when (substitute expansion block)]
  | .named name block => [.named name (substitute expansion block)]
  | .code block => [.code (substitute expansion block)]
  | .group block => [.group (substitute expansion block)]
  | .include path line => [.include path line]
  | .text => [.text]
  | .comment => [.comment]
  | .doctype => [.doctype]
  | .inherits path => [.inherits path]

def substitute (expansion : String → Option Block) : List Node → Block
  | [] => []
  | node :: rest => node.substitute expansion ++ substitute expansion rest

def Alternate.substitute (expansion : String → Option Block) : Alternate → Alternate
  | .none => .none
  | .elseIf block next =>
    .elseIf (Querymap.Pug.substitute expansion block) (next.substitute expansion)
  | .otherwise block => .otherwise (Querymap.Pug.substitute expansion block)

end

mutual

/-- The names that are called in a node, but not those in a definition. -/
def Node.calls : Node → List String
  | .call name _ block => name :: calls block
  | .tag _ _ block | .loop block | .case block | .when block | .named _ block | .code block
  | .group block => calls block
  | .conditional consequent alternate => calls consequent ++ alternate.calls
  | .each block none => calls block
  | .each block (some alternate) => calls block ++ calls alternate
  | .mixin .. | .include .. | .text | .comment | .doctype | .inherits _ => []

def calls : List Node → List String
  | [] => []
  | node :: rest => node.calls ++ calls rest

def Alternate.calls : Alternate → List String
  | .none => []
  | .elseIf block next => Querymap.Pug.calls block ++ next.calls
  | .otherwise block => Querymap.Pug.calls block

end

/-! Substitution depends on what is called, and leaves no definition. -/

section

variable {expansion other : String → Option Block}

mutual

theorem Node.substitute_congr (node : Node)
    (same : ∀ name ∈ node.calls, expansion name = other name) :
    node.substitute expansion = node.substitute other := by
  cases node with
  | mixin => rfl
  | call name attributes block =>
    have inner : ∀ called ∈ calls block, expansion called = other called :=
      fun called member => same called (List.mem_cons_of_mem name member)
    simp only [Node.substitute, same name List.mem_cons_self, substitute_congr block inner]
  | tag _ _ block | loop block | case block | when block | named _ block | code block
  | group block => simp only [Node.substitute, substitute_congr block same]
  | conditional consequent alternate =>
    obtain ⟨first, second⟩ := List.forall_mem_append.1 same
    simp only [Node.substitute, substitute_congr consequent first,
      Alternate.substitute_congr alternate second]
  | each block alternate =>
    cases alternate with
    | none => simp only [Node.substitute, substitute_congr block same]
    | some alternate =>
      obtain ⟨first, second⟩ := List.forall_mem_append.1 same
      simp only [Node.substitute, substitute_congr block first, substitute_congr alternate second]
  | «include» | text | comment | doctype | inherits => rfl

theorem substitute_congr (block : List Node)
    (same : ∀ name ∈ calls block, expansion name = other name) :
    substitute expansion block = substitute other block := by
  cases block with
  | nil => rfl
  | cons node rest =>
    obtain ⟨first, second⟩ := List.forall_mem_append.1 same
    simp only [substitute, node.substitute_congr first, substitute_congr rest second]

theorem Alternate.substitute_congr (alternate : Alternate)
    (same : ∀ name ∈ alternate.calls, expansion name = other name) :
    alternate.substitute expansion = alternate.substitute other := by
  cases alternate with
  | none => rfl
  | elseIf block next =>
    obtain ⟨first, second⟩ := List.forall_mem_append.1 same
    simp only [Alternate.substitute, Querymap.Pug.substitute_congr block first,
      Alternate.substitute_congr next second]
  | otherwise block =>
    simp only [Alternate.substitute, Querymap.Pug.substitute_congr block same]

end

end

section

variable (expansion : String → Option Block)

theorem substitute_append (first second : List Node) :
    substitute expansion (first ++ second) =
      substitute expansion first ++ substitute expansion second := by
  induction first with
  | nil => rfl
  | cons node rest ih => simp only [List.cons_append, substitute, ih, List.append_assoc]

mutual

theorem Node.substitute_withoutDefinitions (node : Node) :
    substitute expansion node.withoutDefinitions = node.substitute expansion := by
  cases node with
  | mixin => rfl
  | tag _ _ block | call _ _ block | loop block | case block | when block | named _ block
  | code block | group block =>
    simp only [Node.withoutDefinitions, substitute, Node.substitute,
      substitute_withoutDefinitions block, List.append_nil]
  | conditional consequent alternate =>
    simp only [Node.withoutDefinitions, substitute, Node.substitute,
      substitute_withoutDefinitions consequent,
      Alternate.substitute_withoutDefinitions alternate, List.append_nil]
  | each block alternate =>
    cases alternate with
    | none =>
      simp only [Node.withoutDefinitions, substitute, Node.substitute,
        substitute_withoutDefinitions block, List.append_nil]
    | some alternate =>
      simp only [Node.withoutDefinitions, substitute, Node.substitute,
        substitute_withoutDefinitions block, substitute_withoutDefinitions alternate,
        List.append_nil]
  | «include» | text | comment | doctype | inherits => rfl

theorem substitute_withoutDefinitions (block : List Node) :
    substitute expansion (withoutDefinitions block) = substitute expansion block := by
  cases block with
  | nil => rfl
  | cons node rest =>
    simp only [withoutDefinitions, substitute_append, node.substitute_withoutDefinitions,
      substitute_withoutDefinitions rest, substitute]

theorem Alternate.substitute_withoutDefinitions (alternate : Alternate) :
    alternate.withoutDefinitions.substitute expansion = alternate.substitute expansion := by
  cases alternate with
  | none => rfl
  | elseIf block next =>
    simp only [Alternate.withoutDefinitions, Alternate.substitute,
      Querymap.Pug.substitute_withoutDefinitions block,
      Alternate.substitute_withoutDefinitions next]
  | otherwise block =>
    simp only [Alternate.withoutDefinitions, Alternate.substitute,
      Querymap.Pug.substitute_withoutDefinitions block]

end

/-- The events of a tree in which nothing is a mixin. -/
abbrev tags (block : List Node) : List Event := blockEvents (fun _ => none) block

mutual

theorem Node.tags_substitute (node : Node) :
    blockEvents (fun name => (expansion name).map tags) node.withoutDefinitions =
      tags (node.substitute expansion) := by
  cases node with
  | mixin => rfl
  | call name attributes block =>
    simp only [Node.withoutDefinitions, Node.substitute, blockEvents, nodeEvents, List.append_nil]
    cases expansion name with
    | none => exact tags_substitute block
    | some body => rfl
  | tag _ _ block | loop block | case block | when block | named _ block | code block
  | group block =>
    simp only [Node.withoutDefinitions, Node.substitute, blockEvents, nodeEvents,
      tags_substitute block]
  | conditional consequent alternate =>
    simp only [Node.withoutDefinitions, Node.substitute, blockEvents, nodeEvents,
      tags_substitute consequent, Alternate.tags_substitute alternate]
  | each block alternate =>
    cases alternate with
    | none =>
      simp only [Node.withoutDefinitions, Node.substitute, blockEvents, nodeEvents,
        tags_substitute block]
    | some alternate =>
      simp only [Node.withoutDefinitions, Node.substitute, blockEvents, nodeEvents,
        tags_substitute block, tags_substitute alternate]
  | «include» | text | comment | doctype | inherits => rfl

/-- A call for whose events those of an expansion stand can be replaced by the expansion. -/
theorem tags_substitute (block : List Node) :
    blockEvents (fun name => (expansion name).map tags) (withoutDefinitions block) =
      tags (substitute expansion block) := by
  cases block with
  | nil => rfl
  | cons node rest =>
    simp only [withoutDefinitions, substitute, tags, blockEvents_append]
    rw [node.tags_substitute, tags_substitute rest]

theorem Alternate.tags_substitute (alternate : Alternate) :
    alternateEvents (fun name => (expansion name).map tags) alternate.withoutDefinitions =
      alternateEvents (fun _ => none) (alternate.substitute expansion) := by
  cases alternate with
  | none => rfl
  | elseIf block next =>
    simp only [Alternate.withoutDefinitions, Alternate.substitute, alternateEvents,
      Querymap.Pug.tags_substitute block, Alternate.tags_substitute next]
  | otherwise block =>
    simp only [Alternate.withoutDefinitions, Alternate.substitute, alternateEvents,
      Querymap.Pug.tags_substitute block]

end

end

/-- A tree without definitions. -/
structure Bare (block : Block) : Prop where
  defines : definitions block = []
  kept : withoutDefinitions block = block

theorem definitions_append (first second : List Node) :
    definitions (first ++ second) = definitions first ++ definitions second := by
  induction first with
  | nil => rfl
  | cons node rest ih => simp only [List.cons_append, definitions, ih, List.append_assoc]

theorem withoutDefinitions_append (first second : List Node) :
    withoutDefinitions (first ++ second) =
      withoutDefinitions first ++ withoutDefinitions second := by
  induction first with
  | nil => rfl
  | cons node rest ih => simp only [List.cons_append, withoutDefinitions, ih, List.append_assoc]

theorem Bare.append {first second : Block} (bare : Bare first) (bare' : Bare second) :
    Bare (first ++ second) := by
  constructor
  · rw [definitions_append, bare.defines, bare'.defines, List.append_nil]
  · rw [withoutDefinitions_append, bare.kept, bare'.kept]

/-- Without definitions no call is a call of a mixin. -/
theorem Bare.events_eq {block : Block} (bare : Bare block) : events block = tags block := by
  have unknown : mixinEvents (mixins block) [] = fun _ => none := by
    funext name
    rw [mixinEvents_eq_map, mixins, bare.defines]
    rfl
  rw [Pug.events_eq, bare.kept, unknown]

mutual

theorem Node.bare_substitute {expansion : String → Option Block}
    (expansions : ∀ name body, expansion name = some body → Bare body) (node : Node) :
    Bare (node.substitute expansion) := by
  cases node with
  | mixin => exact ⟨rfl, rfl⟩
  | call name attributes block =>
    rw [Node.substitute]
    cases found : expansion name with
    | none => exact bare_substitute expansions block
    | some body => exact expansions name body found
  | tag _ _ block | loop block | case block | when block | named _ block | code block
  | group block =>
    obtain ⟨defines, kept⟩ := bare_substitute expansions block
    constructor
    · exact (List.append_nil _).trans defines
    · simp only [Node.substitute, withoutDefinitions, Node.withoutDefinitions, kept,
        List.append_nil]
  | conditional consequent alternate =>
    obtain ⟨defines, kept⟩ := bare_substitute expansions consequent
    obtain ⟨defines', kept'⟩ := Alternate.bare_substitute expansions alternate
    constructor
    · simp only [Node.substitute, definitions, Node.definitions, defines, defines',
        List.append_nil]
    · simp only [Node.substitute, withoutDefinitions, Node.withoutDefinitions, kept, kept',
        List.append_nil]
  | each block alternate =>
    obtain ⟨defines, kept⟩ := bare_substitute expansions block
    cases alternate with
    | none =>
      constructor
      · exact (List.append_nil _).trans defines
      · simp only [Node.substitute, withoutDefinitions, Node.withoutDefinitions, kept,
          List.append_nil]
    | some alternate =>
      obtain ⟨defines', kept'⟩ := bare_substitute expansions alternate
      constructor
      · simp only [Node.substitute, definitions, Node.definitions, defines, defines',
          List.append_nil]
      · simp only [Node.substitute, withoutDefinitions, Node.withoutDefinitions, kept, kept',
          List.append_nil]
  | «include» | text | comment | doctype | inherits => exact ⟨rfl, rfl⟩

theorem bare_substitute {expansion : String → Option Block}
    (expansions : ∀ name body, expansion name = some body → Bare body) (block : List Node) :
    Bare (substitute expansion block) := by
  cases block with
  | nil => exact ⟨rfl, rfl⟩
  | cons node rest => exact (node.bare_substitute expansions).append (bare_substitute expansions rest)

theorem Alternate.bare_substitute {expansion : String → Option Block}
    (expansions : ∀ name body, expansion name = some body → Bare body) (alternate : Alternate) :
    (alternate.substitute expansion).definitions = [] ∧
      (alternate.substitute expansion).withoutDefinitions = alternate.substitute expansion := by
  cases alternate with
  | none => exact ⟨rfl, rfl⟩
  | elseIf block next =>
    obtain ⟨defines, kept⟩ := Querymap.Pug.bare_substitute expansions block
    obtain ⟨defines', kept'⟩ := Alternate.bare_substitute expansions next
    constructor
    · simp only [Alternate.substitute, Alternate.definitions, defines, defines', List.append_nil]
    · simp only [Alternate.substitute, Alternate.withoutDefinitions, kept, kept']
  | otherwise block =>
    obtain ⟨defines, kept⟩ := Querymap.Pug.bare_substitute expansions block
    constructor
    · exact defines
    · simp only [Alternate.substitute, Alternate.withoutDefinitions, kept]

end

end Querymap.Pug
