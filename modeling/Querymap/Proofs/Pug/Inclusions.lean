import Querymap.Pug.Include

/-! The includes of a template in document order, and templates with blocks in their place. -/
namespace Querymap.Pug

/-- An include as it stands in a template. -/
structure Inclusion where
  name : String
  line : Nat
deriving DecidableEq

mutual

/-- The includes in a node, in document order. -/
def Node.inclusions : Node → List Inclusion
  | .include path line => [⟨path, line⟩]
  | .tag _ _ block | .mixin _ block | .call _ _ block | .loop block | .case block | .when block
  | .named _ block | .code block | .group block => inclusions block
  | .conditional consequent alternate => inclusions consequent ++ alternate.inclusions
  | .each block none => inclusions block
  | .each block (some alternate) => inclusions block ++ inclusions alternate
  | .text | .comment | .doctype | .inherits _ => []

def inclusions : List Node → List Inclusion
  | [] => []
  | node :: rest => node.inclusions ++ inclusions rest

def Alternate.inclusions : Alternate → List Inclusion
  | .none => []
  | .elseIf block next => Querymap.Pug.inclusions block ++ next.inclusions
  | .otherwise block => Querymap.Pug.inclusions block

end

mutual

/-- A node with one block in the place of each include, the first block for the first include. -/
def Node.fill (blocks : List Block) : Node → Node
  | .include .. => .group (blocks.headD [])
  | .tag name attributes block => .tag name attributes (fill blocks block)
  | .conditional consequent alternate =>
    .conditional (fill (blocks.take (inclusions consequent).length) consequent)
      (alternate.fill (blocks.drop (inclusions consequent).length))
  | .mixin name block => .mixin name (fill blocks block)
  | .call name attributes block => .call name attributes (fill blocks block)
  | .each block none => .each (fill blocks block) none
  | .each block (some alternate) =>
    .each (fill (blocks.take (inclusions block).length) block)
      (some (fill (blocks.drop (inclusions block).length) alternate))
  | .loop block => .loop (fill blocks block)
  | .case block => .case (fill blocks block)
  | .when block => .when (fill blocks block)
  | .named name block => .named name (fill blocks block)
  | .code block => .code (fill blocks block)
  | .group block => .group (fill blocks block)
  | .text => .text
  | .comment => .comment
  | .doctype => .doctype
  | .inherits path => .inherits path

def fill (blocks : List Block) : List Node → Block
  | [] => []
  | node :: rest =>
    node.fill (blocks.take node.inclusions.length) :: fill (blocks.drop node.inclusions.length) rest

def Alternate.fill (blocks : List Block) : Alternate → Alternate
  | .none => .none
  | .elseIf block next =>
    .elseIf (Querymap.Pug.fill (blocks.take (Querymap.Pug.inclusions block).length) block)
      (next.fill (blocks.drop (Querymap.Pug.inclusions block).length))
  | .otherwise block => .otherwise (Querymap.Pug.fill blocks block)

end

section

variable {m : Type → Type} [Monad m] [LawfulMonad m]

/-- What follows a traversal may rely on the number of its results. -/
theorem mapM_bind_congr {α β γ : Type} {f : α → m β} {list : List α} {next other : List β → m γ}
    (same : ∀ results : List β, results.length = list.length → next results = other results) :
    list.mapM f >>= next = list.mapM f >>= other := by
  induction list generalizing next other with
  | nil => simpa using same [] rfl
  | cons first rest ih =>
    simp only [List.mapM_cons, bind_assoc, pure_bind]
    congr 1
    funext result
    exact ih fun results length => same (result :: results) (by simp [length])

variable (load : String → Nat → m Block)

/-- The blocks of some includes, one after the other. -/
def loadAll (inclusions : List Inclusion) : m (List Block) :=
  inclusions.mapM fun inclusion => load inclusion.name inclusion.line

/-- Two parts of a template one after the other. -/
theorem loadAll_append {α β γ : Type} {first second : List Inclusion} {left : List Block → α}
    {right : List Block → β} {join : α → β → γ} :
    (do
      let a ← left <$> loadAll load first
      let b ← right <$> loadAll load second
      pure (join a b)) =
    (fun blocks => join (left (blocks.take first.length)) (right (blocks.drop first.length))) <$>
      loadAll load (first ++ second) := by
  simp only [loadAll, List.mapM_append, map_eq_pure_bind, bind_assoc, pure_bind]
  refine mapM_bind_congr fun blocks length => ?_
  congr 1
  funext others
  rw [← length, List.take_left, List.drop_left]

mutual

theorem expandNode_eq_fill (node : Node) :
    expandNode load node = (node.fill ·) <$> loadAll load node.inclusions := by
  cases node with
  | «include» path line =>
    simp only [expandNode, Node.inclusions, Node.fill, loadAll, List.mapM_cons, List.mapM_nil,
      map_eq_pure_bind, bind_assoc, pure_bind, List.headD_cons]
  | tag _ _ block | mixin _ block | call _ _ block | loop block | case block | when block
  | named _ block | code block | group block =>
    simp only [expandNode, expandBlock_eq_fill block, Node.inclusions, Node.fill, map_eq_pure_bind,
      bind_assoc, pure_bind]
  | conditional consequent alternate =>
    simp only [expandNode, expandBlock_eq_fill consequent, expandAlternate_eq_fill alternate]
    exact loadAll_append load
  | each block alternate =>
    cases alternate with
    | none =>
      simp only [expandNode, expandBlock_eq_fill block, Node.inclusions, Node.fill, map_eq_pure_bind,
        bind_assoc, pure_bind]
    | some alternate =>
      simp only [expandNode, expandBlock_eq_fill block, expandBlock_eq_fill alternate]
      exact loadAll_append load
  | text | comment | doctype | inherits _ => simp [expandNode, Node.inclusions, Node.fill, loadAll]

theorem expandBlock_eq_fill (block : List Node) :
    expandBlock load block = (fill · block) <$> loadAll load (inclusions block) := by
  cases block with
  | nil => simp [expandBlock, inclusions, fill, loadAll]
  | cons node rest =>
    simp only [expandBlock, expandNode_eq_fill node, expandBlock_eq_fill rest]
    exact loadAll_append load

theorem expandAlternate_eq_fill (alternate : Alternate) :
    expandAlternate load alternate = (alternate.fill ·) <$> loadAll load alternate.inclusions := by
  cases alternate with
  | none => simp [expandAlternate, Alternate.inclusions, Alternate.fill, loadAll]
  | elseIf block next =>
    simp only [expandAlternate, expandBlock_eq_fill block, expandAlternate_eq_fill next]
    exact loadAll_append load
  | otherwise block =>
    simp only [expandAlternate, expandBlock_eq_fill block, Alternate.inclusions, Alternate.fill,
      map_eq_pure_bind, bind_assoc, pure_bind]

end

end

end Querymap.Pug
