import Querymap.Pug.Include

/-! Templates without includes. Inlining leaves them as they are and loads nothing. -/
namespace Querymap.Pug

mutual

def Node.includeFree : Node → Bool
  | .include .. => false
  | .tag _ _ block | .mixin _ block | .call _ _ block | .loop block | .case block | .when block
  | .named _ block | .code block | .group block => includeFree block
  | .conditional consequent alternate => includeFree consequent && alternate.includeFree
  | .each block none => includeFree block
  | .each block (some alternate) => includeFree block && includeFree alternate
  | .text | .comment | .doctype | .inherits _ => true

def includeFree : List Node → Bool
  | [] => true
  | node :: rest => node.includeFree && includeFree rest

def Alternate.includeFree : Alternate → Bool
  | .none => true
  | .elseIf block next => Querymap.Pug.includeFree block && next.includeFree
  | .otherwise block => Querymap.Pug.includeFree block

end

section

variable {m : Type → Type} [Monad m] [LawfulMonad m] (load : String → Nat → m Block)

mutual

theorem expandNode_of_includeFree (node : Node) (free : node.includeFree = true) :
    expandNode load node = pure node := by
  cases node with
  | «include» => contradiction
  | tag _ _ block | mixin _ block | call _ _ block | loop block | case block | when block
  | named _ block | code block | group block =>
    simp only [Node.includeFree] at free
    simp only [expandNode, expandBlock_of_includeFree block free, pure_bind]
  | conditional consequent alternate =>
    simp only [Node.includeFree, Bool.and_eq_true] at free
    simp only [expandNode, expandBlock_of_includeFree consequent free.1,
      expandAlternate_of_includeFree alternate free.2, pure_bind]
  | each block alternate =>
    cases alternate with
    | none =>
      simp only [Node.includeFree] at free
      simp only [expandNode, expandBlock_of_includeFree block free, pure_bind]
    | some alternate =>
      simp only [Node.includeFree, Bool.and_eq_true] at free
      simp only [expandNode, expandBlock_of_includeFree block free.1,
        expandBlock_of_includeFree alternate free.2, pure_bind]
  | text | comment | doctype | inherits _ => rfl

theorem expandBlock_of_includeFree (block : List Node) (free : includeFree block = true) :
    expandBlock load block = pure block := by
  cases block with
  | nil => rfl
  | cons node rest =>
    simp only [includeFree, Bool.and_eq_true] at free
    simp only [expandBlock, expandNode_of_includeFree node free.1,
      expandBlock_of_includeFree rest free.2, pure_bind]

theorem expandAlternate_of_includeFree (alternate : Alternate)
    (free : alternate.includeFree = true) : expandAlternate load alternate = pure alternate := by
  cases alternate with
  | none => rfl
  | elseIf block next =>
    simp only [Alternate.includeFree, Bool.and_eq_true] at free
    simp only [expandAlternate, expandBlock_of_includeFree block free.1,
      expandAlternate_of_includeFree next free.2, pure_bind]
  | otherwise block =>
    simp only [Alternate.includeFree] at free
    simp only [expandAlternate, expandBlock_of_includeFree block free, pure_bind]

end

end

theorem inlineIncludes_of_includeFree (source : Source) (path : Option Path) {block : Block}
    (free : includeFree block = true) : inlineIncludes source path block = pure block :=
  expandBlock_of_includeFree _ block free

end Querymap.Pug
