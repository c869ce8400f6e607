/-! The tree of a template. Only what carries tags is kept apart; expressions and text are opaque. -/
namespace Querymap.Pug

inductive Value
  /-- A quoted string literal, unescaped. -/
  | literal (text : String)
  /-- Any other expression, verbatim. -/
  | expression (text : String)
  | boolean
deriving DecidableEq, Inhabited

structure Attribute where
  name : String
  value : Value
deriving DecidableEq, Inhabited

mutual

inductive Node
  | tag (name : String) (attributes : List Attribute) (block : List Node)
  | conditional (consequent : List Node) (alternate : Alternate)
  | include (path : String) (line : Nat)
  | mixin (name : String) (block : List Node)
  | call (name : String) (attributes : List Attribute) (block : List Node)
  | each (block : List Node) (alternate : Option (List Node))
  | loop (block : List Node)
  | case (block : List Node)
  | when (block : List Node)
  | named (name : String) (block : List Node)
  | code (block : List Node)
  | text
  | comment
  | doctype
  | inherits (path : String)
  | group (block : List Node)

/-- What follows a condition: nothing, a further condition or a final branch. -/
inductive Alternate
  | none
  | elseIf (block : List Node) (next : Alternate)
  | otherwise (block : List Node)

end

deriving instance BEq for Node
deriving instance Inhabited for Node

abbrev Block := List Node

/-- The alternate with a branch at its end; none if the last branch is final. -/
def Alternate.append? : Alternate → Alternate → Option Alternate
  | .none, branch => some branch
  | .elseIf block next, branch => (next.append? branch).map (.elseIf block)
  | .otherwise _, _ => Option.none

/-- Adds nodes to the block that the lines below a node go into. -/
def Node.extend (node : Node) (nodes : Block) : Node :=
  match node with
  | .tag name attributes block => .tag name attributes (block ++ nodes)
  | .conditional consequent alternate => .conditional (consequent ++ nodes) alternate
  | .mixin name block => .mixin name (block ++ nodes)
  | .call name attributes block => .call name attributes (block ++ nodes)
  | .each block alternate => .each (block ++ nodes) alternate
  | .loop block => .loop (block ++ nodes)
  | .case block => .case (block ++ nodes)
  | .when block => .when (block ++ nodes)
  | .named name block => .named name (block ++ nodes)
  | .code block => .code (block ++ nodes)
  | .group block => .group (block ++ nodes)
  | .include .. | .text | .comment | .doctype | .inherits _ => node

end Querymap.Pug
