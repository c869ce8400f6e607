/-!
Syntax trees of scripts. Identifiers, strings, calls, object literals and JSX elements are told
apart; all else is a group of parts in source order, whose form matters to the parser only.
-/
namespace Querymap.Script

inductive Form
  | literal
  | parenthesized
  | array
  | computed
  | optional
  | assertion
  | unary
  | binary
  | assignment
  | expression
  | shorthand
  | initialized
  /-- A spread entry that others or a comma follow. -/
  | inside
  | property
  | method
  | pattern
  | container
  | fragment
  | statement
deriving DecidableEq, Inhabited

inductive Tree
  | identifier (name : String)
  /-- A string literal; without a text if it holds half of a surrogate pair. -/
  | string (text : Option String)
  | member (object : Tree) (property : String)
  | call (callee : Tree) (arguments : List Tree)
  | object (entries : List Tree)
  /-- An entry of an object under a plain name. -/
  | field (name : String) (value : Tree)
  /-- An argument, entry, attribute or child after three dots. -/
  | spread (value : Tree)
  | element (tag : String) (attributes : List Tree) (typeArguments : List String)
      (children : List Tree)
  | attr (name : String) (value : Tree)
  | group (form : Form) (parts : List Tree)
deriving Inhabited

namespace Tree

def parts : Tree → List Tree
  | .identifier _ | .string _ => []
  | .member owner _ => [owner]
  | .call callee arguments => callee :: arguments
  | .object entries => entries
  | .field _ value | .spread value | .attr _ value => [value]
  | .element _ attributes _ children => attributes ++ children
  | .group _ parts => parts

end Tree

end Querymap.Script
