import Querymap.Script.Tree

/-! The trees that can be assigned to. -/
namespace Querymap.Script

namespace Tree

/-- What a value can be assigned to without remark. -/
def isSimpleTarget : Tree → Bool
  | .identifier name => name != "eval" && name != "arguments"
  | .member .. | .group .computed _ => true
  | .group .assertion [tree] | .group .parenthesized [tree] => tree.isSimpleTarget
  | _ => false

/-- What may stand before an assignment, be it with an error to pass over. -/
def isTarget : Tree → Bool
  | .identifier _ | .member .. | .group .computed _ | .group .optional _ | .group .assertion _
  | .group .parenthesized _ => true
  | _ => false

def isUpdatable : Tree → Bool
  | .string _ | .call .. | .group .literal _ | .group .binary _ => true
  | .group .parenthesized [tree] => tree.isUpdatable
  | tree => tree.isSimpleTarget

def isCollection : Tree → Bool
  | .object _ | .group .array _ => true
  | _ => false

mutual

/-- An array or an object that is also a pattern. -/
def isPattern : Tree → Bool
  | .object entries | .group .array entries => arePatterns entries
  | .spread (.group .assignment _) => false
  | .field _ value | .spread value => value.isPattern
  | .group .property parts => endsInPattern parts
  | .group .assignment _ | .group .initialized _ | .group .shorthand _ | .group .expression [] => true
  | tree => tree.isSimpleTarget

def arePatterns : List Tree → Bool
  | [] => true
  | tree :: trees => tree.isPattern && arePatterns trees

def endsInPattern : List Tree → Bool
  | [] => true
  | [tree] => tree.isPattern
  | _ :: trees => endsInPattern trees

end

mutual

def pattern : Tree → Tree
  | .object entries | .group .array entries => .group .pattern (patterns entries)
  | .field _ value => value.pattern
  | .spread value => .spread value.pattern
  | .group .property parts => .group .pattern (lastPattern parts)
  | tree => tree

def patterns : List Tree → List Tree
  | [] => []
  | tree :: trees => tree.pattern :: patterns trees

def lastPattern : List Tree → List Tree
  | [] => []
  | [tree] => [tree.pattern]
  | tree :: trees => tree :: lastPattern trees

end

end Tree

end Querymap.Script
