import Querymap.Script.Method

/-! The syntax of arguments, arrays and objects. -/
namespace Querymap.Script

open Reader

variable (inner : Readers)

def expression : Reader Tree := do
  match ← separated "," (inner .assignment) with
  | [tree] => return tree
  | trees => return .group .expression trees

def argument : Reader Tree := do
  if ← eatSign "..." then return .spread (← inner .assignment)
  inner .assignment

def arguments : Reader (List Tree) := do
  expectSign "("
  bracketed (commaList ")" (argument inner))

/-- The value after three dots in an array or an object. A pattern has it at the end only. -/
def spreadEntry : Reader Tree := do
  let tree := .spread (← inner .assignment)
  return if ← atSign "," then .group .inside [tree] else tree

def array : Reader Tree := do
  expectSign "["
  let items ← bracketed <| commaList "]" do
    if ← atSign "," then return .nothing
    if ← eatSign "..." then spreadEntry inner else inner .assignment
  return .group .array items

/-- The sign after a property that is named by itself, perhaps with a default value. -/
def atShorthandEnd : Reader Bool := do
  return (← atSign ",") || (← atSign "\x7d") || (← atSign "=")

def objectEntry : Reader Tree := do
  if ← eatSign "..." then return ← spreadEntry inner
  let start ← spot
  let head ← methodHead
  let named ← atAnyWord
  let key ← key inner
  if ← atParameters then
    return .group .method (key.parts ++ (← method inner start head false).parts)
  if head.isSpecial then unexpected
  match named, key with
  | true, .plain name =>
    if ← atShorthandEnd then
      if isReserved name then report start
      if ← eatSign "=" then
        reportRevocable start
        return .group .initialized [← inner .assignment]
      return .group .shorthand []
  | _, _ => pure ()
  expectSign ":"
  return key.field (← inner .assignment)

def object : Reader Tree := do
  expectSign "\x7b"
  return .object (← bracketed (commaList "\x7d" (objectEntry inner)))

end Querymap.Script
