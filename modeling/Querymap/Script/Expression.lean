import Querymap.Script.Arrow
import Querymap.Script.Operation

/-! The syntax of assignments and of expressions in general. -/
namespace Querymap.Script

open Reader

variable (inner : Readers)

def conditional : Reader Tree := do
  let test ← operation inner
  unless ← eatSign "?" do return test
  let consequent ←
    withReader ({ · with withoutIn := false, inConditional := true }) (inner .assignment)
  expectSign ":"
  return .group .expression [test, consequent, ← inner .assignment]

def assignmentSigns : List String := [
  "+=", "-=", "*=", "/=", "%=", "**=", "<<=", ">>=", ">>>=", "&=", "|=", "^=", "&&=", "||=", "??="]

def target (start : Spot) (faults : Nat) (plain : Bool) (tree : Tree) : Reader Tree := do
  match plain, tree with
  | true, .object _ | true, .group .array _ =>
    withdraw faults
    unless tree.isPattern do report start
    return tree.pattern
  | _, _ =>
    unless tree.isTarget do failAt start
    unless tree.isSimpleTarget do report start
    return tree

/-- An assignment or a conditional expression, but no function. -/
def plainAssignment : Reader Tree := do
  let start ← spot
  let faults ← faultCount
  let tree ← conditional inner
  match ← token with
  | .sign "=" =>
    let target ← target start faults true tree
    advance
    return .group .assignment [target, ← inner .assignment]
  | .sign spelling =>
    unless assignmentSigns.contains spelling do return tree
    let target ← target start faults false tree
    advance
    return .group .expression [target, ← inner .assignment]
  | _ => return tree

def yieldExpression : Reader Tree := do
  expectWord "yield"
  if ← afterBreak then return .nothing
  if ← eatSign "*" then return .group .expression [← inner .assignment]
  match ← token with
  | .endOfSource | .word "in" false | .word "of" false => return .nothing
  | .sign spelling =>
    if [")", "]", "\x7d", ",", ";", ":"].contains spelling then return .nothing
    return .group .expression [← inner .assignment]
  | _ => return .group .expression [← inner .assignment]

def assignment : Reader Tree := do
  if (← read).inGenerator && (← atWord "yield") then return ← yieldExpression inner
  if let some tree ← asyncArrow? inner then return tree
  if let some tree ← arrow? inner false then return tree
  if (← typed) && (← atSign "<") then
    orElse (plainAssignment inner) (genericArrow inner)
  else plainAssignment inner

end Querymap.Script
