import Querymap.Script.Operand

/-! The syntax of operations with two operands. -/
namespace Querymap.Script

open Reader

variable (inner : Readers)

def binarySigns : List String := [
  "??", "||", "&&", "|", "^", "&", "==", "!=", "===", "!==", "<", ">", "<=", ">=", "<<", ">>", ">>>",
  "+", "-", "*", "/", "%", "**"]

def operator? : Reader (Option String) := do
  match ← token with
  | .sign spelling => return if binarySigns.contains spelling then some spelling else none
  | .word "instanceof" false => return some "instanceof"
  | .word "in" false => return if (← read).withoutIn then none else some "in"
  | _ => return none

def atAssertion : Reader Bool := do
  return (← typed) && !(← afterBreak) && ((← atWord "as") || (← atWord "satisfies"))

def asserted : Reader Tree := do
  let tree ← inner .operand
  let assertions ← many (return !(← atAssertion)) do
    advance
    unless ← eatWord "const" do type inner
  return if assertions.isEmpty then tree else .group .assertion [tree]

/-- An operand of a power that needs parentheses. -/
def isUnary : Tree → Bool
  | .group .unary _ => true
  | _ => false

/-- A binary operator with the operand after it. After `base`, which needs parentheses, it is no power. -/
def operatorAndOperand (base : Bool) : Reader (String × Tree) := do
  let operator := (← operator?).getD ""
  advance
  if base && operator == "**" then unexpected
  return (operator, ← asserted inner)

def operatorsAndOperands : Nat → (before : Tree) → Reader (List (String × Tree))
  | 0, _ => unexpected
  | limit + 1, before => do
    if (← operator?).isNone then return []
    let (operator, tree) ← operatorAndOperand inner (isUnary before)
    return (operator, tree) :: (← operatorsAndOperands limit tree)

/-- An operand of `??` is an operation with `||` or `&&`. The operators `??` and `||` bind alike, from left
to right, and `&&` binds closer; `before` is the last of the three so far. -/
def mixesDefaults (before : String) : List String → Bool
  | [] => false
  | operator :: operators =>
    if operator == "??" then before == "||" || before == "&&" || mixesDefaults operator operators
    else if operator == "&&" then before == "??" || mixesDefaults operator operators
    else mixesDefaults (if operator == "||" then operator else before) operators

def operation : Reader Tree := do
  let start ← spot
  let first ← rescue (asserted inner) fun failure => do
    let here ← spot
    if (← operator?).isNone then failAt failure
    report here
    return .nothing
  let others ← operatorsAndOperands inner (← read).limit first
  if others.isEmpty then return first
  if mixesDefaults "" (others.map (·.1)) then report start
  return .group .binary (first :: others.map (·.2))

end Querymap.Script
