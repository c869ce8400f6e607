import Querymap.Script.Variables

/-! The syntax of loops. -/
namespace Querymap.Script

open Reader

variable (inner : Readers)

def condition : Reader Tree := do
  expectSign "("
  let tree ← bracketed (expression inner)
  expectSign ")"
  return tree

def loopBody : Reader Tree :=
  withReader ({ · with breakable := true, inLoop := true }) (inner .substatement)

structure LoopHead where
  parts : List Tree
  /-- The loop is over elements of something that can be awaited. -/
  overValues : Bool := false

/-- The rest of the head of a loop over elements, whose variable is read. -/
def overElements? (target : List Tree) : Reader (Option LoopHead) := do
  if ← eatWord "of" then return some ⟨target ++ [← inner .assignment], true⟩
  if ← eatWord "in" then return some ⟨target ++ [← expression inner], false⟩
  return none

def counting (first : List Tree) : Reader LoopHead := do
  expectSign ";"
  let test ← if ← atSign ";" then pure [] else pure [← expression inner]
  expectSign ";"
  let update ← if ← atSign ")" then pure [] else pure [← expression inner]
  return { parts := first ++ test ++ update }

/-- The head of a loop with variables of its own. One over elements has a single one, without a type and
without a value. -/
def declaringHead : Reader LoopHead := do
  let kind ← variableKind
  let limit := (← read).limit
  let declarators ← withReader ({ · with withoutIn := kind == .function }) do
    declarators inner kind true limit
  match ← overElements? inner (declarators.map (·.tree)) with
  | some head =>
    for extra in declarators.drop 1 do report extra.start
    if let [single] := declarators then
      if single.value.isSome || single.isAnnotated then report single.start
    return head
  | none => counting inner (declarators.map (·.tree))

def loopHead (awaited : Bool) : Reader LoopHead := do
  if ← atSign ";" then return ← counting inner []
  if (← atWord "var") || (← atWord "const") || (← atLet) then return ← declaringHead inner
  let start ← spot
  let faults ← faultCount
  if !awaited && (← atWord "async") && (← peek).token == .word "of" false then report start
  let first ← withReader ({ · with withoutIn := true }) (expression inner)
  let isIn ← atWord "in"
  match ← overElements? inner [first.pattern] with
  | some head =>
    withdraw faults
    unless first.isPattern do report start
    if isIn && (← typed) && first.isCollection then report start
    return head
  | none => counting inner [first]

def forStatement : Reader Tree := do
  expectWord "for"
  let start ← spot
  let awaited ← eatWord "await"
  expectSign "("
  let head ← bracketed (loopHead inner awaited)
  expectSign ")"
  let body ← loopBody inner
  if awaited && !head.overValues then failAt start
  return .group .statement (head.parts ++ [body])

def whileStatement : Reader Tree := do
  expectWord "while"
  let test ← condition inner
  return .group .statement [test, ← loopBody inner]

def doStatement : Reader Tree := do
  expectWord "do"
  let body ← loopBody inner
  expectWord "while"
  let test ← condition inner
  discard (eatSign ";")
  return .group .statement [test, body]

end Querymap.Script
