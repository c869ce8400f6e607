import Querymap.Script.Class
import Querymap.Script.Collection
import Querymap.Script.Target

/-! The operands that no binary operator separates. -/
namespace Querymap.Script

open Reader

variable (inner : Readers)

def regularExpression : Reader Tree := do
  let start ← spot
  match scanPattern? (start.drop 1) with
  | none =>
    modify fun state => { state with current := { state.current with token := .invalid } }
    unexpected
  | some (rest, sound) =>
    settle
    unless sound do report start
    resume rest
    return .group .literal []

/-- What may follow type arguments that belong to no call. -/
def endsInstantiation : Reader Bool := do
  if ← afterBreak then return true
  match ← token with
  | .endOfSource => return true
  | .sign spelling => return [")", "]", "\x7d", ":", ";", ",", "="].contains spelling
  | _ => return false

/-- The accesses and calls after an expression. In a chain, all that follows `?.` is optional. -/
def suffixes (calls : Bool) : Nat → (tree : Tree) → (chained : Bool) → Reader Tree
  | 0, _, _ => unexpected
  | limit + 1, tree, chained => do
    let call (arguments : List Tree) : Tree :=
      if chained then .group .optional (tree :: arguments) else .call tree arguments
    match ← token with
    | .sign "." =>
      advance
      match ← token with
      | .privateName =>
        advance
        suffixes calls limit (.group (if chained then .optional else .computed) [tree]) chained
      | _ =>
        let name ← anyWord
        suffixes calls limit
          (if chained then .group .optional [tree] else .member tree name) chained
    | .sign "?." =>
      unless calls do unexpected
      advance
      match ← token with
      | .sign "(" =>
        suffixes calls limit (.group .optional (tree :: (← arguments inner))) true
      | .sign "[" =>
        advance
        let index ← bracketed (expression inner)
        expectSign "]"
        suffixes calls limit (.group .optional [tree, index]) true
      | .privateName =>
        advance
        suffixes calls limit (.group .optional [tree]) true
      | _ =>
        discard anyWord
        suffixes calls limit (.group .optional [tree]) true
    | .sign "[" =>
      advance
      let index ← bracketed (expression inner)
      expectSign "]"
      suffixes calls limit
        (.group (if chained then .optional else .computed) [tree, index]) chained
    | .sign "(" =>
      if calls then suffixes calls limit (call (← arguments inner)) chained else return tree
    | .template =>
      let parts ← template true (expression inner)
      suffixes calls limit (.group .expression (tree :: parts)) chained
    | .sign "!" =>
      if (← typed) && !(← afterBreak) then
        advance
        suffixes calls limit (.group .assertion [tree]) chained
      else return tree
    | .sign "<" =>
      unless ← typed do return tree
      let generic ← attempt do
        discard (typeArguments inner)
        if calls && (← atSign "(") then return call (← arguments inner)
        if (← token) == .template then
          return .group .expression (tree :: (← template true (expression inner)))
        unless calls && (← endsInstantiation) do unexpected
        return .group .assertion [tree]
      match generic with
      | some tree => suffixes calls limit tree chained
      | none => return tree
    | _ => return tree

def parenthesized : Reader Tree := do
  let start ← spot
  expectSign "("
  if ← atSign ")" then failAt start
  let tree ← bracketed (expression inner)
  expectSign ")"
  return .group .parenthesized [tree]

def importExpression : Reader Tree := do
  expectWord "import"
  if ← eatSign "." then
    expectWord "meta"
    return .nothing
  return .group .expression (← arguments inner)

/-- The word `super` before an access or a call. Without types it has properties in methods only. -/
def superExpression : Reader Tree := do
  let start ← spot
  expectWord "super"
  let context ← read
  match ← token with
  | .sign "." | .sign "[" =>
    unless context.typed || context.inMember do failAt start
    return .nothing
  | .sign "(" => return .nothing
  | _ => unexpected

/-- The operands that no operator separates, without what `new` makes. -/
def primary : Reader Tree := do
  match ← token with
  | .word "this" false =>
    advance
    return .nothing
  | .word "null" false | .word "true" false | .word "false" false | .number =>
    advance
    return .group .literal []
  | .word "function" false => function inner false false
  | .word "class" false => classTail inner false
  | .word "super" false => superExpression
  | .word "import" false => importExpression inner
  | .word name escaped =>
    let next ← peek
    if name == "async" && !escaped && next.token == .word "function" false && !next.afterBreak then
      advance
      function inner true false
    else return .identifier (← variableName)
  | .string text =>
    advance
    return .string text
  | .template => return .group .expression (← template false (expression inner))
  | .sign "(" => parenthesized inner
  | .sign "[" => array inner
  | .sign "\x7b" => object inner
  | .sign "/" | .sign "/=" => regularExpression
  | .sign "<" => if ← typed then inner .element else unexpected
  | .privateName =>
    unless (← peek).token == .word "in" false do unexpected
    advance
    return .nothing
  | _ => unexpected

def newExpression : Reader Tree := do
  let start ← spot
  expectWord "new"
  if ← eatSign "." then
    expectWord "target"
    unless (← read).hasTarget do report start
    return .nothing
  let callee ←
    if ← atWord "new" then inner .operand
    else suffixes inner false (← read).limit (← primary inner) false
  if (← typed) && (← startsWith '<') then
    discard <| attempt do
      discard (typeArguments inner)
      unless ← atSign "(" do unexpected
  let arguments ← if ← atSign "(" then arguments inner else pure []
  return .group .expression (callee :: arguments)

def leftHand : Reader Tree := do
  let first ← if ← atWord "new" then newExpression inner else primary inner
  suffixes inner true (← read).limit first false

def checkUpdate (start : Spot) (target : Tree) : Reader Unit := do
  unless target.isUpdatable do report start

/-- The word `await` with its operand. It is an identifier where no operand can follow. -/
def awaitExpression : Reader Tree := do
  let start ← spot
  expectWord "await"
  let context ← read
  let bare ← match ← token with
    | .endOfSource => pure true
    | .sign spelling => pure ([")", "]", ";", ","].contains spelling)
    | _ => pure false
  if !context.inAsync && bare then
    report start
    return .identifier "await"
  if context.inFunction && !context.inAsync then report start
  return .group .unary [← inner .operand]

def unarySigns : List String := ["+", "-", "~", "!"]

def unaryWords : List String := ["delete", "typeof", "void"]

/-- The operand after a sign or word. A tolerant reading goes on where it is broken. -/
def unaryOperand : Reader Tree := do
  advance
  return .group .unary [← rescue (inner .operand) fun spot => do
    report spot
    return .nothing]

def operand : Reader Tree := do
  let start ← spot
  match ← token with
  | .sign spelling =>
    if unarySigns.contains spelling then return ← unaryOperand inner
    if spelling == "++" || spelling == "--" then
      advance
      let target ← inner .operand
      checkUpdate start target
      return .group .expression [target]
  | .word name false =>
    if unaryWords.contains name then return ← unaryOperand inner
    if name == "await" then return ← awaitExpression inner
  | _ => pure ()
  let target ← leftHand inner
  if ((← atSign "++") || (← atSign "--")) && !(← afterBreak) then
    checkUpdate start target
    advance
    return .group .expression [target]
  return target

end Querymap.Script
