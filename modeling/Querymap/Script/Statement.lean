import Querymap.Script.Loop
import Querymap.Script.TypedDeclaration

/-! The syntax of statements. -/
namespace Querymap.Script

open Reader

variable (inner : Readers)

def ifStatement : Reader Tree := do
  expectWord "if"
  let test ← condition inner
  let consequent ← inner .substatement
  if ← eatWord "else" then
    return .group .statement [test, consequent, ← inner .substatement]
  return .group .statement [test, consequent]

def caseBody : Reader (List Tree) := do
  expectSign ":"
  many (return (← atWord "case") || (← atWord "default") || (← atSign "\x7d") || (← atEnd))
    (inner .statement)

/-- The cases of a statement. Only one of them is the default. -/
def switchCases : Nat → (hasDefault : Bool) → Reader (List Tree)
  | 0, _ => unexpected
  | limit + 1, hasDefault => do
    if ← atSign "\x7d" then return []
    if ← eatWord "default" then
      if hasDefault then unexpected
      let body ← caseBody inner
      return body ++ (← switchCases limit true)
    expectWord "case"
    let test ← expression inner
    let body ← caseBody inner
    return test :: body ++ (← switchCases limit hasDefault)

def switchStatement : Reader Tree := do
  expectWord "switch"
  let value ← condition inner
  expectSign "\x7b"
  let limit := (← read).limit
  let cases ← withReader ({ · with breakable := true }) (switchCases inner limit false)
  expectSign "\x7d"
  return .group .statement (value :: cases)

def catchClause? : Reader (Option (List Tree)) := do
  unless ← eatWord "catch" do return none
  let parameter ←
    if ← eatSign "(" then
      let name ← inner .binding
      annotation inner
      expectSign ")"
      pure [name]
    else pure []
  return some (parameter ++ [← block inner])

def finallyClause? : Reader (Option (List Tree)) := do
  unless ← eatWord "finally" do return none
  return some [← block inner]

def tryStatement : Reader Tree := do
  expectWord "try"
  let body ← block inner
  let stop ← spot
  let caught ← catchClause? inner
  let final ← finallyClause? inner
  if caught.isNone && final.isNone then report stop
  return .group .statement (body :: (caught.getD [] ++ final.getD []))

/-- Clauses that belong to no statement, which leave no trace even where they are broken. -/
def strayClauses : Reader Tree := do
  report (← spot)
  rescue (discard (catchClause? inner)) fun _ => return
  rescue (discard (finallyClause? inner)) fun _ => return
  return .nothing

def atStatementEnd : Reader Bool := do
  return (← atSign ";") || (← atSign "\x7d") || (← atEnd) || (← afterBreak)

def returnStatement : Reader Tree := do
  let start ← spot
  expectWord "return"
  let value ← if ← atStatementEnd then pure [] else pure [← expression inner]
  semicolon
  unless (← read).inFunction do report start
  return .group .statement value

def throwStatement : Reader Tree := do
  expectWord "throw"
  if ← afterBreak then unexpected
  let value ← expression inner
  semicolon
  return .group .statement [value]

def jumpStatement : Reader Tree := do
  let start ← spot
  let context ← read
  let allowed ← if (← anyWord) == "break" then pure context.breakable else pure context.inLoop
  let known ←
    if ← atStatementEnd then pure true else pure (context.labels.contains (← identifier))
  semicolon
  unless allowed && known do report start
  return .group .statement []

def withStatement : Reader Tree := do
  report (← spot)
  expectWord "with"
  let value ← condition inner
  return .group .statement [value, ← inner .substatement]

/-- A statement after a label, which it can be left by. -/
def labelled : Reader Tree := do
  let start ← spot
  let label ← identifier
  expectSign ":"
  if (← read).labels.contains label then report start
  withReader (fun context =>
      { context with labels := label :: context.labels, breakable := true }) do
    inner .substatement

def expressionStatement : Reader Tree := do
  if (← atIdentifier) && (← peek).token == .sign ":" then return ← labelled inner
  let value ← expression inner
  if (← operator?).isSome then
    report (← spot)
    let others ← operatorsAndOperands inner (← read).limit value
    semicolon
    return .group .statement (value :: others.map (·.2))
  semicolon
  return .group .statement [value]

def atAsyncFunction : Reader Bool := do
  unless ← atWord "async" do return false
  let next ← peek
  return next.token == .word "function" false && !next.afterBreak

/-- A statement that is no item of a module. If it is no `item` of a block either, a function or a class
is an error to pass over, and other declarations are taken for expressions. -/
def plainStatement (item : Bool) : Reader Tree := do
  if let some declaration ← typedDeclaration? inner then return ← declaration
  if ← atAmbient then return ← ambientDeclaration inner
  if ← atAsyncFunction then
    advance
    return ← function inner true true
  if item && ((← atWord "const") || (← atLet)) then return ← declaration inner
  if item && ((← atUsing) || (← atAwaitedUsing)) then return ← usingDeclaration inner
  match ← token with
  | .sign ";" =>
    advance
    return .group .statement []
  | .sign "\x7b" => block inner
  | .word "var" false => declaration inner
  | .word "function" false =>
    unless item do report (← spot)
    function inner false true
  | .word "class" false =>
    unless item do report (← spot)
    classTail inner true
  | .word "if" false => ifStatement inner
  | .word "for" false => forStatement inner
  | .word "while" false => whileStatement inner
  | .word "do" false => doStatement inner
  | .word "switch" false => switchStatement inner
  | .word "try" false => tryStatement inner
  | .word "catch" false | .word "finally" false => strayClauses inner
  | .word "return" false => returnStatement inner
  | .word "throw" false => throwStatement inner
  | .word "break" false | .word "continue" false => jumpStatement
  | .word "with" false => withStatement inner
  | .word "debugger" false =>
    advance
    semicolon
    return .group .statement []
  | _ => expressionStatement inner

end Querymap.Script
