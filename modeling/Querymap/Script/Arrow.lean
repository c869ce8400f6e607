import Querymap.Script.Function

/-! The syntax of arrow functions. -/
namespace Querymap.Script

open Reader

variable (inner : Readers)

/-- The body of an arrow function, which shares what its surroundings are inside of. -/
def arrowBody (isAsync : Bool) (parameters : List Tree) : Reader Tree := do
  if ← atSign "\x7b" then
    withReader (fun context => { context.body isAsync false context.inMember with
      inField := context.inField, hasTarget := context.hasTarget }) (functionBody inner parameters)
  else
    withReader ({ · with inAsync := isAsync, inGenerator := false, inFunction := true })
      (inner .assignment)

def arrowHead (annotated : Bool) : Reader (List Tree) := do
  typeParameters? inner
  let parameters ← parameters inner
  if annotated then annotation inner
  if ← afterBreak then unexpected
  expectSign "=>"
  return parameters

/-- A function with parameters in parentheses. In a conditional expression the type of its result
counts only if a colon follows the body. -/
def parenthesizedArrow? (isAsync : Bool) : Reader (Option Tree) := do
  let context ← read
  let ambiguous := context.typed && context.inConditional
  match ← attempt (arrowHead inner !ambiguous) with
  | some parameters =>
    return some (.group .expression (parameters ++ [← arrowBody inner isAsync parameters]))
  | none =>
    unless ambiguous do return none
    attempt do
      let parameters ← arrowHead inner true
      let body ← arrowBody inner isAsync parameters
      unless ← atSign ":" do unexpected
      return .group .expression (parameters ++ [body])

def arrow? (isAsync : Bool) : Reader (Option Tree) := do
  if (← atSign "(") || (isAsync && (← typed) && (← startsWith '<')) then
    return ← parenthesizedArrow? inner isAsync
  if ← atIdentifier then
    let next ← peek
    if next.token == .sign "=>" && !next.afterBreak then
      let name ← boundName
      advance
      return some (.group .expression [← arrowBody inner isAsync [.identifier name]])
  return none

def asyncArrow? : Reader (Option Tree) := do
  unless ← atWord "async" do return none
  let next ← peek
  if next.afterBreak then return none
  match next.token with
  | .word .. | .sign "(" | .sign "<" =>
    let before ← get
    advance
    match ← arrow? inner true with
    | some tree => return some tree
    | none =>
      set before
      return none
  | _ => return none

def genericArrow : Reader Tree := do
  typeParameters inner
  unless ← atSign "(" do unexpected
  match ← withReader ({ · with inConditional := false }) (arrow? inner false) with
  | some tree => return tree
  | none => unexpected

end Querymap.Script
