import Querymap.Script.Reader

/-! Property names, the patterns that bind names, and parameters. -/
namespace Querymap.Script

open Reader

inductive Key
  | plain (name : String)
  /-- A number, a private name, or an expression in brackets. -/
  | other (parts : List Tree)
deriving Inhabited

def Key.parts : Key → List Tree
  | .plain _ => []
  | .other parts => parts

def Key.field (key : Key) (value : Tree) : Tree :=
  match key with
  | .plain name => .field name value
  | .other parts => .group .property (parts ++ [value])

variable (inner : Readers)

def key : Reader Key := do
  match ← token with
  | .word name _ | .string (some name) =>
    advance
    return .plain name
  | .string none | .number =>
    advance
    return .other []
  | .privateName =>
    let start ← spot
    advance
    if slice start (← last) == "#constructor" then report start
    return .other []
  | .sign "[" =>
    advance
    let name ← bracketed (inner .assignment)
    expectSign "]"
    return .other [name]
  | _ => unexpected

def annotation : Reader Unit := do
  if ← typed then
    if ← eatSign ":" then discard (inner .type)

def defaulted (target : Tree) : Reader Tree := do
  if ← eatSign "=" then return .group .pattern [target, ← inner .assignment]
  return target

/-- The pattern after three dots, which nothing may follow. -/
def restPattern : Reader Tree := do
  let start ← spot
  let target ← inner .binding
  if ← atSign "," then report start
  return .spread target

def bindingElement : Reader Tree := do
  if ← eatSign "..." then restPattern inner else defaulted inner (← inner .binding)

def bindingEntry : Reader Tree := do
  if ← eatSign "..." then return ← restPattern inner
  let start ← spot
  let named ← atAnyWord
  let key ← key inner
  match named, key with
  | true, .plain name =>
    unless ← eatSign ":" do
      if isReserved name && !(← atSign "=") then report start
      return ← defaulted inner (.identifier name)
  | _, _ => expectSign ":"
  let value ← defaulted inner (← inner .binding)
  return .group .pattern (key.parts ++ [value])

def binding : Reader Tree := do
  match ← token with
  | .sign "[" =>
    advance
    let items ← bracketed <| commaList "]" do
      if ← atSign "," then return .nothing
      bindingElement inner
    return .group .pattern items
  | .sign "\x7b" =>
    advance
    return .group .pattern (← bracketed (commaList "\x7d" (bindingEntry inner)))
  | _ => return .identifier (← boundName)

def parameterModifiers : List String :=
  ["public", "private", "protected", "readonly", "override"]

def skipModifiers : Nat → Reader Unit
  | 0 => unexpected
  | limit + 1 => do
    match ← token with
    | .word name false =>
      if parameterModifiers.contains name then
        match (← peek).token with
        | .word .. | .sign "[" | .sign "\x7b" =>
          advance
          skipModifiers limit
        | _ => return
    | _ => return

/-- A parameter. Only those of constructors have modifiers, and one that is optional or takes the rest has
no default value. -/
def parameter (constructor : Bool) : Reader Tree := do
  let start ← spot
  if ← typed then
    skipModifiers (← read).limit
    unless constructor || (← spot).length == start.length do report start
  let rest ← eatSign "..."
  let target ←
    if (← typed) && (← eatWord "this") then pure (Tree.identifier "this") else inner .binding
  let optional ← if ← typed then eatSign "?" else pure false
  annotation inner
  if rest && optional || (rest || optional) && (← atSign "=") then report start
  let target ← defaulted inner target
  unless rest do return target
  if ← atSign "," then report start
  return .spread target

def parameters (constructor : Bool := false) : Reader (List Tree) := do
  expectSign "("
  bracketed (commaList ")" (parameter inner constructor))

end Querymap.Script
