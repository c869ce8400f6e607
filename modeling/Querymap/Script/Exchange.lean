import Querymap.Script.Statement

/-! The syntax of what modules import and export, and of their items. -/
namespace Querymap.Script

open Reader

variable (inner : Readers)

/-- The name of a module. With types, attributes may follow it. -/
def moduleName : Reader Unit := do
  match ← token with
  | .string _ => advance
  | _ => unexpected
  if (← typed) && ((← atWord "with") || (← atWord "assert")) && !(← afterBreak) then
    advance
    expectSign "\x7b"
    discard <| commaList "\x7d" do
      discard (key inner)
      expectSign ":"
      match ← token with
      | .string _ => advance
      | _ => unexpected

/-- A name that modules exchange. A string is none inside a module. -/
structure ExchangedName where
  start : Spot
  word : Option String

def ExchangedName.isLocal (name : ExchangedName) : Bool := name.word.any (!isReserved ·)

def exchangedName : Reader ExchangedName := do
  let start ← spot
  match ← token with
  | .string _ =>
    advance
    return ⟨start, none⟩
  | _ => return ⟨start, some (← anyWord)⟩

def atExchangedName : Reader Bool := do
  match ← token with
  | .word .. | .string _ => return true
  | _ => return false

/-- A name in braces, perhaps with another name after `as`. The word `type` may come before it, but may
also be the name itself. -/
def specifier : Reader (List ExchangedName) := do
  let first ← exchangedName
  unless (← typed) && first.word == some "type" && (← atExchangedName) do
    if ← eatWord "as" then return [first, ← exchangedName]
    return [first]
  let second ← exchangedName
  unless second.word == some "as" do
    if ← eatWord "as" then return [second, ← exchangedName]
    return [second]
  unless ← atExchangedName do return [second]
  let third ← exchangedName
  if third.word == some "as" && (← atExchangedName) then return [second, ← exchangedName]
  return [first, third]

def specifiers : Reader (List (List ExchangedName)) := do
  expectSign "\x7b"
  commaList "\x7d" specifier

def requireLocal (names : List ExchangedName) : Reader Unit := do
  for name in names do
    unless name.isLocal do failAt name.start

/-- A modifier before what is imported or exported as a type only. -/
def eatTypeModifier : Reader Unit := do
  if (← typed) && (← atWord "type") then
    match (← peek).token with
    | .word "from" false => pure ()
    | .word .. | .sign "\x7b" | .sign "*" => advance
    | _ => pure ()

def namedImports : Reader Unit := do
  if ← eatSign "*" then
    expectWord "as"
    discard boundName
  else
    for names in ← specifiers do requireLocal names.getLast?.toList

def importItem : Reader Tree := do
  expectWord "import"
  match ← token with
  | .string _ =>
    moduleName inner
    semicolon
    return .group .statement []
  | _ => pure ()
  eatTypeModifier
  if ← atAnyWord then
    discard boundName
    if ← typed then
      if ← eatSign "=" then
        let value ← inner .assignment
        semicolon
        return .group .statement [value]
    if ← eatSign "," then namedImports
  else namedImports
  expectWord "from"
  moduleName inner
  semicolon
  return .group .statement []

def declarationWords (typed : Bool) : List String :=
  ["var", "let", "const", "function", "class", "async"] ++
    if typed then
      ["type", "interface", "enum", "namespace", "module", "abstract", "declare"]
    else []

def defaultExport : Reader Tree := do
  expectWord "default"
  if ← atAsyncFunction then
    advance
    return ← function inner true false
  match ← token with
  | .word "function" false => function inner false false
  | .word "class" false => classTail inner false
  | _ =>
    if (← typed) && (← atWord "abstract") && (← peek).token == .word "class" false then
      advance
      return ← classTail inner false
    if (← typed) && (← atWord "interface") then return ← interfaceDeclaration inner
    let value ← inner .assignment
    semicolon
    return .group .statement [value]

def exportItem : Reader Tree := do
  expectWord "export"
  if ← atWord "default" then return ← defaultExport inner
  if ← typed then
    if ← eatSign "=" then
      let value ← inner .assignment
      semicolon
      return .group .statement [value]
    if ← eatWord "as" then
      expectWord "namespace"
      discard identifier
      semicolon
      return .nothing
    if ← atWord "import" then return ← importItem inner
    if ← atWord "type" then
      match (← peek).token with
      | .sign "\x7b" | .sign "*" => advance
      | _ => pure ()
  if ← eatSign "*" then
    if ← eatWord "as" then discard exchangedName
    expectWord "from"
    moduleName inner
    semicolon
    return .group .statement []
  if ← atSign "\x7b" then
    let names ← specifiers
    if ← eatWord "from" then moduleName inner
    else requireLocal (names.filterMap (·.head?))
    semicolon
    return .group .statement []
  match ← token with
  | .word name false =>
    unless (declarationWords (← typed)).contains name do unexpected
    withReader ({ · with topLevel := false }) (plainStatement inner true)
  | _ => unexpected

/-- A statement, which is the `item` of a module or of a block, or else a part of another statement. -/
def statement (item : Bool) : Reader Tree := do
  let topLevel := item && (← read).topLevel
  match ← token with
  | .word "import" false =>
    match (← peek).token with
    | .sign "(" | .sign "." => expressionStatement inner
    | _ => if topLevel then importItem inner else unexpected
  | .word "export" false => if topLevel then exportItem inner else unexpected
  | _ => withReader ({ · with topLevel := false }) (plainStatement inner item)

end Querymap.Script
