import Querymap.Script.Binding

/-! The syntax of types. Types are read to find their end; only type arguments leave a trace. -/
namespace Querymap.Script

open Reader

variable (inner : Readers)

def type : Reader Unit := discard (inner .type)

def typeArguments : Reader (List String) := do
  splitSign '<'
  let types ← bracketed <| many (startsWith '>') do
    let start ← spot
    type inner
    let written := slice start (← last)
    unless ← startsWith '>' do expectSign ","
    return written
  if types.isEmpty then unexpected
  splitSign '>'
  return types

def typeParameter : Reader Unit := do
  for modifier in ["const", "in", "out"] do
    if ← atWord modifier then
      match (← peek).token with
      | .word .. => advance
      | _ => pure ()
  discard identifier
  if ← eatWord "extends" then type inner
  if ← eatSign "=" then type inner

def typeParameters : Reader Unit := do
  splitSign '<'
  let names ← bracketed <| many (startsWith '>') do
    typeParameter inner
    unless ← startsWith '>' do expectSign ","
  if names.isEmpty then unexpected
  splitSign '>'

def typeParameters? : Reader Unit := do
  if (← typed) && (← startsWith '<') then typeParameters inner

def signature : Reader Unit := do
  typeParameters? inner
  discard (parameters inner)
  annotation inner

def typeName : Reader Unit := do
  discard <| many (return !(← eatSign ".")) anyWord
  if (← startsWith '<') && !(← afterBreak) then discard (typeArguments inner)

def memberEnd : Reader Unit := do
  unless ← eatSign "," do semicolon

/-- The member of an object type that begins with a bracket: an index signature, a mapped member or a
computed name. -/
def bracketMember : Reader Unit := do
  expectSign "["
  let named ← atAnyWord
  match named, (← peek).token with
  | true, .sign ":" =>
    advance
    annotation inner
  | true, .word "in" false =>
    advance
    advance
    type inner
    if ← eatWord "as" then type inner
  | _, _ => discard (bracketed (inner .assignment))
  expectSign "]"

def typeMember : Reader Unit := do
  for sign in ["+", "-"] do discard (eatSign sign)
  for modifier in ["readonly", "get", "set"] do
    if ← atWord modifier then
      match (← peek).token with
      | .word .. | .string _ | .number | .sign "[" => advance
      | _ => pure ()
  if ← atWord "new" then
    match (← peek).token with
    | .sign "(" | .sign "<" => advance
    | _ => pure ()
  match ← token with
  | .sign "[" => bracketMember inner
  | .sign "(" | .sign "<" => pure ()
  | _ => discard (key inner)
  for sign in ["+", "-", "?"] do discard (eatSign sign)
  if (← atSign "(") || (← startsWith '<') then signature inner else annotation inner
  memberEnd

def typeMembers : Reader Unit := do
  expectSign "\x7b"
  discard <| bracketed <| many (atSign "\x7d") (typeMember inner)
  expectSign "\x7d"

def tupleMember : Reader Unit := do
  discard (eatSign "...")
  if ← atAnyWord then
    match (← peek).token with
    | .sign ":" =>
      advance
      advance
    | .sign "?" =>
      if ← ahead (do advance; advance; atSign ":") then
        advance
        advance
        advance
    | _ => pure ()
  type inner
  discard (eatSign "?")

def typeWords : List String := ["void", "null", "true", "false", "this"]

def primaryType : Reader Unit := do
  match ← token with
  | .string _ | .number => advance
  | .template => discard (template false (inner .type))
  | .sign "-" =>
    advance
    unless (← token) == .number do unexpected
    advance
  | .sign "(" =>
    advance
    bracketed (type inner)
    expectSign ")"
  | .sign "[" =>
    advance
    discard (bracketed (commaList "]" (tupleMember inner)))
  | .sign "\x7b" => typeMembers inner
  | .word "typeof" false =>
    advance
    unless ← atWord "import" do
      discard anyWord
      typeName inner
  | .word "import" false => pure ()
  | .word name _ =>
    if reservedWords.contains name && !typeWords.contains name then unexpected
    advance
    let broken ← afterBreak
    if name == "asserts" && !broken && (← atAnyWord) && !(← atWord "is") then
      advance
      if ← eatWord "is" then type inner
    else if !broken && (← atWord "is") then
      advance
      type inner
    else typeName inner
  | _ => unexpected
  if ← eatWord "import" then
    expectSign "("
    discard (bracketed (commaList ")" (inner .assignment)))
    typeName inner

def arrayType : Reader Unit := do
  primaryType inner
  discard <| many (return !(← atSign "[") || (← afterBreak)) do
    advance
    unless ← atSign "]" do bracketed (type inner)
    expectSign "]"

/-- Words that make a type from the type after them. -/
def typeOperators : List String := ["keyof", "unique", "readonly", "infer"]

def atTypeOperator : Reader Bool := do
  match ← token with
  | .word name false =>
    if typeOperators.contains name then
      match (← peek).token with
      | .word .. | .string _ | .number | .template | .sign "(" | .sign "[" | .sign "\x7b"
      | .sign "-" => return true
      | _ => return false
    else return false
  | _ => return false

/-- An operand of an intersection. After `infer` a name may have a constraint. -/
def operandType : Reader Unit := do
  let operators ← many (return !(← atTypeOperator)) do
    let name ← anyWord
    return name
  arrayType inner
  if operators.getLast? == some "infer" then
    discard <| attempt do
      expectWord "extends"
      arrayType inner
      if ← atSign "?" then unexpected

def intersectionType : Reader Unit := do
  discard (eatSign "&")
  discard (separated "&" (operandType inner))

def unionType : Reader Unit := do
  discard (eatSign "|")
  discard (separated "|" (intersectionType inner))

def atFunctionType : Reader Bool := do
  match ← token with
  | .word "new" false | .sign "<" => return true
  | .word "abstract" false => return (← peek).token == .word "new" false
  | .sign "(" => ahead do
      discard (parameters inner)
      atSign "=>"
  | _ => return false

def functionType : Reader Unit := do
  discard (eatWord "abstract")
  discard (eatWord "new")
  typeParameters? inner
  discard (parameters inner)
  expectSign "=>"
  type inner

def plainType : Reader Unit := do
  if ← atFunctionType inner then functionType inner else unionType inner

def anyType : Reader Tree := do
  plainType inner
  if (← atWord "extends") && !(← afterBreak) then
    advance
    plainType inner
    expectSign "?"
    type inner
    expectSign ":"
    type inner
  return .nothing

end Querymap.Script
