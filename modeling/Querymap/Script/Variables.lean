import Querymap.Script.Expression

/-! The syntax of declared variables. -/
namespace Querymap.Script

open Reader

variable (inner : Readers)

inductive VariableKind
  | function
  | block
  | constant
deriving DecidableEq

def variableKind : Reader VariableKind := do
  match ← anyWord with
  | "const" => return .constant
  | "let" => return .block
  | _ => return .function

structure Declarator where
  start : Spot
  name : Tree
  isAnnotated : Bool
  value : Option Tree

def Declarator.tree (declarator : Declarator) : Tree :=
  match declarator.value with
  | some value => .group .pattern [declarator.name, value]
  | none => declarator.name

/-- A declared name with its type and its value. A constant and a pattern need a value, but not in the head
of a loop over elements. -/
def declarator (kind : VariableKind) (inHead : Bool) : Reader Declarator := do
  let start ← spot
  if kind != .function && (← atWord "let") then unexpected
  let simple ← atAnyWord
  let name ← inner .binding
  if ← typed then discard (eatSign "!")
  let isAnnotated := (← typed) && (← atSign ":")
  annotation inner
  if inHead && ((← atWord "of") || (← atWord "in")) then return ⟨start, name, isAnnotated, none⟩
  if ← eatSign "=" then return ⟨start, name, isAnnotated, some (← inner .assignment)⟩
  unless (← read).ambient do
    if kind == .constant then report start
    else unless simple do failAt start
  return ⟨start, name, isAnnotated, none⟩

/-- Declared names with commas between them. That none is left before a semicolon is an error to pass
over. -/
def declarators (kind : VariableKind) (inHead : Bool) : Nat → Reader (List Declarator)
  | 0 => unexpected
  | limit + 1 => do
    if ← atSign ";" then
      report (← last)
      return []
    let first ← declarator inner kind inHead
    unless ← eatSign "," do return [first]
    return first :: (← declarators kind inHead limit)

/-- The rest of a statement that something unexpected interrupts. -/
def skipStatement : Nat → Reader Unit
  | 0 => unexpected
  | limit + 1 => do
    if (← eatSign ";") || (← atSign "\x7d") || (← atEnd) || (← afterBreak) then return
    advance
    unless (← token) == .invalid do skipStatement limit

/-- Declared variables as a statement. A tolerant reading skips what follows them up to its end. -/
def declaration : Reader Tree := do
  let kind ← variableKind
  let declarators ← declarators inner kind false (← read).limit
  let tree := .group .statement (declarators.map (·.tree))
  rescue (do semicolon; return tree) fun spot => do
    report spot
    discard (expression inner)
    skipStatement (← read).limit
    return tree

def atLet : Reader Bool := do
  unless ← atWord "let" do return false
  match (← peek).token with
  | .word name _ => return !(["in", "instanceof"].contains name)
  | .sign "[" | .sign "\x7b" => return true
  | _ => return false

/-- A declaration begins of variables with an end to their use. -/
def atUsing : Reader Bool := do
  unless ← atWord "using" do return false
  let next ← peek
  match next.token with
  | .word name _ => return !next.afterBreak && !reservedWords.contains name
  | _ => return false

def atAwaitedUsing : Reader Bool := do
  unless ← atWord "await" do return false
  ahead do
    advance
    atUsing

/-- Variables with an end to their use. Without types they are an error to pass over. -/
def usingDeclaration : Reader Tree := do
  let start ← spot
  unless ← typed do report start
  discard (eatWord "await")
  discard anyWord
  let declarators ← separated "," (declarator inner .function false)
  if declarators.any (·.value.isNone) then report start
  semicolon
  return .group .statement (declarators.map (·.tree))

end Querymap.Script
