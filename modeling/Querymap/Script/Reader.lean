import Querymap.Script.Token
import Querymap.Script.Tree

/-! Readers of scripts: functions that consume tokens and may fail. -/
namespace Querymap.Script

/-- An error that a tolerant reading passes over. -/
structure Fault where
  spot : Spot
  /-- The error is none if the syntax around it turns out to be a pattern. -/
  revocable : Bool := false

/-- What the syntax around a place allows. -/
structure Context where
  typed : Bool
  /-- A bound of every repetition: no source has more tokens. -/
  limit : Nat
  topLevel : Bool := true
  inFunction : Bool := false
  inAsync : Bool := false
  inGenerator : Bool := false
  /-- Inside a method, a field or a static block, where `super` has properties. -/
  inMember : Bool := false
  /-- Inside the value of a field, where no `arguments` are. -/
  inField : Bool := false
  /-- Inside a function that is no arrow function, or inside a class. -/
  hasTarget : Bool := false
  breakable : Bool := false
  inLoop : Bool := false
  labels : List String := []
  /-- The operator `in` belongs to the head of a loop. -/
  withoutIn : Bool := false
  /-- A colon after parentheses may belong to a conditional expression. -/
  inConditional : Bool := false
  ambient : Bool := false

structure State where
  current : Lexeme
  /-- What follows the token before the current one. -/
  last : Spot
  faults : List Fault := []

structure Stop where
  spot : Spot
  state : State

abbrev Reader := ReaderT Context (StateT State (Except Stop))

inductive Category
  | assignment
  | operand
  | binding
  | type
  | element
  | statement
  /-- A statement that is a part of another one and so no declaration. -/
  | substatement
deriving DecidableEq

/-- Readers of the categories, one level of nesting further in. -/
abbrev Readers := Category → Reader Tree

namespace Reader

variable {α : Type}

def failAt (spot : Spot) : Reader α := fun _ state => .error ⟨spot, state⟩

/-- Where the reading fails if the current token is wrong. -/
def blame (state : State) : Spot :=
  match state.current.token with
  | .endOfSource => state.last
  | .invalid => state.current.blame
  | _ => state.current.start

def unexpected : Reader α := fun _ state => .error ⟨blame state, state⟩

def token : Reader Token := return (← get).current.token

def spot : Reader Spot := return (← get).current.start

def last : Reader Spot := return (← get).last

def typed : Reader Bool := return (← read).typed

def afterBreak : Reader Bool := return (← get).current.afterBreak

def report (spot : Spot) : Reader Unit :=
  modify fun state => { state with faults := ⟨spot, false⟩ :: state.faults }

def reportRevocable (spot : Spot) : Reader Unit :=
  modify fun state => { state with faults := ⟨spot, true⟩ :: state.faults }

def faultCount : Reader Nat := return (← get).faults.length

/-- Takes back the revocable errors reported since there were `count` errors. -/
def withdraw (count : Nat) : Reader Unit :=
  modify fun state =>
    let fresh := state.faults.length - count
    { state with
      faults := (state.faults.take fresh).filter (!·.revocable) ++ state.faults.drop fresh }

/-- Makes a lexeme current; the one before it ended at `last`. -/
def enter (last : Spot) (lexeme : Lexeme) : Reader Unit :=
  modify fun state => { state with current := lexeme, last }

def resume (text : Spot) : Reader Unit := enter text (nextToken text)

def resumeInTag (text : Spot) : Reader Unit := enter text (nextTagToken text)

/-- Accepts the errors inside the current token. -/
def settle : Reader Unit :=
  modify fun state => { state with
    faults := (state.current.faults.map (⟨·, false⟩)).reverse ++ state.faults }

def advance : Reader Unit := do
  settle
  resume (← get).current.rest

def advanceInTag : Reader Unit := do
  settle
  resumeInTag (← get).current.rest

def peek : Reader Lexeme := return nextToken (← get).current.rest

/-- What a reader reads, or nothing and no change if it fails. -/
def attempt (reader : Reader α) : Reader (Option α) := fun context state =>
  match reader context state with
  | .ok (value, state) => .ok (some value, state)
  | .error _ => .ok (none, state)

/-- The second reader where the first one fails; the error is that of the first. -/
def orElse (first second : Reader α) : Reader α := fun context state =>
  match first context state with
  | .ok result => .ok result
  | .error stop =>
    match second context state with
    | .ok result => .ok result
    | .error _ => .error stop

/-- Where a tolerant reading fails, it goes on from there with the second reader, which learns the place
of the error. -/
def rescue (first : Reader α) (second : Spot → Reader α) : Reader α := fun context state =>
  match first context state with
  | .ok result => .ok result
  | .error stop =>
    if context.typed then .error stop else second stop.spot context stop.state

def ahead (reader : Reader Bool) : Reader Bool := fun context state =>
  match reader context state with
  | .ok (value, _) => .ok (value, state)
  | .error _ => .ok (false, state)

def atSign (spelling : String) : Reader Bool := return (← token) == .sign spelling

def atWord (name : String) : Reader Bool := return (← token) == .word name false

def atEnd : Reader Bool := return (← token) == .endOfSource

def atAnyWord : Reader Bool := do
  match ← token with
  | .word .. => return true
  | _ => return false

def eatSign (spelling : String) : Reader Bool := do
  if ← atSign spelling then
    advance
    return true
  return false

def eatWord (name : String) : Reader Bool := do
  if ← atWord name then
    advance
    return true
  return false

def expectSign (spelling : String) : Reader Unit := do
  unless ← eatSign spelling do unexpected

def expectWord (name : String) : Reader Unit := do
  unless ← eatWord name do unexpected

def anyWord : Reader String := do
  match ← token with
  | .word name _ =>
    advance
    return name
  | _ => unexpected

def startsWith (c : Char) : Reader Bool := return (← spot).head? == some c

def splitSign (c : Char) : Reader Unit := do
  let start ← spot
  unless start.head? == some c do unexpected
  settle
  resume (start.drop 1)

def repeatUpTo (stop : Reader Bool) (item : Reader α) : Nat → Reader (List α)
  | 0 => unexpected
  | limit + 1 => do
    if ← stop then return []
    let first ← item
    return first :: (← repeatUpTo stop item limit)

def many (stop : Reader Bool) (item : Reader α) : Reader (List α) := do
  repeatUpTo stop item (← read).limit

/-- Items up to a closing sign, with commas between them and perhaps after them. -/
def commaList (close : String) (item : Reader α) : Reader (List α) := do
  let items ← many (atSign close) do
    let value ← item
    unless ← atSign close do expectSign ","
    return value
  expectSign close
  return items

def separated (separator : String) (item : Reader α) : Reader (List α) := do
  let first ← item
  let others ← many (return !(← atSign separator)) do
    expectSign separator
    item
  return first :: others

/-- The end of a statement: a semicolon, or a place where one may be left out. -/
def semicolon : Reader Unit := do
  unless ← eatSign ";" do
    unless (← atSign "\x7d") || (← atEnd) || (← afterBreak) do unexpected

/-- Reads what stands between brackets, where surrounding expressions have no influence. -/
def bracketed (reader : Reader α) : Reader α :=
  withReader ({ · with withoutIn := false, inConditional := false }) reader

/-- The pieces of a template from a text on; `start` is where an unclosed piece is reported. -/
def templatePieces (tagged : Bool) (embedded : Reader Tree) : Nat → (start text : Spot) →
    Reader (List Tree)
  | 0, start, _ => failAt start
  | limit + 1, start, text =>
    match scanTemplate tagged 0 text with
    | .closed rest => do
      resume rest
      return []
    | .invalid escape => failAt escape
    | .unclosed => failAt start
    | .embedded rest => do
      resume rest
      let tree ← bracketed embedded
      unless ← atSign "\x7d" do unexpected
      settle
      let start ← spot
      return tree :: (← templatePieces tagged embedded limit start (start.drop 1))

def template (tagged : Bool) (embedded : Reader Tree) : Reader (List Tree) := do
  settle
  templatePieces tagged embedded (← read).limit (← spot) (← get).current.rest

end Reader

def slice (start stop : Spot) : String := String.ofList (start.take (start.length - stop.length))

def Tree.nothing : Tree := .group .expression []

def reservedWords : List String := [
  "break", "case", "catch", "class", "const", "continue", "debugger", "default", "delete", "do",
  "else", "export", "extends", "false", "finally", "for", "function", "if", "import", "in",
  "instanceof", "new", "null", "return", "super", "switch", "this", "throw", "true", "try",
  "typeof", "var", "void", "while", "with", "yield"]

/-- Words that modules reserve; as names they are errors to pass over. -/
def strictWords : List String := [
  "enum", "implements", "interface", "let", "package", "private", "protected", "public", "static"]

def futureWords : List String := strictWords.filter fun word => word != "let" && word != "static"

def unboundNames : List String := ["eval", "arguments"]

/-- No property stands for a variable of this name. -/
def isReserved (name : String) : Bool :=
  reservedWords.contains name || futureWords.contains name || name == "let" || name == "await"

namespace Reader

/-- A name that modules may reserve, which is then an error to pass over. -/
def name (reserved : List String) : Reader String := do
  match ← token with
  | .word name escaped =>
    if reserved.contains name then unexpected
    if strictWords.contains name || name == "yield" || name == "await" then
      if escaped then unexpected
      report (← spot)
    advance
    return name
  | _ => unexpected

def identifier : Reader String := name reservedWords

def boundName : Reader String := do
  let start ← spot
  let name ← name ("await" :: reservedWords.filter (· != "yield"))
  if unboundNames.contains name then report start
  return name

def variableName : Reader String := do
  let start ← spot
  let context ← read
  let name ← name (if context.typed then reservedWords else futureWords ++ reservedWords)
  if context.inField && name == "arguments" then report start
  return name

def atIdentifier : Reader Bool := do
  match ← token with
  | .word name _ => return !reservedWords.contains name
  | _ => return false

def atBoundName : Reader Bool := return (← atIdentifier) || (← atWord "yield")

end Reader

end Querymap.Script
