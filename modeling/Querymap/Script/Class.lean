import Querymap.Script.Method

/-! The syntax of classes. -/
namespace Querymap.Script

open Reader

variable (inner : Readers)

def memberModifiers (typed : Bool) : List String :=
  ["static", "accessor"] ++
    if typed then
      ["abstract", "readonly", "declare", "override", "public", "private", "protected"]
    else []

/-- The words of a member that are modifiers because something else is its name. -/
def modifiers : Nat → Reader (List String)
  | 0 => unexpected
  | limit + 1 => do
    match ← token with
    | .word name false =>
      if (memberModifiers (← typed)).contains name then
        let next ← peek
        let broken := next.afterBreak && name != "static"
        match broken, next.token with
        | false, .word .. | false, .string _ | false, .number | false, .privateName
        | false, .sign "[" | false, .sign "*" =>
          advance
          return name :: (← modifiers limit)
        | _, .sign "\x7b" =>
          if name == "static" then
            advance
            return [name]
          else return []
        | _, _ => return []
      else return []
    | _ => return []

def atIndexSignature : Reader Bool := do
  if (← typed) && (← atSign "[") then
    ahead do
      advance
      discard anyWord
      atSign ":"
  else return false

def fieldValue : Reader (List Tree) := do
  unless ← eatSign "=" do return []
  withReader (fun context => { context.body false false true with inField := true }) do
    return [← inner .assignment]

structure ClassMember where
  tree : Tree
  /-- A constructor with a body. -/
  constructs : Bool := false

def classMember : Reader ClassMember := do
  let start ← spot
  let modifiers ← modifiers (← read).limit
  if modifiers == ["static"] && (← atSign "\x7b") then
    return ⟨← withReader (·.body false false true) (block inner), false⟩
  if ← atIndexSignature then
    bracketMember inner
    annotation inner
    semicolon
    return ⟨.nothing, false⟩
  let head ← methodHead
  let key ← key inner
  let initial := !modifiers.contains "static" && match key with
    | .plain name => name == "constructor"
    | .other _ => false
  if ← typed then
    unless ← eatSign "?" do discard (eatSign "!")
  if ← atParameters then
    if initial && head.isAsync then failAt start
    if initial && (head.isGenerator || head.accessor.isSome) then report start
    let function ← method inner start head initial
    if modifiers.contains "abstract" && function.body.isSome then report start
    return ⟨.group .method (key.parts ++ function.parts), initial && function.body.isSome⟩
  if head.isSpecial then unexpected
  if initial then failAt start
  annotation inner
  let value ← fieldValue inner
  semicolon
  return ⟨.group .property (key.parts ++ value), false⟩

def classBody : Reader (List Tree) := do
  let start ← spot
  expectSign "\x7b"
  let members ← many (atSign "\x7d") do
    if ← eatSign ";" then return ⟨.nothing, false⟩
    classMember inner
  expectSign "\x7d"
  if 1 < members.countP (·.constructs) && !(← read).ambient then report start
  return members.map (·.tree)

/-- A class from the word `class` on. The body comes before the parent in the tree. -/
def classTail (named : Bool) : Reader Tree := do
  expectWord "class"
  if named || ((← atBoundName) && !(← atWord "implements")) then
    if ← atWord "let" then unexpected
    discard boundName
  typeParameters? inner
  let parent ←
    if ← eatWord "extends" then
      let tree ← inner .operand
      if (← typed) && (← startsWith '<') then discard (typeArguments inner)
      pure [tree]
    else pure []
  if (← typed) && (← eatWord "implements") then discard (separated "," (type inner))
  return .group .expression ((← classBody inner) ++ parent)

end Querymap.Script
