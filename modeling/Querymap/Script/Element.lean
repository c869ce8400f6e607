import Querymap.Script.Type

/-! The syntax of JSX elements. -/
namespace Querymap.Script

open Reader

/-- The text of an element up to a child or a tag. A closing bracket or brace in it is an error to pass
over. -/
def scanText : List Char → List Char × List Spot
  | [] => ([], [])
  | c :: rest =>
    if c == '<' || c == '{' then (c :: rest, [])
    else
      let (after, faults) := scanText rest
      (after, if c == '>' || c == '}' then (c :: rest) :: faults else faults)

variable (inner : Readers)

def tagWord : Reader String := do
  match ← token with
  | .word name _ =>
    advanceInTag
    return name
  | _ => unexpected

def tagSign (spelling : String) : Reader Bool := do
  if ← atSign spelling then
    advanceInTag
    return true
  return false

/-- The name of an element: one word, two words with a colon between them, or a dotted name as it is
written. -/
def elementName : Reader String := do
  let start ← spot
  let first ← tagWord
  if ← tagSign ":" then return first ++ ":" ++ (← tagWord)
  let others ← many (return !(← tagSign ".")) tagWord
  let stop ← last
  return if others.isEmpty then first else slice start stop

/-- An expression in braces, whose closing brace is still to be consumed. -/
def contained (empty : Bool) : Reader Tree := do
  if empty && (← atSign "\x7d") then return .group .container []
  let first ← bracketed (inner .assignment)
  let others ← bracketed <| many (return !(← atSign ",")) do
    advance
    inner .assignment
  unless ← atSign "\x7d" do unexpected
  return .group .container (first :: others)

def tagAttribute : Reader Tree := do
  if ← atSign "\x7b" then
    advance
    expectSign "..."
    let value ← bracketed (inner .assignment)
    unless ← atSign "\x7d" do unexpected
    advanceInTag
    return .spread value
  let first ← tagWord
  let name ← if ← tagSign ":" then pure (first ++ ":" ++ (← tagWord)) else pure first
  unless ← tagSign "=" do return .attr name (.group .literal [])
  match ← token with
  | .string text =>
    advanceInTag
    return .attr name (.string text)
  | .sign "\x7b" =>
    advance
    let value ← contained inner false
    advanceInTag
    return .attr name value
  | .sign "<" =>
    let value ← inner .element
    resumeInTag (← last)
    return .attr name value
  | _ => unexpected

/-- Children from a text on, up to the closing tag, whose name is to be consumed next. -/
def childrenFrom : Nat → (text : Spot) → Reader (List Tree)
  | 0, text => failAt text
  | limit + 1, text => do
    let (rest, faults) := scanText text
    faults.forM report
    match rest with
    | [] => failAt text
    | '{' :: rest =>
      resume rest
      let child ←
        if ← eatSign "..." then
          let value ← bracketed (inner .assignment)
          unless ← atSign "\x7d" do unexpected
          pure (.spread value)
        else contained inner true
      settle
      return child :: (← childrenFrom limit ((← spot).drop 1))
    | rest =>
      resumeInTag rest
      let opening ← get
      splitSign '<'
      resumeInTag (← last)
      if ← tagSign "/" then return []
      set opening
      let child ← inner .element
      return child :: (← childrenFrom limit (← last))

def children (name : String) : Reader (List Tree) := do
  let start ← spot
  unless start.head? == some '>' do unexpected
  let children ← childrenFrom inner (← read).limit (start.drop 1)
  let closing ← spot
  let same ←
    if ← startsWith '>' then pure name.isEmpty
    else pure ((← elementName) == name)
  unless same do failAt closing
  splitSign '>'
  return children

def element : Reader Tree := do
  splitSign '<'
  resumeInTag (← last)
  if ← startsWith '>' then return .group .fragment (← children inner "")
  let name ← elementName
  let typeArguments ←
    if ← startsWith '<' then
      let types ← typeArguments inner
      resumeInTag (← last)
      pure types
    else pure []
  let attributes ← many (return (← atSign "/") || (← startsWith '>')) (tagAttribute inner)
  if ← tagSign "/" then
    splitSign '>'
    return .element name attributes typeArguments []
  return .element name attributes typeArguments (← children inner name)

end Querymap.Script
