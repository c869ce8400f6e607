import Querymap.Script.Literal

/-! The tokens of scripts, read from a text one at a time. -/
namespace Querymap.Script

/-- A place in a source, given by the text from there on. -/
abbrev Spot := List Char

inductive Token
  | word (name : String) (escaped : Bool)
  | privateName
  | number
  | string (text : Option String)
  /-- A backtick; the template after it is read in pieces. -/
  | template
  | sign (spelling : String)
  | invalid
  | endOfSource
deriving DecidableEq, Inhabited

structure Lexeme where
  token : Token
  start : Spot
  rest : Spot
  /-- A line ends between the token and the one before it. -/
  afterBreak : Bool := false
  blame : Spot := start
  /-- Places of errors that a tolerant reader passes over. -/
  faults : List Spot := []
deriving Inhabited

def isGap (c : Char) : Bool := c == '\ufeff' || (Text.isBlank c && c != '\x85')

inductive Comment
  | none
  | line
  | opening (start : Spot)
  | block (start : Spot)
  | closing

structure Gap where
  rest : Spot
  afterBreak : Bool
  faults : List Spot := []

def Gap.report (gap : Gap) (spot : Spot) : Gap := { gap with faults := spot :: gap.faults }

/-- Skips white space and comments. A block comment that is not closed ends with the source, and
comments of markup are errors to pass over. -/
def skipGap : Comment → (afterBreak : Bool) → List Char → Gap
  | .block start, afterBreak, [] => { rest := [], afterBreak, faults := [start] }
  | .opening start, afterBreak, [] => { rest := [], afterBreak, faults := [start] }
  | _, afterBreak, [] => { rest := [], afterBreak }
  | .line, afterBreak, c :: rest =>
    if isLineEnd c then skipGap .none true rest else skipGap .line afterBreak rest
  | .opening start, afterBreak, _ :: rest => skipGap (.block start) afterBreak rest
  | .block start, afterBreak, c :: rest =>
    if c == '*' && rest.head? == some '/' then skipGap .closing afterBreak rest
    else skipGap (.block start) (afterBreak || isLineEnd c) rest
  | .closing, afterBreak, _ :: rest => skipGap .none afterBreak rest
  | .none, afterBreak, c :: rest =>
    if isLineEnd c then skipGap .none true rest
    else if isGap c then skipGap .none afterBreak rest
    else if c == '/' && rest.head? == some '/' then skipGap .line afterBreak rest
    else if c == '/' && rest.head? == some '*' then skipGap (.opening (c :: rest)) afterBreak rest
    else if c == '<' && rest.take 3 == ['!', '-', '-'] then
      (skipGap .line afterBreak rest).report (c :: rest)
    else if c == '-' && rest.take 2 == ['-', '>'] && afterBreak then
      (skipGap .line afterBreak rest).report (c :: rest)
    else { rest := c :: rest, afterBreak }

/-- Signs of one character that begin no longer sign. -/
def isLoneSign (c : Char) : Bool := "()[]{};,:~@".toList.contains c

def longSigns : List String := [
  ">>>=", "...", "===", "!==", "**=", "<<=", ">>=", ">>>", "&&=", "||=", "??=", "=>", "==", "!=",
  "<=", ">=", "<<", ">>", "&&", "||", "??", "?.", "++", "--", "**", "+=", "-=", "*=", "/=", "%=",
  "&=", "|=", "^="]

/-- The longest sign at the start of a text, with what follows it. -/
def scanSign? : List Char → Option (String × List Char)
  | [] => none
  | c :: rest =>
    if isLoneSign c then some (String.singleton c, rest)
    else
      let long := longSigns.findSome? fun sign =>
        (Text.dropStart? sign.toList (c :: rest)).map (sign, ·)
      match long with
      | some ("?.", digit :: after) =>
        if digit.isDigit then some ("?", '.' :: digit :: after) else some ("?.", digit :: after)
      | some found => some found
      | none =>
        if "<>=+-*/%&|^!?.".toList.contains c then some (String.singleton c, rest) else none

def scanToken (start : Spot) : Lexeme :=
  match start with
  | [] => { token := .endOfSource, start, rest := [] }
  | c :: rest =>
    if Text.isIdentifierStart c || c == '\\' then
      let scan := scanWord 0 start
      if scan.valid then
        { token := .word (String.ofList scan.name) scan.escaped, start, rest := scan.rest }
      else { token := .invalid, start, rest }
    else if c.isDigit || (c == '.' && rest.head?.any Char.isDigit) then
      let scan := scanNumber start
      if scan.valid then
        { token := .number, start, rest := scan.rest
          faults := if scan.sound then [] else [start] }
      else { token := .invalid, start, rest }
    else if c == '"' || c == '\'' then
      let scan := scanString c 0 rest
      match scan.invalid with
      | some blame => { token := .invalid, start, rest, blame }
      | none =>
        { token := .string ((Text.textOfUnits? scan.units).map String.ofList), start, rest := scan.rest
          faults := if scan.sound then [] else [start] }
    else if c == '\x60' then { token := .template, start, rest }
    else if c == '#' then
      let scan := scanWord 0 rest
      if rest.head?.any (fun c => Text.isIdentifierStart c || c == '\\') && scan.valid then
        { token := .privateName, start, rest := scan.rest }
      else { token := .invalid, start, rest }
    else match scanSign? start with
      | some (spelling, rest) => { token := .sign spelling, start, rest }
      | none => { token := .invalid, start, rest }

def nextToken (text : List Char) (afterBreak : Bool := false) : Lexeme :=
  let gap := skipGap .none afterBreak text
  let lexeme := scanToken gap.rest
  { lexeme with afterBreak := gap.afterBreak, faults := gap.faults ++ lexeme.faults }

/-- The first token of a text inside a tag, where names may contain hyphens and strings have no
escape sequences. A string that is not closed is invalid. -/
def nextTagToken (text : List Char) : Lexeme :=
  let gap := skipGap .none false text
  let lexeme : Lexeme := match gap.rest with
    | [] => scanToken []
    | c :: rest =>
      if Text.isIdentifierStart c then
        let name := gap.rest.takeWhile fun c => Text.isIdentifierPart c || c == '-'
        { token := .word (String.ofList name) false, start := gap.rest
          rest := gap.rest.drop name.length }
      else if c == '"' || c == '\'' then
        let content := rest.takeWhile (· != c)
        match rest.drop content.length with
        | [] => { token := .invalid, start := gap.rest, rest }
        | _ :: after =>
          { token := .string (some (String.ofList (decodeEntities 0 content))), start := gap.rest
            rest := after }
      else scanToken gap.rest
  { lexeme with afterBreak := gap.afterBreak, faults := gap.faults ++ lexeme.faults }

end Querymap.Script
