import Querymap.JsonValue.Basic
import Querymap.Text.Blank
import Querymap.Text.Literal

/-! Reading of JSON documents. -/
namespace Querymap.JsonValue

def isBlank (c : Char) : Bool := c == ' ' || c == '\n' || c == '\t' || c == '\r'

def skip (text : List Char) : List Char := text.dropWhile isBlank

def escaped? : Char → Option Char
  | '"' => some '"'
  | '\\' => some '\\'
  | '/' => some '/'
  | 'b' => some '\x08'
  | 'f' => some '\x0c'
  | 'n' => some '\n'
  | 'r' => some '\r'
  | 't' => some '\t'
  | _ => none

/-- The code units of a string after its opening quote, and what follows it. -/
def units? : List Char → Option (List Nat × List Char)
  | [] => none
  | '"' :: rest => some ([], rest)
  | '\\' :: 'u' :: a :: b :: c :: d :: rest =>
    let digits := [a, b, c, d]
    if digits.all fun digit => (Text.hexValue? digit).isSome then
      (units? rest).map fun (units, rest) =>
        (Text.numeral 16 Text.hexValue? digits :: units, rest)
    else none
  | '\\' :: letter :: rest => do
    let c ← escaped? letter
    let (units, rest) ← units? rest
    return (c.toNat :: units, rest)
  | c :: rest =>
    if c.toNat < 32 || c == '\\' then none
    else (units? rest).map fun (units, rest) => (c.toNat :: units, rest)

def stringAfter? (text : List Char) : Option (Option String × List Char) :=
  (units? text).map fun (units, rest) => ((Text.textOfUnits? units).map String.ofList, rest)

def digits (text : List Char) : List Char × List Char := text.span Char.isDigit

/-- Some digits after a lead; the lead is optional, the digits are not. -/
def digitsAfter? (lead text : List Char) : Option (List Char × List Char) :=
  match digits text with
  | ([], _) => none
  | (found, rest) => some (lead ++ found, rest)

def fraction? : List Char → Option (List Char × List Char)
  | '.' :: rest => digitsAfter? ['.'] rest
  | text => some ([], text)

def exponent? : List Char → Option (List Char × List Char)
  | e :: rest =>
    if e == 'e' || e == 'E' then
      match rest with
      | '+' :: rest => digitsAfter? [e, '+'] rest
      | '-' :: rest => digitsAfter? [e, '-'] rest
      | _ => digitsAfter? [e] rest
    else some ([], e :: rest)
  | [] => some ([], [])

/-- A number without its sign. More digits than one do not begin with zero. -/
def unsigned? (text : List Char) : Option (List Char × List Char) := do
  let (whole, rest) ← digitsAfter? [] text
  if 1 < whole.length && whole.head? == some '0' then none
  let (fraction, rest) ← fraction? rest
  let (exponent, rest) ← exponent? rest
  return (whole ++ fraction ++ exponent, rest)

def number? : List Char → Option (JsonValue × List Char)
  | '-' :: rest => (unsigned? rest).map fun (text, rest) => (.number ('-' :: text), rest)
  | text => (unsigned? text).map fun (text, rest) => (.number text, rest)

def words : List (String × JsonValue) :=
  [("null", .null), ("true", .boolean true), ("false", .boolean false)]

def word? (text : List Char) : Option (JsonValue × List Char) :=
  words.findSome? fun (word, value) => (Text.dropStart? word.toList text).map (value, ·)

mutual

/-- A value, which no blanks come before. -/
def value? : Nat → List Char → Option (JsonValue × List Char)
  | 0, _ => none
  | depth + 1, text =>
    match text with
    | '"' :: rest => (stringAfter? rest).map fun (text, rest) => (.string text, rest)
    | '[' :: rest =>
      match skip rest with
      | ']' :: rest => some (.array [], rest)
      | rest => (items? depth rest).map fun (items, rest) => (.array items, rest)
    | '{' :: rest =>
      match skip rest with
      | '}' :: rest => some (.object [], rest)
      | rest => (members? depth rest).map fun (members, rest) => (.object members, rest)
    | text => (word? text).orElse fun _ => number? text

def items? : Nat → List Char → Option (List JsonValue × List Char)
  | 0, _ => none
  | depth + 1, text => do
    let (item, rest) ← value? depth text
    match skip rest with
    | ']' :: rest => return ([item], rest)
    | ',' :: rest =>
      let (items, rest) ← items? depth (skip rest)
      return (item :: items, rest)
    | _ => none

def members? : Nat → List Char → Option (List (Option String × JsonValue) × List Char)
  | 0, _ => none
  | depth + 1, text => do
    let '"' :: rest := text | none
    let (key, rest) ← stringAfter? rest
    let ':' :: rest := skip rest | none
    let (value, rest) ← value? depth (skip rest)
    match skip rest with
    | '}' :: rest => return ([(key, value)], rest)
    | ',' :: rest =>
      let (members, rest) ← members? depth (skip rest)
      return ((key, value) :: members, rest)
    | _ => none

end

def read? (text : String) : Option JsonValue := do
  let characters := text.toList
  let (value, rest) ← value? (characters.length + 1) (skip characters)
  if (skip rest).isEmpty then some value else none

end Querymap.JsonValue
