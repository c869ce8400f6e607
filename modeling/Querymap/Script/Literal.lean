import Querymap.Script.Entity
import Querymap.Text.Identifier
import Querymap.Text.Literal

/-! The literals of scripts: escape sequences, strings, numbers, regular expressions, templates. -/
namespace Querymap.Script

def isLineEnd (c : Char) : Bool := c == '\n' || c == '\r' || c == '\u2028' || c == '\u2029'

/-- What follows a backslash, with the number of its characters. -/
inductive Escape
  | unit (code used : Nat)
  /-- An octal code, or one of the digits eight and nine. -/
  | legacy (code used : Nat)
  | nothing (used : Nat)
  | invalid
deriving DecidableEq

def unicodeEscape (text : List Char) : Escape :=
  match text with
  | '{' :: rest =>
    let digits := rest.takeWhile fun c => (Text.hexValue? c).isSome
    let code := Text.numeral 16 Text.hexValue? digits
    if digits.isEmpty || 0x10ffff < code || (rest.drop digits.length).head? != some '}' then
      .invalid
    else .unit code (digits.length + 3)
  | _ =>
    let digits := (text.take 4).takeWhile fun c => (Text.hexValue? c).isSome
    if digits.length < 4 then .invalid else .unit (Text.numeral 16 Text.hexValue? digits) 5

def octalEscape (text : List Char) : Escape :=
  let limit := if text.head?.any (· ≤ '3') then 3 else 2
  let digits := (text.take limit).takeWhile fun c => '0' ≤ c && c ≤ '7'
  if digits == ['0'] && !(text.drop 1).head?.any Char.isDigit then .unit 0 1
  else .legacy (Text.numeral 8 Text.decimalValue? digits) digits.length

def escape : List Char → Escape
  | [] => .invalid
  | '\r' :: '\n' :: _ => .nothing 2
  | 'x' :: rest =>
    let digits := (rest.take 2).takeWhile fun c => (Text.hexValue? c).isSome
    if digits.length < 2 then .invalid else .unit (Text.numeral 16 Text.hexValue? digits) 3
  | 'u' :: rest => unicodeEscape rest
  | c :: rest =>
    if isLineEnd c then .nothing 1
    else if '0' ≤ c && c ≤ '7' then octalEscape (c :: rest)
    else if c == '8' || c == '9' then .legacy c.toNat 1
    else match c with
      | 'n' => .unit 10 1
      | 't' => .unit 9 1
      | 'r' => .unit 13 1
      | 'b' => .unit 8 1
      | 'v' => .unit 11 1
      | 'f' => .unit 12 1
      | c => .unit c.toNat 1

structure StringScan where
  units : List Nat := []
  rest : List Char := []
  /-- The string is closed and without legacy escapes. -/
  sound : Bool := true
  invalid : Option (List Char) := none

/-- A string without its closing quote ends at the end of the line. -/
def scanString (quote : Char) : Nat → List Char → StringScan
  | _, [] => { sound := false }
  | skip + 1, _ :: rest => scanString quote skip rest
  | 0, c :: rest =>
    if c == quote then { rest := rest }
    else if c == '\n' || c == '\r' then { rest := c :: rest, sound := false }
    else if c == '\\' then
      match escape rest with
      | .invalid => { invalid := some (c :: rest) }
      | .nothing used => scanString quote used rest
      | .unit code used =>
        let scan := scanString quote used rest
        { scan with units := code :: scan.units }
      | .legacy code used =>
        let scan := scanString quote used rest
        { scan with units := code :: scan.units, sound := false }
    else
      let scan := scanString quote 0 rest
      { scan with units := c.toNat :: scan.units }

/-- A number and whether it is of a form that is not outdated. -/
structure NumberScan where
  rest : List Char
  sound : Bool := true
  valid : Bool := true

/-- Digits with separators, each of which should stand between two digits. -/
structure DigitScan where
  digits : List Char
  rest : List Char
  sound : Bool

def scanDigits (digit : Char → Bool) (text : List Char) : DigitScan :=
  let run := text.takeWhile fun c => digit c || c == '_'
  let separated := run.zip run.tail
  { digits := run.filter digit
    rest := text.drop run.length
    sound := run.head? != some '_' && run.getLast? != some '_' && !separated.contains ('_', '_') }

def scanExponent (text : List Char) : NumberScan :=
  match text with
  | e :: rest =>
    if e == 'e' || e == 'E' then
      let scan := scanDigits Char.isDigit <| match rest with
        | sign :: after => if sign == '+' || sign == '-' then after else rest
        | [] => []
      { rest := scan.rest, sound := scan.sound, valid := !scan.digits.isEmpty }
    else { rest := text }
  | [] => { rest := [] }

def scanDecimal (text : List Char) : NumberScan :=
  let whole := scanDigits Char.isDigit text
  match whole.rest with
  | 'n' :: rest => { rest, sound := whole.sound }
  | '.' :: rest =>
    let part := scanDigits Char.isDigit rest
    let scan := scanExponent part.rest
    { scan with sound := whole.sound && part.sound && scan.sound }
  | rest =>
    let scan := scanExponent rest
    { scan with sound := whole.sound && scan.sound }

def scanRadix (digit : Char → Bool) (text : List Char) : NumberScan :=
  let scan := scanDigits digit text
  { rest := if scan.rest.head? == some 'n' then scan.rest.drop 1 else scan.rest
    sound := scan.sound
    valid := !scan.digits.isEmpty }

/-- The number at the start of a text. No identifier may follow it directly. -/
def scanNumber (text : List Char) : NumberScan :=
  let scan := match text with
    | '0' :: mark :: rest =>
      if mark == 'x' || mark == 'X' then scanRadix (Text.hexValue? · |>.isSome) rest
      else if mark == 'o' || mark == 'O' then scanRadix (fun c => '0' ≤ c && c ≤ '7') rest
      else if mark == 'b' || mark == 'B' then scanRadix (fun c => c == '0' || c == '1') rest
      else if mark.isDigit then
        let digits := (mark :: rest).takeWhile Char.isDigit
        if digits.all (· ≤ '7') then { rest := (mark :: rest).drop digits.length, sound := false }
        else { scanDecimal text with sound := false }
      else if mark == '_' then { scanDecimal text with sound := false }
      else scanDecimal text
    | _ => scanDecimal text
  { scan with valid := scan.valid && !scan.rest.head?.any Text.isIdentifierStart }

/-- What follows the slash that closes a regular expression. -/
def afterPattern? : (inClass escaped : Bool) → List Char → Option (List Char)
  | _, _, [] => none
  | inClass, escaped, c :: rest =>
    if isLineEnd c then none
    else if escaped then afterPattern? inClass false rest
    else if c == '/' && !inClass then some rest
    else afterPattern? (c == '[' || (inClass && c != ']')) (c == '\\') rest

/-- A regular expression after its opening slash. Its flags are sound if they are known and
different. -/
def scanPattern? (text : List Char) : Option (List Char × Bool) :=
  (afterPattern? false false text).map fun rest =>
    let flags := rest.takeWhile Text.isIdentifierPart
    (rest.drop flags.length, flags.all "dgimsuvy".toList.contains && flags.eraseDups == flags)

inductive TemplateScan
  | closed (rest : List Char)
  | embedded (rest : List Char)
  | invalid (escape : List Char)
  | unclosed

/-- Only in the template of a tag may an escape sequence be invalid. -/
def scanTemplate (tagged : Bool) : Nat → List Char → TemplateScan
  | _, [] => .unclosed
  | skip + 1, _ :: rest => scanTemplate tagged skip rest
  | 0, '\x60' :: rest => .closed rest
  | 0, '$' :: '{' :: rest => .embedded rest
  | 0, '\\' :: rest =>
    match escape rest with
    | .unit _ used | .nothing used => scanTemplate tagged used rest
    | .legacy .. | .invalid =>
      if tagged then scanTemplate tagged 1 rest else .invalid ('\\' :: rest)
  | 0, _ :: rest => scanTemplate tagged 0 rest

structure WordScan where
  name : List Char := []
  rest : List Char
  escaped : Bool := false
  valid : Bool := true

def scanWord : Nat → List Char → WordScan
  | _, [] => { rest := [] }
  | skip + 1, _ :: rest => scanWord skip rest
  | 0, c :: rest =>
    if Text.isIdentifierPart c then
      let scan := scanWord 0 rest
      { scan with name := c :: scan.name }
    else if c == '\\' then
      match rest with
      | 'u' :: digits =>
        match unicodeEscape digits with
        | .unit code used =>
          let scan := scanWord used rest
          { scan with
            name := Char.ofNat code :: scan.name
            escaped := true
            valid := scan.valid && Text.isIdentifierPart (Char.ofNat code) }
        | _ => { rest := c :: rest, valid := false }
      | _ => { rest := c :: rest, valid := false }
    else { rest := c :: rest }

end Querymap.Script
