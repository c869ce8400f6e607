import Querymap.Pug.Bracket
import Querymap.Pug.Node
import Querymap.Text.Blank

/-! The attribute list of a tag, the text between its parentheses. -/
namespace Querymap.Pug

/-- Characters beside which white space continues an expression. -/
def isOperator (c : Char) : Bool := "+-*/%?:&|<>=!.".toList.contains c

/-- The value at the start of a text and what follows it. A comma ends the value, and so does white
space between characters that are no operators. -/
def splitValue (nesting : Nesting) (previous : Option Char) : List Char → List Char × List Char
  | [] => ([], [])
  | c :: rest =>
    let outside := nesting.quote.isNone && nesting.depth == 0
    let next := (c :: rest).find? (!Text.isBlank ·)
    let continues := previous.any isOperator || next.any isOperator
    if outside && (c == ',' || (Text.isBlank c && !continues)) then ([], c :: rest)
    else
      let (value, following) :=
        splitValue (nesting.next c) (if Text.isBlank c then previous else some c) rest
      (c :: value, following)

theorem splitValue_length (nesting : Nesting) (previous : Option Char) (text : List Char) :
    (splitValue nesting previous text).2.length ≤ text.length := by
  induction text generalizing nesting previous with
  | nil => simp [splitValue]
  | cons c rest ih =>
    simp only [splitValue]
    split
    · simp
    · exact Nat.le_succ_of_le (ih _ _)

/-- The text of a quoted literal up to its closing quote, and what follows the quote. -/
def unquote (quote : Char) : List Char → Option (List Char × List Char)
  | [] => none
  | '\\' :: c :: rest =>
    let c := match c with
      | 'n' => '\n'
      | 't' => '\t'
      | 'r' => '\r'
      | c => c
    (unquote quote rest).map fun (text, after) => (c :: text, after)
  | c :: rest =>
    if c == quote then some ([], rest)
    else if c == '\\' then none
    else (unquote quote rest).map fun (text, after) => (c :: text, after)

def interpolates : List Char → Bool
  | [] => false
  | '$' :: '{' :: _ => true
  | _ :: rest => interpolates rest

/-- The content of a text that is exactly one string literal without interpolation. -/
def stringLiteral? : List Char → Option (List Char)
  | [] => none
  | quote :: rest =>
    if isQuote quote then
      match unquote quote rest with
      | some (text, []) =>
        if quote == '\x60' && interpolates text then none else some text
      | _ => none
    else none

def readValue (raw : List Char) : Value :=
  let raw := Text.trim raw
  match stringLiteral? raw with
  | some text => .literal (String.ofList text)
  | none => .expression (String.ofList raw)

/-- The text after the sign that gives an attribute its value. -/
def afterAssignment? (text : List Char) : Option (List Char) :=
  match text.dropWhile Text.isBlank with
  | '=' :: rest => some rest
  | '!' :: '=' :: rest => some rest
  | _ => none

def inAttributeName (c : Char) : Bool :=
  !Text.isBlank c && c != '=' && c != '!' && c != ','

/-- A name, which may be quoted, and what follows it. -/
def splitAttributeName : List Char → List Char × List Char
  | [] => ([], [])
  | c :: rest =>
    if c == '"' || c == '\'' then
      (rest.takeWhile (· != c), (rest.dropWhile (· != c)).drop 1)
    else ((c :: rest).takeWhile inAttributeName, (c :: rest).dropWhile inAttributeName)

theorem length_dropWhile_le (p : Char → Bool) (text : List Char) :
    (text.dropWhile p).length ≤ text.length :=
  (List.dropWhile_suffix p).length_le

theorem splitAttributeName_length (text : List Char) :
    (splitAttributeName text).2.length ≤ text.length := by
  cases text with
  | nil => simp [splitAttributeName]
  | cons c rest =>
    simp only [splitAttributeName]
    split
    · have := length_dropWhile_le (· != c) rest
      simp only [List.length_drop, List.length_cons]
      omega
    · exact length_dropWhile_le _ _

theorem splitAttributeName_length_lt {text : List Char}
    (named : (splitAttributeName text).1 ≠ []) :
    (splitAttributeName text).2.length < text.length := by
  cases text with
  | nil => simp [splitAttributeName] at named
  | cons c rest =>
    simp only [splitAttributeName] at named ⊢
    split
    · have := length_dropWhile_le (· != c) rest
      simp only [List.length_drop, List.length_cons]
      omega
    · next plain =>
      rw [if_neg plain] at named
      cases inside : inAttributeName c with
      | false => simp [inside] at named
      | true =>
        rw [List.dropWhile_cons_of_pos inside]
        exact Nat.lt_succ_of_le (length_dropWhile_le _ _)

theorem afterAssignment?_length {text rest : List Char} (h : afterAssignment? text = some rest) :
    rest.length < text.length := by
  have bound := length_dropWhile_le Text.isBlank text
  rw [afterAssignment?] at h
  split at h
  · next assigned =>
    cases h
    rw [assigned, List.length_cons] at bound
    omega
  · next assigned =>
    cases h
    rw [assigned, List.length_cons, List.length_cons] at bound
    omega
  · contradiction

set_option linter.unusedVariables false in
/-- The attributes of a list. White space and commas separate them; a name that is empty counts for
nothing. -/
def readAttributes (text : List Char) : List Attribute :=
  match start : text.dropWhile fun c => Text.isBlank c || c == ',' with
  | [] => []
  | c :: rest =>
    let name := (splitAttributeName (c :: rest)).1
    match assigned : afterAssignment? (splitAttributeName (c :: rest)).2 with
    | none =>
      if unnamed : (splitAttributeName (c :: rest)).1 = [] then
        readAttributes ((splitAttributeName (c :: rest)).2.drop 1)
      else ⟨String.ofList name, .boolean⟩ :: readAttributes (splitAttributeName (c :: rest)).2
    | some value =>
      let raw := (splitValue {} none (value.dropWhile Text.isBlank)).1
      let others := readAttributes (splitValue {} none (value.dropWhile Text.isBlank)).2
      if name = [] then others else ⟨String.ofList name, readValue raw⟩ :: others
termination_by text.length
decreasing_by
  all_goals
    have whole := length_dropWhile_le (fun c => Text.isBlank c || c == ',') text
    have named := splitAttributeName_length (c :: rest)
    rw [start] at whole
    simp only [List.length_cons] at whole named
  · simp only [List.length_drop]
    omega
  · have := splitAttributeName_length_lt unnamed
    simp only [List.length_cons] at this
    omega
  · have := splitValue_length {} none (value.dropWhile Text.isBlank)
    have := length_dropWhile_le Text.isBlank value
    have := afterAssignment?_length assigned
    omega

end Querymap.Pug
