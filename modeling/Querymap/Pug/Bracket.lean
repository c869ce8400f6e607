/-! Brackets that match, with regard to nesting and quotes. -/
namespace Querymap.Pug

def isQuote (c : Char) : Bool := c == '"' || c == '\'' || c == '\x60'

def isOpening (c : Char) : Bool := c == '(' || c == '[' || c == '{'

def isClosing (c : Char) : Bool := c == ')' || c == ']' || c == '}'

/-- Where a reader stands inside brackets and quotes. -/
structure Nesting where
  depth : Nat := 0
  quote : Option Char := none
  /-- The character before was a backslash in a quote. -/
  escaped : Bool := false
deriving DecidableEq

namespace Nesting

def quoted (nesting : Nesting) (quote c : Char) : Nesting :=
  if nesting.escaped then { nesting with escaped := false }
  else if c == '\\' then { nesting with escaped := true }
  else if c == quote then { nesting with quote := none }
  else nesting

def next (nesting : Nesting) (c : Char) : Nesting :=
  match nesting.quote with
  | some quote => nesting.quoted quote c
  | none =>
    if isQuote c then { nesting with quote := some c }
    else if isOpening c then { nesting with depth := nesting.depth + 1 }
    else if isClosing c then { nesting with depth := nesting.depth - 1 }
    else nesting

end Nesting

/-- The number of characters before the bracket that leads back to depth zero, if it is `close`. -/
def matchingFrom (close : Char) (nesting : Nesting) (index : Nat) : List Char → Option Nat
  | [] => none
  | c :: rest =>
    let next := nesting.next c
    if nesting.quote.isNone && isClosing c && next.depth == 0 then
      if c == close then some index else none
    else matchingFrom close next (index + 1) rest

/-- The position of the bracket that closes the one at the start of a text. -/
def matchingBracket? (close : Char) (text : List Char) : Option Nat :=
  matchingFrom close {} 0 text

theorem matchingFrom_bounds {close : Char} {nesting : Nesting} {index found : Nat}
    {text : List Char} (h : matchingFrom close nesting index text = some found) :
    index ≤ found ∧ found < index + text.length := by
  induction text generalizing nesting index with
  | nil => simp [matchingFrom] at h
  | cons c rest ih =>
    rw [matchingFrom] at h
    split at h
    · split at h
      · obtain rfl := Option.some.inj h
        simp
      · contradiction
    · have := ih h
      simp only [List.length_cons]
      omega

theorem matchingBracket?_lt {close : Char} {found : Nat} {text : List Char}
    (h : matchingBracket? close text = some found) : found < text.length := by
  simpa using (matchingFrom_bounds h).2

end Querymap.Pug
