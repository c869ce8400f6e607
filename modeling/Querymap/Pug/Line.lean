import Querymap.Text.Blank

/-! The lines of a template with their indentation. -/
namespace Querymap.Pug

inductive Fault
  | mixedIndentation
  | inconsistentIndentation
  | unexpectedIndentation
  | unexpectedElse
  | unexpectedText (text : String)
  | unexpectedKeyword (keyword : String)
  | unnamedMixin
  | unnamedCall
  | missingIncludePath
  | missingAttributesArgument
  | missingExpansion
  | unclosedInterpolation
  | unclosedParenthesis
deriving DecidableEq, Inhabited

def Fault.message : Fault → String
  | .mixedIndentation => "Invalid indentation, you can use tabs or spaces but not both"
  | .inconsistentIndentation => "Inconsistent indentation"
  | .unexpectedIndentation => "Unexpected indentation"
  | .unexpectedElse => "Unexpected else"
  | .unexpectedText text => "Unexpected text \"" ++ text ++ "\""
  | .unexpectedKeyword keyword => "Unexpected \"" ++ keyword ++ "\""
  | .unnamedMixin => "Mixin definition needs a name"
  | .unnamedCall => "Mixin call needs a name"
  | .missingIncludePath => "Missing path for include"
  | .missingAttributesArgument => "&attributes needs an argument"
  | .missingExpansion => "Missing tag after block expansion"
  | .unclosedInterpolation =>
    "End of line was reached with no closing bracket for interpolation"
  | .unclosedParenthesis => "The end of the string was reached with no closing bracket found"

structure ParseError where
  line : Nat
  fault : Fault
deriving DecidableEq, Inhabited

structure Line where
  number : Nat
  indent : Nat
  /-- The line without the white space around it. -/
  text : List Char
deriving DecidableEq, Inhabited

/-- A line that holds only white space counts for nothing. -/
def readRawLine (number : Nat) (raw : List Char) : Except ParseError (Option Line) :=
  let leading := raw.takeWhile Text.isBlank
  let text := Text.trim raw
  if text.isEmpty then .ok none
  else if leading.contains ' ' && leading.contains '\t' then .error ⟨number, .mixedIndentation⟩
  else .ok (some ⟨number, leading.length, text⟩)

def readRawLines (number : Nat) : List (List Char) → Except ParseError (List Line)
  | [] => .ok []
  | raw :: rest => do
    let line ← readRawLine number raw
    let lines ← readRawLines (number + 1) rest
    return line.toList ++ lines

def readLines (content : List Char) : Except ParseError (List Line) :=
  readRawLines 1 (Text.splitAt (· == '\n') content)

end Querymap.Pug
