import Querymap.Text.Blank

/-! Wildcard patterns: `?` stands for a character, `*` for any characters, a bracket for one of some
characters, and `**` as a whole name for any folders. -/
namespace Querymap.Glob

inductive Item
  | char (c : Char)
  | any
  | sequence
  | folders
  | within (ranges : List (Char × Char))
  | except (ranges : List (Char × Char))
deriving DecidableEq, Inhabited

abbrev Pattern := List Item

inductive Fault
  | bracket
  | wildcards
  | folders
deriving DecidableEq, Inhabited

def Fault.message : Fault → String
  | .bracket => "invalid range pattern"
  | .wildcards => "wildcards are either regular `*` or recursive `**`"
  | .folders => "recursive wildcards must form a single path component"

/-- What is wrong with a pattern, near the character of this number. -/
structure PatternError where
  position : Nat
  fault : Fault
deriving DecidableEq, Inhabited

def PatternError.message (error : PatternError) : String :=
  "Pattern syntax error near position " ++ toString error.position ++ ": " ++ error.fault.message

/-- A text with a wildcard or an opening bracket. -/
def isGlob (text : String) : Bool := text.toList.any fun c => c == '*' || c == '?' || c == '['

/-- Single characters and ranges with `-`. -/
def ranges : List Char → List (Char × Char)
  | first :: '-' :: last :: rest => (first, last) :: ranges rest
  | c :: rest => (c, c) :: ranges rest
  | [] => []

/-- What stands in a bracket and after it. Its first character may be a closing bracket. -/
def bracket? : List Char → Option (List Char × List Char)
  | [] => none
  | first :: rest =>
    match rest.span (· != ']') with
    | (inner, _ :: after) => some (first :: inner, after)
    | (_, []) => none

/-- Reads items from a character on; `before` is the character in front of it. -/
def readItems : Nat → Nat → Option Char → List Char → Except PatternError Pattern
  | _, _, _, [] => .ok []
  | 0, _, _, _ :: _ => .ok []
  | fuel + 1, position, before, c :: rest =>
    let found (item : Item) (length : Nat) (last : Char) (rest : List Char) :=
      (readItems fuel (position + length) (some last) rest).map (item :: ·)
    if c = '?' then found .any 1 c rest
    else if c = '*' then
      match rest with
      | '*' :: '*' :: _ => .error ⟨position + 2, .wildcards⟩
      | '*' :: rest =>
        if before.all (· == '/') then
          match rest with
          | [] => .ok [.folders]
          | '/' :: rest => found .folders 3 '/' rest
          | _ => .error ⟨position + 2, .folders⟩
        else .error ⟨position - 1, .folders⟩
      | _ => found .sequence 1 c rest
    else if c = '[' then
      match rest with
      | '!' :: rest =>
        match bracket? rest with
        | some (inner, after) => found (.except (ranges inner)) (inner.length + 3) ']' after
        | none => .error ⟨position, .bracket⟩
      | _ =>
        match bracket? rest with
        | some (inner, after) => found (.within (ranges inner)) (inner.length + 2) ']' after
        | none => .error ⟨position, .bracket⟩
    else found (.char c) 1 c rest

def Pattern.read (text : List Char) : Except PatternError Pattern :=
  readItems text.length 0 none text

def suffixes : List Char → List (List Char)
  | [] => [[]]
  | c :: rest => (c :: rest) :: suffixes rest

def inRanges (ranges : List (Char × Char)) (c : Char) : Bool :=
  ranges.any fun range => range.1 ≤ c && c ≤ range.2

namespace Pattern

def isMatch : Pattern → List Char → Bool
  | [], text => text.isEmpty
  | .sequence :: items, text => (suffixes text).any (isMatch items)
  | .folders :: items, text => (suffixes text).any (isMatch items)
  | .char c :: items, text => match text with
    | [] => false
    | first :: rest => first == c && isMatch items rest
  | .any :: items, text => match text with
    | [] => false
    | _ :: rest => isMatch items rest
  | .within ranges :: items, text => match text with
    | [] => false
    | first :: rest => inRanges ranges first && isMatch items rest
  | .except ranges :: items, text => match text with
    | [] => false
    | first :: rest => !inRanges ranges first && isMatch items rest

/-- The only text that a pattern without wildcards matches. -/
def literal? : Pattern → Option (List Char)
  | [] => some []
  | .char c :: items => (literal? items).map (c :: ·)
  | _ => none

def isFolders (pattern : Pattern) : Bool := pattern == [.folders]

end Pattern

end Querymap.Glob
