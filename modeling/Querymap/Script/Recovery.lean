import Querymap.Script.Parser

/-! The reading of sources that break off: the statements before an error survive it. -/
namespace Querymap.Script

/-- The first bytes of a text; nothing if a character would be cut in two. -/
def takeBytes? : Nat → List Char → Option (List Char)
  | 0, _ => some []
  | _ + 1, [] => some []
  | limit + 1, c :: rest =>
    if c.utf8Size ≤ limit + 1 then (takeBytes? (limit + 1 - c.utf8Size) rest).map (c :: ·) else none

def endsStatement (c : Char) : Bool := c == ';' || c == '\n'

/-- What precedes an error up to the last end of a statement or of a line, always less than all. -/
def cutBefore? (source : List Char) (offset : Nat) : Option (List Char) :=
  match takeBytes? (min offset (Text.byteLength source - 1)) source with
  | none => none
  | some before =>
    match Text.dropEndWhile (!endsStatement ·) before with
    | [] => none
    | kept => some kept

structure Recovered (α : Type) where
  result : Option α
  failure : Option Failure := none

variable {α : Type}

/-- Reads ever shorter beginnings of a source until one can be read, with at most `attempts`
readings. -/
def recover (read : List Char → Except Failure α) : (attempts : Nat) → List Char → Recovered α
  | 0, _ => ⟨none, none⟩
  | attempts + 1, source =>
    match read source with
    | .ok result => ⟨some result, none⟩
    | .error failure =>
      match cutBefore? source failure.offset with
      | none => ⟨none, some failure⟩
      | some kept => ⟨(recover read attempts kept).result, some failure⟩

def attemptLimit : Nat := 64

/-- The statements of a script before its first error that hinders the reading. -/
def parseTolerant (source : String) : Recovered (List Tree) :=
  recover (readItems .plain) attemptLimit source.toList

end Querymap.Script
