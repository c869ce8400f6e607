import Querymap.Script.Element
import Querymap.Script.Exchange

/-! The reading of whole scripts. -/
namespace Querymap.Script

open Reader

def Readers.upTo : Nat → Readers
  | 0, _ => unexpected
  | depth + 1, .assignment => assignment (upTo depth)
  | depth + 1, .operand => operand (upTo depth)
  | depth + 1, .binding => binding (upTo depth)
  | depth + 1, .type => anyType (upTo depth)
  | depth + 1, .element => element (upTo depth)
  | depth + 1, .statement => statement (upTo depth) true
  | depth + 1, .substatement => statement (upTo depth) false

inductive Dialect
  /-- With types and elements. Every error counts. -/
  | typed
  /-- Without them. Errors that do not hinder the reading are passed over. -/
  | plain
deriving DecidableEq

structure Failure where
  line : Nat
  /-- Bytes before the place. -/
  offset : Nat
deriving DecidableEq, Inhabited

def countLines : List Char → Nat
  | [] => 0
  | '\r' :: '\n' :: rest => countLines rest + 1
  | c :: rest => countLines rest + if c == '\n' || c == '\r' then 1 else 0

def Failure.ofSpot (source : List Char) (spot : Spot) : Failure :=
  let before := source.take (source.length - spot.length)
  ⟨countLines before + 1, Text.byteLength before⟩

def skipInterpreter : List Char → List Char
  | '#' :: '!' :: rest => rest.dropWhile (!isLineEnd ·)
  | source => source

/-- The items of a module, and the errors passed over in the order of the reading. -/
def readModule (dialect : Dialect) (source : List Char) : Except Stop (List Tree × List Spot) := do
  let start := skipInterpreter source
  let size := source.length + 1
  let context : Context := { typed := dialect == .typed, limit := 2 * size }
  let items : Reader (List Tree) := do
    let items ← many atEnd (Readers.upTo (8 * size) .statement)
    settle
    return items
  let (items, state) ← items.run context |>.run { current := nextToken start true, last := source }
  return (items, (state.faults.map (·.spot)).reverse)

/-- The items of a module. A mark of the byte order before it does not count. -/
def readItems (dialect : Dialect) (source : List Char) : Except Failure (List Tree) :=
  let text := match source with
    | '\ufeff' :: rest => rest
    | text => text
  match readModule dialect text with
  | .error stop => .error (Failure.ofSpot text stop.spot)
  | .ok (items, faults) =>
    match dialect, faults with
    | .typed, spot :: _ => .error (Failure.ofSpot text spot)
    | _, _ => .ok items

def parse (source : String) : Except Failure (List Tree) := readItems .typed source.toList

end Querymap.Script
