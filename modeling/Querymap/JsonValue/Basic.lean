import Querymap.Text.Literal

/-! JSON documents and their text, one member or element a line. -/
namespace Querymap

inductive JsonValue
  | null
  | boolean (value : Bool)
  /-- A number stays as it is written. -/
  | number (text : List Char)
  /-- No text stands for a string whose escapes denote none. -/
  | string (text : Option String)
  | array (items : List JsonValue)
  | object (members : List (Option String × JsonValue))
deriving Inhabited

namespace JsonValue

def text (value : String) : JsonValue := .string (some value)

def record (members : List (String × JsonValue)) : JsonValue :=
  .object (members.map fun member => (some member.1, member.2))

def indent (depth : Nat) : List Char := List.replicate (2 * depth) ' '

/-- Lines between two brackets, parted by commas. -/
def block (opening closing : Char) (depth : Nat) (lines : List (List Char)) : List Char :=
  if lines.isEmpty then [opening, closing]
  else
    opening :: '\n' :: List.intercalate [',', '\n'] (lines.map (indent (depth + 1) ++ ·)) ++
      '\n' :: indent depth ++ [closing]

def string? (text : Option String) : List Char := Text.quoted (text.getD "").toList

mutual

def chars (depth : Nat) : JsonValue → List Char
  | .null => "null".toList
  | .boolean value => (if value then "true" else "false").toList
  | .number text => text
  | .string text => string? text
  | .array items => block '[' ']' depth (itemLines (depth + 1) items)
  | .object members => block '{' '}' depth (memberLines (depth + 1) members)

def itemLines (depth : Nat) : List JsonValue → List (List Char)
  | [] => []
  | item :: items => chars depth item :: itemLines depth items

def memberLines (depth : Nat) : List (Option String × JsonValue) → List (List Char)
  | [] => []
  | (key, value) :: members =>
    (string? key ++ [':', ' '] ++ chars depth value) :: memberLines depth members

end

def render (value : JsonValue) : String := String.ofList (chars 0 value)

end JsonValue

end Querymap
