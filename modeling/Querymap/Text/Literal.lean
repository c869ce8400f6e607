/-! Text in literals: the values of digits and numerals, code units of sixteen bits, and double quotes
with escaped characters between them. -/
namespace Querymap.Text

def hexValue? (c : Char) : Option Nat :=
  if c.isDigit then some (c.toNat - 48)
  else if 'a' ≤ c ∧ c ≤ 'f' then some (c.toNat - 87)
  else if 'A' ≤ c ∧ c ≤ 'F' then some (c.toNat - 55)
  else none

def decimalValue? (c : Char) : Option Nat :=
  if c.isDigit then some (c.toNat - 48) else none

def numeral (base : Nat) (digit? : Char → Option Nat) (digits : List Char) : Nat :=
  digits.foldl (fun n c => n * base + (digit? c).getD 0) 0

/-- The two halves of a surrogate pair make one character; no text holds only one of them. -/
def textOfUnits? : List Nat → Option (List Char)
  | [] => some []
  | unit :: units =>
    if 0xd800 ≤ unit && unit < 0xdc00 then
      match units with
      | low :: units =>
        if 0xdc00 ≤ low && low < 0xe000 then
          (textOfUnits? units).map
            (Char.ofNat (0x10000 + (unit - 0xd800) * 0x400 + (low - 0xdc00)) :: ·)
        else none
      | [] => none
    else if 0xdc00 ≤ unit && unit < 0xe000 then none
    else (textOfUnits? units).map (Char.ofNat unit :: ·)

def hexDigit (n : Nat) : Char :=
  if n < 10 then Char.ofNat (48 + n) else Char.ofNat (87 + n)

def escape (c : Char) : List Char :=
  if c = '"' then ['\\', '"']
  else if c = '\\' then ['\\', '\\']
  else if c = '\n' then ['\\', 'n']
  else if c = '\r' then ['\\', 'r']
  else if c = '\t' then ['\\', 't']
  else if c = '\x08' then ['\\', 'b']
  else if c = '\x0c' then ['\\', 'f']
  else if c.toNat < 32 then ['\\', 'u', '0', '0', hexDigit (c.toNat / 16), hexDigit (c.toNat % 16)]
  else [c]

def quoted (text : List Char) : List Char :=
  '"' :: text.flatMap escape ++ ['"']

end Querymap.Text
