/-! White space and the cutting of text at white space or at other characters. -/
namespace Querymap.Text

/-- The 25 characters of the Unicode property White_Space. -/
def isBlank (c : Char) : Bool :=
  let n := c.toNat
  n == 0x20 || (0x9 ≤ n && n ≤ 0xd) ||
    (0x80 ≤ n && (n == 0x85 || n == 0xa0 || n == 0x1680 || (0x2000 ≤ n && n ≤ 0x200a) ||
      n == 0x2028 || n == 0x2029 || n == 0x202f || n == 0x205f || n == 0x3000))

/-- The pieces of a text between the characters that satisfy `cut`; never empty. -/
def splitAt (cut : Char → Bool) : List Char → List (List Char)
  | [] => [[]]
  | c :: rest =>
    if cut c then [] :: splitAt cut rest
    else match splitAt cut rest with
      | [] => [[c]]
      | piece :: pieces => (c :: piece) :: pieces

/-- The non-empty pieces between white space. -/
def words (text : List Char) : List (List Char) :=
  (splitAt isBlank text).filter (!·.isEmpty)

def trimStart (text : List Char) : List Char := text.dropWhile isBlank

/-- A text without the longest tail that satisfies `drop`. -/
def dropEndWhile (drop : Char → Bool) (text : List Char) : List Char :=
  text.foldr (fun c kept => if kept.isEmpty && drop c then [] else c :: kept) []

def trimEnd (text : List Char) : List Char := dropEndWhile isBlank text

def trim (text : List Char) : List Char := trimEnd (trimStart text)

/-- What follows `start` in a text that begins with it. -/
def dropStart? : List Char → List Char → Option (List Char)
  | [], text => some text
  | _ :: _, [] => none
  | a :: start, b :: text => if a == b then dropStart? start text else none

/-- Bytes of a text in UTF-8. -/
def byteLength (text : List Char) : Nat := text.foldr (·.utf8Size + ·) 0

theorem dropStart?_eq_some_iff {start text rest : List Char} :
    dropStart? start text = some rest ↔ text = start ++ rest := by
  induction start generalizing text with
  | nil => simp [dropStart?]
  | cons a start ih =>
    cases text with
    | nil => simp [dropStart?]
    | cons b text =>
      by_cases h : a = b
      · simp [dropStart?, h, ih]
      · simp [dropStart?, h, Ne.symm h]

end Querymap.Text
