import Querymap.JsonValue.Reader
import Querymap.Text.Literal

/-! Quoted texts are strings of JSON documents, and reading one gives back the text. -/
namespace Querymap.Text

open JsonValue

theorem hexValue?_hexDigit {n : Nat} (small : n < 16) : hexValue? (hexDigit n) = some n := by
  have each : ∀ n < 16, hexValue? (hexDigit n) = some n := by decide
  exact each n small

/-- No character is half of a surrogate pair. -/
theorem not_surrogate (c : Char) : ¬(0xd800 ≤ c.toNat ∧ c.toNat < 0xe000) := by
  have valid := c.valid
  simp only [UInt32.isValidChar, Nat.isValidChar] at valid
  intro inside
  have : c.val.toNat = c.toNat := rfl
  omega

theorem textOfUnits?_map_toNat (text : List Char) :
    textOfUnits? (text.map Char.toNat) = some text := by
  induction text with
  | nil => rfl
  | cons c rest ih =>
    have whole := not_surrogate c
    have high : (decide (0xd800 ≤ c.toNat) && decide (c.toNat < 0xdc00)) = false := by
      simp only [Bool.and_eq_false_iff, decide_eq_false_iff_not]
      omega
    have low : (decide (0xdc00 ≤ c.toNat) && decide (c.toNat < 0xe000)) = false := by
      simp only [Bool.and_eq_false_iff, decide_eq_false_iff_not]
      omega
    rw [List.map_cons, textOfUnits?.eq_def]
    simp only [high, low, Bool.false_eq_true, if_false, ih, Option.map_some, Char.ofNat_toNat]

/-- A character that stands for itself. -/
theorem units?_plain {c : Char} (rest : List Char) (quote : c ≠ '"') (backslash : c ≠ '\\')
    (printable : 32 ≤ c.toNat) :
    units? (c :: rest) = (units? rest).map fun (units, rest) => (c.toNat :: units, rest) := by
  have control : ¬(decide (c.toNat < 32) || c == '\\') = true := by
    rw [Bool.or_eq_true, decide_eq_true_eq, beq_iff_eq]
    rintro (small | same)
    · omega
    · exact backslash same
  rw [units?.eq_def]
  split
  · contradiction
  · next same => exact absurd (List.cons.inj same).1 quote
  · next same => exact absurd (List.cons.inj same).1 backslash
  · next same => exact absurd (List.cons.inj same).1 backslash
  · next same =>
    cases same
    exact if_neg control

/-- A character that a letter stands for behind a backslash. -/
theorem units?_letter {letter c : Char} (rest : List Char) (known : escaped? letter = some c) :
    units? ('\\' :: letter :: rest) =
      (units? rest).map fun (units, rest) => (c.toNat :: units, rest) := by
  have other : letter ≠ 'u' := by
    rintro rfl
    contradiction
  rw [units?.eq_def]
  split
  · contradiction
  · next same => cases same
  · next same =>
    cases same
    contradiction
  · next same =>
    cases same
    rw [known]
    cases units? rest <;> rfl
  · next apart same =>
    cases same
    exact absurd rfl (apart letter rest rfl)

/-- A control character by its code. -/
theorem units?_code {c : Char} (rest : List Char) (control : c.toNat < 32) :
    units? (['\\', 'u', '0', '0', hexDigit (c.toNat / 16), hexDigit (c.toNat % 16)] ++ rest) =
      (units? rest).map fun (units, rest) => (c.toNat :: units, rest) := by
  have high : hexValue? (hexDigit (c.toNat / 16)) = some (c.toNat / 16) :=
    hexValue?_hexDigit (by omega)
  have low : hexValue? (hexDigit (c.toNat % 16)) = some (c.toNat % 16) :=
    hexValue?_hexDigit (by omega)
  have zero : hexValue? '0' = some 0 := rfl
  have code : numeral 16 hexValue? ['0', '0', hexDigit (c.toNat / 16), hexDigit (c.toNat % 16)] =
      c.toNat := by
    simp only [numeral, List.foldl_cons, List.foldl_nil, high, low, zero, Option.getD_some]
    omega
  simp [units?, high, low, zero, code]

/-- A character is escaped by a letter or by its code, or it stands for itself. -/
theorem escape_cases (c : Char) :
    (∃ letter, escape c = ['\\', letter] ∧ escaped? letter = some c) ∨
      (escape c = ['\\', 'u', '0', '0', hexDigit (c.toNat / 16), hexDigit (c.toNat % 16)] ∧
        c.toNat < 32) ∨
      (escape c = [c] ∧ c ≠ '"' ∧ c ≠ '\\' ∧ 32 ≤ c.toNat) := by
  by_cases lettered : c ∈ ['"', '\\', '\n', '\r', '\t', '\x08', '\x0c']
  · left
    simp only [List.mem_cons, List.not_mem_nil, or_false] at lettered
    rcases lettered with rfl | rfl | rfl | rfl | rfl | rfl | rfl
    all_goals exact ⟨_, rfl, rfl⟩
  · right
    simp only [List.mem_cons, List.not_mem_nil, or_false, not_or] at lettered
    obtain ⟨quote, backslash, others⟩ := lettered
    by_cases control : c.toNat < 32
    · exact .inl ⟨by simp [escape, quote, backslash, others, control], control⟩
    · exact .inr ⟨by simp [escape, quote, backslash, others, control], quote, backslash, by omega⟩

theorem units?_escape (c : Char) (rest : List Char) :
    units? (escape c ++ rest) =
      (units? rest).map fun (units, rest) => (c.toNat :: units, rest) := by
  rcases escape_cases c with ⟨letter, same, known⟩ | ⟨same, control⟩ | ⟨same, quote, backslash, plain⟩
  · rw [same]
    exact units?_letter rest known
  · rw [same]
    exact units?_code rest control
  · rw [same]
    exact units?_plain rest quote backslash plain

theorem units?_quoted (text rest : List Char) :
    units? (text.flatMap escape ++ '"' :: rest) = some (text.map Char.toNat, rest) := by
  induction text with
  | nil => rfl
  | cons c others ih =>
    rw [List.flatMap_cons, List.append_assoc, units?_escape, ih]
    rfl

/-- The text of a quoted literal, whose opening quote is read. -/
theorem stringAfter?_quoted (text : String) (rest : List Char) :
    stringAfter? (text.toList.flatMap escape ++ '"' :: rest) = some (some text, rest) := by
  rw [stringAfter?, units?_quoted, Option.map_some]
  simp only [textOfUnits?_map_toNat, Option.map_some, String.ofList_toList]

end Querymap.Text
