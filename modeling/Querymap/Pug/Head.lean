import Querymap.Pug.Attribute
import Querymap.Pug.Line
import Querymap.Text.Word

/-! The head of a line: what kind of node it starts, with its names, shorthands and attribute lists. A
list in parentheses may go on over the lines that follow. -/
namespace Querymap.Pug

/-- Lines that are left over, the last ones of `lines`. -/
abbrev Rest (lines : List Line) := { rest : List Line // rest <:+ lines }

/-- The characters that lines add to a text that they continue. -/
def weight (lines : List Line) : Nat := lines.foldr (·.text.length + 1 + ·) 0

theorem weight_le {rest lines : List Line} (suffix : rest <:+ lines) :
    weight rest ≤ weight lines := by
  obtain ⟨before, rfl⟩ := suffix
  induction before with
  | nil => exact Nat.le_refl _
  | cons line before ih => exact Nat.le_trans ih (Nat.le_add_left _ _)

/-- What is left of the lines that are left. -/
theorem suffix_of_rest {lines : List Line} (rest : Rest lines) (inner : Rest rest.1) :
    inner.1 <:+ lines :=
  inner.2.trans rest.2

/-- The inside of a group in parentheses at the start of `head`, what follows it, and the lines that are
left. -/
def readParentheses (number : Nat) (head : List Char) (lines : List Line) :
    Except ParseError (List Char × List Char × Rest lines) :=
  match matchingBracket? ')' head with
  | some stop => .ok ((head.take stop).drop 1, head.drop (stop + 1), ⟨lines, List.suffix_refl _⟩)
  | none =>
    match lines with
    | [] => .error ⟨number, .unclosedParenthesis⟩
    | next :: others =>
      match readParentheses number (head ++ '\n' :: next.text) others with
      | .ok (inner, tail, rest) => .ok (inner, tail, ⟨rest, rest.2.trans (List.suffix_cons _ _)⟩)
      | .error error => .error error

theorem readParentheses_smaller {number : Nat} {head inner tail : List Char} {lines : List Line}
    {rest : Rest lines} (h : readParentheses number head lines = .ok (inner, tail, rest)) :
    tail.length + weight rest < head.length + weight lines := by
  induction lines generalizing head inner tail with
  | nil =>
    rw [readParentheses] at h
    split at h
    · next found =>
      have := matchingBracket?_lt found
      cases h
      simp only [List.length_drop]
      omega
    · contradiction
  | cons next others ih =>
    rw [readParentheses] at h
    split at h
    · next found =>
      have := matchingBracket?_lt found
      cases h
      simp only [List.length_drop]
      omega
    · split at h
      · next smaller =>
        have := ih smaller
        cases h
        simp [weight] at this ⊢
        omega
      · contradiction

def isNameJoint (c : Char) : Bool := c == '-' || c == ':'

/-- A tag name: word characters, with `-` and `:` inside. -/
def splitTagName? : List Char → Option (List Char × List Char)
  | [] => none
  | c :: rest =>
    if Text.isWord c then
      let name := Text.dropEndWhile isNameJoint
        ((c :: rest).takeWhile fun c => Text.isWord c || isNameJoint c)
      some (name, (c :: rest).drop name.length)
    else none

def isIdChar (c : Char) : Bool := Text.isWord c || c == '-'

/-- Letters of class shorthands, in any case; two letters fold to ASCII from outside it. -/
def isClassLetter (c : Char) : Bool := c.isAlpha || c == '_' || c == '\u017f' || c == '\u212a'

def isClassChar (c : Char) : Bool := isClassLetter c || c.isDigit || c == '-'

/-- `#id` or `.class` at the start of a text. A class holds at least one letter. -/
def splitShorthand? : List Char → Option (Attribute × List Char)
  | '#' :: rest =>
    let id := rest.takeWhile isIdChar
    if id.isEmpty then none
    else some (⟨"id", .literal (String.ofList id)⟩, rest.dropWhile isIdChar)
  | '.' :: rest =>
    let name := rest.takeWhile isClassChar
    if name.any isClassLetter then
      some (⟨"class", .literal (String.ofList name)⟩, rest.dropWhile isClassChar)
    else none
  | _ => none

theorem splitShorthand?_smaller {text rest : List Char} {attr : Attribute}
    (h : splitShorthand? text = some (attr, rest)) : rest.length < text.length := by
  unfold splitShorthand? at h
  split at h
  · next after =>
    dsimp only at h
    split at h
    · contradiction
    · cases h
      exact Nat.lt_succ_of_le (length_dropWhile_le _ _)
  · next after =>
    dsimp only at h
    split at h
    · cases h
      exact Nat.lt_succ_of_le (length_dropWhile_le _ _)
    · contradiction
  · contradiction

theorem dropStart?_length {start text rest : List Char}
    (h : Text.dropStart? start text = some rest) : rest.length ≤ text.length := by
  simp [Text.dropStart?_eq_some_iff.1 h]

set_option linter.unusedVariables false in
/-- Shorthands and attribute lists in any order, and the text after them. -/
def readTagAttributes (number : Nat) (head : List Char) (lines : List Line) :
    Except ParseError (List Attribute × List Char × Rest lines) :=
  match shorthand : splitShorthand? head with
  | some (attr, after) =>
    (readTagAttributes number after lines).map fun (attributes, tail, rest) =>
      (attr :: attributes, tail, rest)
  | none =>
    if head.head? = some '(' then
      match group : readParentheses number head lines with
      | .error error => .error error
      | .ok (inner, after, rest) =>
        (readTagAttributes number after rest.1).map fun (attributes, tail, rest') =>
          (readAttributes inner ++ attributes, tail, ⟨rest', rest'.2.trans rest.2⟩)
    else
      match spread : Text.dropStart? "&attributes".toList head with
      | none => .ok ([], head, ⟨lines, List.suffix_refl _⟩)
      | some argument =>
        if argument.head? = some '(' then
          match group : readParentheses number argument lines with
          | .error error => .error error
          | .ok (_, after, rest) =>
            (readTagAttributes number after rest.1).map fun (attributes, tail, rest') =>
              (attributes, tail, ⟨rest', rest'.2.trans rest.2⟩)
        else .error ⟨number, .missingAttributesArgument⟩
termination_by head.length + weight lines
decreasing_by
  · have := splitShorthand?_smaller shorthand
    omega
  · exact readParentheses_smaller group
  · have := readParentheses_smaller group
    have := dropStart?_length spread
    omega

theorem map_eq_ok {ε α β : Type} {f : α → β} {result : Except ε α} {b : β}
    (h : result.map f = .ok b) : ∃ a, result = .ok a ∧ f a = b := by
  cases result with
  | error => contradiction
  | ok a => exact ⟨a, rfl, Except.ok.inj h⟩

theorem readTagAttributes_le {number : Nat} {head tail : List Char} {lines : List Line}
    {attributes : List Attribute} {rest : Rest lines}
    (h : readTagAttributes number head lines = .ok (attributes, tail, rest)) :
    tail.length + weight rest ≤ head.length + weight lines := by
  fun_induction readTagAttributes number head lines generalizing attributes tail with
  | case1 head lines attr after shorthand ih =>
    obtain ⟨⟨_, _, _⟩, found, same⟩ := map_eq_ok h
    cases same
    have := splitShorthand?_smaller shorthand
    have := ih found
    omega
  | case3 head lines _ _ inner after rest' group ih =>
    obtain ⟨⟨_, _, _⟩, found, same⟩ := map_eq_ok h
    cases same
    have := readParentheses_smaller group
    have := ih found
    dsimp only
    omega
  | case4 => cases h; exact Nat.le_refl _
  | case6 head lines _ _ argument spread _ _ after rest' group ih =>
    obtain ⟨⟨_, _, _⟩, found, same⟩ := map_eq_ok h
    cases same
    have := readParentheses_smaller group
    have := dropStart?_length spread
    have := ih found
    dsimp only
    omega
  | _ => contradiction

end Querymap.Pug
