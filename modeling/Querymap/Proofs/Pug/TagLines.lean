import Querymap.Proofs.Pug.Heads

/-! Lines with a tag and its shorthands alone. Such a line reads as its tag, whatever its indentation. -/
namespace Querymap.Pug

/-- `#id` or `.class`, of ASCII letters. -/
structure Shorthand where
  isClass : Bool
  letters : List Char
  nonempty : letters ≠ []
  ascii : ∀ c ∈ letters, c.isAlpha = true

namespace Shorthand

def mark (shorthand : Shorthand) : Char := if shorthand.isClass then '.' else '#'

theorem mark_eq (shorthand : Shorthand) : shorthand.mark = '.' ∨ shorthand.mark = '#' := by
  rw [mark]
  cases shorthand.isClass
  · exact .inr rfl
  · exact .inl rfl

def print (shorthand : Shorthand) : List Char := shorthand.mark :: shorthand.letters

def toAttribute (shorthand : Shorthand) : Attribute :=
  ⟨if shorthand.isClass then "class" else "id", .literal (String.ofList shorthand.letters)⟩

end Shorthand

/-- A line that is a tag without attributes in parentheses. -/
structure Row where
  indent : Nat
  name : String
  shorthands : List Shorthand
  nonempty : name.toList ≠ []
  ascii : ∀ c ∈ name.toList, c.isAlphanum = true
  free : name ∉ keywords

namespace Row

def text (row : Row) : List Char := row.name.toList ++ row.shorthands.flatMap Shorthand.print

def attributes (row : Row) : List Attribute := row.shorthands.map Shorthand.toAttribute

def tag (row : Row) (block : Block) : Node := .tag row.name row.attributes block

def line (row : Row) (number : Nat) : Line := ⟨number, row.indent, row.text⟩

def print (row : Row) : List Char := List.replicate row.indent ' ' ++ row.text

/-- Lines one below the other. The last one may do without a line end. -/
def template (rows : List Row) (ended : Bool) : String :=
  String.ofList (['\n'].intercalate (rows.map print) ++ if ended then ['\n'] else [])

/-- Lines from a number on. -/
def lines (number : Nat) : List Row → List Line
  | [] => []
  | row :: rest => row.line number :: lines (number + 1) rest

end Row

theorem Shorthand.isWord (shorthand : Shorthand) {c : Char} (member : c ∈ shorthand.letters) :
    Text.isWord c = true :=
  Text.isWord_of_isAlphanum (Bool.or_eq_true_iff.2 (.inl (shorthand.ascii c member)))

theorem Row.isName (row : Row) : IsName row.name :=
  ⟨row.nonempty, fun c member => Text.isWord_of_isAlphanum (row.ascii c member), row.free⟩

/-- Shorthands start with a mark, which no name holds. -/
theorem head?_shorthands {shorthands : List Shorthand} {c : Char}
    (head : c ∈ (shorthands.flatMap Shorthand.print).head?) : c = '.' ∨ c = '#' := by
  cases shorthands with
  | nil => cases head
  | cons shorthand rest =>
    cases head
    exact shorthand.mark_eq

theorem splitShorthand?_print (shorthand : Shorthand) {after : List Char}
    (ends : ∀ c ∈ after.head?, c = '.' ∨ c = '#') :
    splitShorthand? (shorthand.print ++ after) = some (shorthand.toAttribute, after) := by
  have word := fun c => @shorthand.isWord c
  obtain ⟨isClass, letters, nonempty, ascii⟩ := shorthand
  cases isClass with
  | false =>
    have inside : ∀ c ∈ letters, isIdChar c = true := by
      intro c member
      rw [isIdChar, word c member, Bool.true_or]
    have outside : ∀ c ∈ after.head?, isIdChar c = false := by
      intro c head
      rcases ends c head with rfl | rfl <;> decide
    simp [Shorthand.print, Shorthand.mark, Shorthand.toAttribute, splitShorthand?,
      Text.takeWhile_append_all inside outside, Text.dropWhile_append_all inside outside, nonempty]
  | true =>
    have letter : ∀ c ∈ letters, isClassLetter c = true := by
      intro c member
      simp [isClassLetter, ascii c member]
    have inside : ∀ c ∈ letters, isClassChar c = true := by
      intro c member
      simp [isClassChar, letter c member]
    have outside : ∀ c ∈ after.head?, isClassChar c = false := by
      intro c head
      rcases ends c head with rfl | rfl <;> decide
    have some : letters.any isClassLetter = true := by
      obtain ⟨c, member⟩ := List.exists_mem_of_ne_nil _ nonempty
      exact List.any_eq_true.2 ⟨c, member, letter c member⟩
    simp [Shorthand.print, Shorthand.mark, Shorthand.toAttribute, splitShorthand?,
      Text.takeWhile_append_all inside outside, Text.dropWhile_append_all inside outside, some]

theorem readTagAttributes_shorthands (number : Nat) (shorthands : List Shorthand) (lines : List Line) :
    readTagAttributes number (shorthands.flatMap Shorthand.print) lines =
      .ok (shorthands.map Shorthand.toAttribute, [], ⟨lines, List.suffix_refl _⟩) := by
  induction shorthands with
  | nil => exact readTagAttributes_nil number lines
  | cons shorthand rest ih =>
    have found := splitShorthand?_print shorthand fun c => @head?_shorthands rest c
    rw [List.flatMap_cons, readTagAttributes_shorthand found, ih]
    rfl

namespace Row

variable (row : Row) (number : Nat) (lines : List Line)

theorem ends_name {c : Char} (head : c ∈ (row.shorthands.flatMap Shorthand.print).head?) :
    Text.isWord c = false ∧ isNameJoint c = false := by
  rcases head?_shorthands head with rfl | rfl <;> decide

theorem elseBranch?_text : elseBranch? row.text = none :=
  elseBranch?_of_isName row.isName fun _ head => (row.ends_name head).1

theorem readLine_text :
    readLine number row.text lines = .ok (row.tag [], .block, ⟨lines, List.suffix_refl _⟩) := by
  refine readLine_tag ?_
  have unreserved := splitKeyword?_of_isName row.isName fun c head => (row.ends_name head).1
  have tagged := splitTagName?_of_isName row.isName fun c head => row.ends_name head
  rw [text, readForm_of_word fun c head => row.isName.head?_append head, unreserved, tagged]
  simp [readTag, tagged, readTagAttributes_shorthands, withoutSlash, readTail, Except.map, attributes]

theorem trimmed_text : Text.Trimmed row.text := by
  refine .of_solid (by simp [text, row.nonempty]) fun c member => ?_
  rcases List.mem_append.1 member with name | shorthands
  · exact Text.isBlank_of_isWord (row.isName.word c name)
  · obtain ⟨shorthand, _, inside⟩ := List.mem_flatMap.1 shorthands
    rcases List.mem_cons.1 inside with rfl | letter
    · rcases shorthand.mark_eq with mark | mark <;> rw [mark] <;> decide
    · exact Text.isBlank_of_isWord (shorthand.isWord letter)

theorem successive_lines (rows : List Row) (number : Nat) : Successive number (Row.lines number rows) := by
  induction rows generalizing number with
  | nil => trivial
  | cons row rest ih => exact ⟨⟨rfl, row.trimmed_text⟩, ih (number + 1)⟩

theorem flatMap_lines {rows : List Row} (nonempty : rows ≠ []) (number : Nat) :
    (Row.lines number rows).flatMap Line.print = ['\n'].intercalate (rows.map print) ++ ['\n'] := by
  induction rows generalizing number with
  | nil => contradiction
  | cons row rest ih =>
    cases rest with
    | nil => simp [Row.lines, Row.line, Line.print, print, List.intercalate]
    | cons next rest =>
      rw [Row.lines, List.flatMap_cons, ih (by simp)]
      simp [Row.line, Line.print, print, List.intercalate]

/-- A template reads as its lines. -/
theorem readLines_template (rows : List Row) (ended : Bool) :
    readLines (template rows ended).toList = .ok (Row.lines 1 rows) := by
  rw [template, String.toList_ofList]
  by_cases nonempty : rows = []
  · subst nonempty
    cases ended <;> rfl
  · have read := readLines_print (successive_lines rows 1)
    rw [flatMap_lines nonempty] at read
    cases ended with
    | true => exact read
    | false =>
      rw [readLines_concat] at read
      simpa using read

end Row

end Querymap.Pug
