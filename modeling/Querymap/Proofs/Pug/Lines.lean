import Querymap.Proofs.Text.Trim
import Querymap.Pug.Line

/-! Lines of a template written out and read again. -/
namespace Querymap.Pug

/-- A line behind its indentation, with the line end. -/
def Line.print (line : Line) : List Char :=
  List.replicate line.indent ' ' ++ line.text ++ ['\n']

/-- The lines of a text from one with a given number on, none of them empty. -/
def Successive : Nat → List Line → Prop
  | _, [] => True
  | number, line :: rest =>
    (line.number = number ∧ Text.Trimmed line.text) ∧ Successive (number + 1) rest

theorem successive_append {number : Nat} {before after : List Line} :
    Successive number (before ++ after) ↔
      Successive number before ∧ Successive (number + before.length) after := by
  induction before generalizing number with
  | nil => simp [Successive]
  | cons line before ih =>
    simp only [List.cons_append, Successive, ih, List.length_cons, and_assoc]
    rw [show number + 1 + before.length = number + (before.length + 1) by omega]

/-- A line without the white space around it, unless that in front of it is mixed. -/
theorem readRawLine_start {indent start : List Char} (trimmed : Text.Trimmed start)
    (blank : ∀ c ∈ indent, Text.isBlank c = true) (number : Nat) (text : List Char) :
    readRawLine number (indent ++ (start ++ text)) =
      if ' ' ∈ indent ∧ '\t' ∈ indent then .error ⟨number, .mixedIndentation⟩
      else .ok (some ⟨number, indent.length, start ++ Text.trimEnd text⟩) := by
  have leading : (indent ++ (start ++ text)).takeWhile Text.isBlank = indent := by
    refine Text.takeWhile_append_all blank fun c head => trimmed.first c ?_
    rwa [trimmed.head?_append] at head
  have whole : Text.trim (indent ++ (start ++ text)) = start ++ Text.trimEnd text := by
    rw [Text.trim, Text.trimStart, List.dropWhile_append_of_pos blank]
    exact trimmed.trim_append_end text
  simp [readRawLine, leading, whole, trimmed.nonempty]

/-- A line is read back from behind its indentation. -/
theorem readRawLine_indented {text : List Char} (number indent : Nat) (trimmed : Text.Trimmed text) :
    readRawLine number (List.replicate indent ' ' ++ text) = .ok (some ⟨number, indent, text⟩) := by
  have blank : ∀ c ∈ List.replicate indent ' ', Text.isBlank c = true := by
    intro c member
    rw [List.eq_of_mem_replicate member]
    rfl
  have read := readRawLine_start trimmed blank number []
  have unmixed : ¬(' ' ∈ List.replicate indent ' ' ∧ '\t' ∈ List.replicate indent ' ') :=
    fun mixed => absurd (List.eq_of_mem_replicate mixed.2) (by decide)
  rw [if_neg unmixed] at read
  simpa [Text.trimEnd, Text.dropEndWhile] using read

theorem readRawLines_print {number : Nat} {lines : List Line} (written : Successive number lines) :
    readRawLines number (Text.splitAt (· == '\n') (lines.flatMap Line.print)) = .ok lines := by
  induction lines generalizing number with
  | nil => rfl
  | cons line rest ih =>
    obtain ⟨⟨rfl, trimmed⟩, others⟩ := written
    have whole : ∀ c ∈ List.replicate line.indent ' ' ++ line.text, (c == '\n') = false := by
      intro c member
      rcases List.mem_append.1 member with indentation | inside
      · rw [List.eq_of_mem_replicate indentation]
        rfl
      · exact beq_false_of_ne fun newline => trimmed.oneLine (newline ▸ inside)
    have cut := Text.splitAt_append (rest.flatMap Line.print) whole (beq_self_eq_true '\n')
    rw [List.flatMap_cons, Line.print, List.append_assoc _ ['\n'], List.singleton_append, cut,
      readRawLines, readRawLine_indented _ _ trimmed, ih others]
    rfl

/-- The line end after the last line adds nothing. -/
theorem readRawLines_concat (number : Nat) (pieces : List (List Char)) :
    readRawLines number (pieces ++ [[]]) = readRawLines number pieces := by
  induction pieces generalizing number with
  | nil => rfl
  | cons piece rest ih => rw [List.cons_append, readRawLines, readRawLines, ih]

theorem readLines_concat (content : List Char) :
    readLines (content ++ ['\n']) = readLines content := by
  have cut := @Text.splitAt_concat (· == '\n') '\n' content (beq_self_eq_true '\n')
  rw [readLines, cut, readRawLines_concat, readLines]

theorem readLines_print {lines : List Line} (written : Successive 1 lines) :
    readLines (lines.flatMap Line.print) = .ok lines :=
  readRawLines_print written

end Querymap.Pug
