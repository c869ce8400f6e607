import Querymap.Proofs.Pug.Heads
import Querymap.Proofs.Pug.Lines

/-! Attribute lists over several lines. The lines are trimmed and joined again before the list is read,
which changes the white space between the attributes and nothing else. -/
namespace Querymap.Pug

/-- White space of spaces and line ends, as a list is laid out with. -/
def IsSpread (gap : List Char) : Prop := ∀ c ∈ gap, c = ' ' ∨ c = '\n'

instance (gap : List Char) : Decidable (IsSpread gap) :=
  List.decidableBAll (fun c => c = ' ' ∨ c = '\n') gap

theorem IsSpread.isBlank {gap : List Char} (spread : IsSpread gap) :
    ∀ c ∈ gap, Text.isBlank c = true := by
  intro c member
  rcases spread c member with rfl | rfl <;> rfl

/-- What is left of white space after its lines are joined: a single line end, if it held one. -/
def settle (gap : List Char) : List Char := if '\n' ∈ gap then ['\n'] else gap

theorem isBlank_settle {gap : List Char} (spread : IsSpread gap) :
    ∀ c ∈ settle gap, Text.isBlank c = true := by
  intro c member
  unfold settle at member
  split at member
  · rw [List.mem_singleton.1 member]
    rfl
  · exact spread.isBlank c member

/-- Pieces of a text, each behind white space. -/
abbrev Pieces := List (List Char × List Char)

namespace Pieces

def print (pieces : Pieces) : List Char := pieces.flatMap fun (gap, piece) => gap ++ piece

def settle (pieces : Pieces) : Pieces := pieces.map fun (gap, piece) => (Pug.settle gap, piece)

/-- Line ends stand in the white space only. -/
def Laid (pieces : Pieces) : Prop := ∀ part ∈ pieces, IsSpread part.1 ∧ Text.Trimmed part.2

theorem laid_cons {part : List Char × List Char} {rest : Pieces} :
    Laid (part :: rest) ↔ (IsSpread part.1 ∧ Text.Trimmed part.2) ∧ Laid rest :=
  List.forall_mem_cons

end Pieces

section Lines

/-- A text joined from lines. -/
def rejoin (head : List Char) (lines : List Line) : List Char :=
  head ++ lines.flatMap ('\n' :: ·.text)

theorem isBlank_replicate (count : Nat) : ∀ c ∈ List.replicate count ' ', Text.isBlank c = true := by
  intro c member
  rw [List.eq_of_mem_replicate member]
  rfl

theorem newline_not_mem_replicate (count : Nat) : '\n' ∉ List.replicate count ' ' :=
  fun member => absurd (List.eq_of_mem_replicate member) (by decide)

/-- The white space behind a line is trimmed as the indentation is. -/
theorem readRawLine_spaced {text : List Char} (number indent spaces : Nat)
    (trimmed : Text.Trimmed text) :
    readRawLine number (List.replicate indent ' ' ++ (text ++ List.replicate spaces ' ')) =
      .ok (some ⟨number, indent, text⟩) := by
  have solid : ∀ c ∈ (text ++ List.replicate spaces ' ').head?, Text.isBlank c = false := by
    obtain ⟨c, rest, rfl⟩ := List.exists_cons_of_ne_nil trimmed.nonempty
    simpa using trimmed.first
  have leading : (List.replicate indent ' ' ++ (text ++ List.replicate spaces ' ')).takeWhile
      Text.isBlank = List.replicate indent ' ' :=
    Text.takeWhile_append_all (isBlank_replicate indent) solid
  have trim : Text.trim (List.replicate indent ' ' ++ (text ++ List.replicate spaces ' ')) = text := by
    rw [Text.trim, Text.trimStart, Text.dropWhile_append_all (isBlank_replicate indent) solid,
      Text.trimEnd, Text.dropEndWhile_append_all text (isBlank_replicate spaces)]
    exact Text.dropEndWhile_of_getLast? trimmed.last
  simp [readRawLine, leading, trim, trimmed.nonempty]

theorem readRawLine_spaces (number spaces : Nat) :
    readRawLine number (List.replicate spaces ' ') = .ok none := by
  have none : Text.trim (List.replicate spaces ' ') = [] := by
    rw [Text.trim, Text.trimStart, List.dropWhile_eq_nil_iff.2 (isBlank_replicate spaces)]
    rfl
  simp [readRawLine, none]

variable {gap : List Char}

theorem splitAt_newline {piece : List Char} (oneLine : '\n' ∉ piece) (rest : List Char) :
    Text.splitAt (· == '\n') (piece ++ '\n' :: rest) =
      piece :: Text.splitAt (· == '\n') rest :=
  Text.splitAt_append rest
    (fun _ member => beq_false_of_ne fun newline => oneLine (newline ▸ member)) (beq_self_eq_true _)

theorem splitAt_of_oneLine {piece : List Char} (oneLine : '\n' ∉ piece) :
    Text.splitAt (· == '\n') piece = [piece] := by
  have cut := splitAt_newline oneLine []
  have := @Text.splitAt_concat (· == '\n') '\n' piece (beq_self_eq_true _)
  exact List.append_cancel_right (this.symm.trans cut)

/-- Of the white space before a text only the indentation of its line counts. -/
theorem readRawLines_gap (spread : IsSpread gap) (number spaces : Nat) (text : List Char) :
    ∃ later indent,
      readRawLines number
          (Text.splitAt (· == '\n') (List.replicate spaces ' ' ++ (gap ++ text))) =
        readRawLines later (Text.splitAt (· == '\n') (List.replicate indent ' ' ++ text)) := by
  induction gap generalizing number spaces with
  | nil => exact ⟨number, spaces, rfl⟩
  | cons c gap ih =>
    obtain ⟨first, others⟩ := List.forall_mem_cons.1 spread
    rcases first with rfl | rfl
    · obtain ⟨later, indent, same⟩ := ih others number (spaces + 1)
      refine ⟨later, indent, ?_⟩
      rw [← same, List.replicate_succ', List.append_assoc]
      rfl
    · obtain ⟨later, indent, same⟩ := ih others (number + 1) 0
      refine ⟨later, indent, ?_⟩
      rw [List.cons_append, splitAt_newline (newline_not_mem_replicate spaces), readRawLines,
        readRawLine_spaces, ← same, List.replicate_zero, List.nil_append]
      cases readRawLines (number + 1) (Text.splitAt (· == '\n') (gap ++ text)) <;> rfl

/-- White space with a line end: spaces up to the first one, and the rest behind it. -/
theorem IsSpread.cut (spread : IsSpread gap) (newline : '\n' ∈ gap) :
    ∃ spaces rest, gap = List.replicate spaces ' ' ++ '\n' :: rest ∧ IsSpread rest := by
  induction gap with
  | nil => cases newline
  | cons c gap ih =>
    obtain ⟨first, others⟩ := List.forall_mem_cons.1 spread
    rcases first with rfl | rfl
    · obtain ⟨spaces, rest, rfl, after⟩ := ih others (by simpa using newline)
      exact ⟨spaces + 1, rest, rfl, after⟩
    · exact ⟨0, gap, rfl, others⟩

/-- The lines of a text that is laid out over them join to the text with its white space settled. -/
theorem readRawLines_pieces {first : List Char} {pieces : Pieces} (trimmed : Text.Trimmed first)
    (laid : pieces.Laid) (number indent : Nat) :
    ∃ after others,
      readRawLines number (Text.splitAt (· == '\n')
          (List.replicate indent ' ' ++ (first ++ pieces.print))) =
        .ok (⟨number, indent, first ++ after⟩ :: others) ∧
      rejoin after others = pieces.settle.print := by
  induction pieces generalizing first number indent with
  | nil =>
    refine ⟨[], [], ?_, rfl⟩
    have whole : '\n' ∉ List.replicate indent ' ' ++ first := by
      simp [trimmed.oneLine]
    simp only [Pieces.print, List.flatMap_nil, List.append_nil]
    rw [splitAt_of_oneLine whole, readRawLines, readRawLine_indented number indent trimmed]
    rfl
  | cons part rest ih =>
    obtain ⟨gap, piece⟩ := part
    obtain ⟨⟨spread, solid⟩, others⟩ := Pieces.laid_cons.1 laid
    by_cases newline : '\n' ∈ gap
    · -- The line ends inside the gap; the piece leads a later one.
      obtain ⟨spaces, behind, rfl, blank⟩ := spread.cut newline
      obtain ⟨later, deeper, same⟩ := readRawLines_gap blank (number + 1) 0 (piece ++ Pieces.print rest)
      obtain ⟨after, lines, read, joined⟩ := ih solid others later deeper
      have line : '\n' ∉ List.replicate indent ' ' ++ (first ++ List.replicate spaces ' ') := by
        simp [trimmed.oneLine]
      have text : List.replicate indent ' ' ++ (first ++
          Pieces.print ((List.replicate spaces ' ' ++ '\n' :: behind, piece) :: rest)) =
          List.replicate indent ' ' ++ (first ++ List.replicate spaces ' ') ++
            '\n' :: (behind ++ (piece ++ Pieces.print rest)) := by
        simp [Pieces.print]
      refine ⟨[], ⟨later, deeper, piece ++ after⟩ :: lines, ?_, ?_⟩
      · rw [List.replicate_zero, List.nil_append] at same
        rw [text, splitAt_newline line, readRawLines, readRawLine_spaced number indent spaces trimmed,
          same, read, List.append_nil]
        rfl
      · simpa [rejoin, Pieces.settle, Pieces.print, Pug.settle] using joined
    · -- The piece goes on the line.
      obtain ⟨after, lines, read, joined⟩ :=
        ih (trimmed.append gap newline solid) others number indent
      refine ⟨gap ++ (piece ++ after), lines, ?_, ?_⟩
      · simpa [Pieces.print] using read
      · simpa [rejoin, Pieces.settle, Pieces.print, Pug.settle, newline] using joined

end Lines

section Parentheses

variable {close : Char} {nesting : Nesting} {index stop : Nat} {lines : List Line}

/-- A group of inert text is read over all of its lines: no line before the last one closes it. -/
theorem readParentheses_rejoin {head inner : List Char} (inert : Inert inner) (number : Nat)
    (whole : rejoin head lines = '(' :: (inner ++ [')'])) :
    readParentheses number head lines = .ok (inner, [], ⟨[], List.nil_suffix⟩) := by
  induction lines generalizing head with
  | nil =>
    rw [rejoin, List.flatMap_nil, List.append_nil] at whole
    rw [whole]
    exact readParentheses_group inert number [] []
  | cons next others ih =>
    have unclosed : matchingBracket? ')' head = none := by
      refine Option.eq_none_iff_forall_not_mem.2 fun stop found => ?_
      have bound := matchingBracket?_lt found
      have same := matchingFrom_append ((next :: others).flatMap ('\n' :: ·.text)) found
      have length := congrArg List.length whole
      rw [← rejoin, whole] at same
      have := (matchingBracket?_group inert []).symm.trans same
      simp [rejoin] at length this
      omega
    rw [readParentheses, unclosed]
    simp only
    rw [ih (by simpa [rejoin] using whole)]

end Parentheses

section Lists

variable {name : String} {attributes : List Spelled} {last : List Char}

/-- An attribute that can be read, in white space that may hold line ends. -/
structure Spelled.Laid (spelled : Spelled) : Prop where
  gap : IsSpread spelled.gap
  quote : IsPlainQuote spelled.quote
  attr : spelled.attr.Printable

def Spelled.settle (spelled : Spelled) : Spelled := { spelled with gap := Pug.settle spelled.gap }

theorem Spelled.Laid.readable {spelled : Spelled} (laid : spelled.Laid) :
    spelled.settle.Readable :=
  ⟨isBlank_settle laid.gap, laid.quote, laid.attr⟩

theorem trimmed_print {attr : Attribute} {quote : Char} (plain : IsPlainQuote quote)
    (printable : attr.Printable) : Text.Trimmed (attr.print quote) := by
  obtain ⟨name, value⟩ := attr
  obtain ⟨named, bare, printable⟩ := printable
  have trimmed : Text.Trimmed name.toList := by
    refine .of_solid named fun c member => ?_
    have inside := bare c member
    simp only [inBareName, inAttributeName, Bool.and_eq_true, Bool.not_eq_true'] at inside
    simp [inside]
  cases value with
  | expression text => contradiction
  | boolean => simpa [Attribute.print, Value.print] using trimmed
  | literal text =>
    have inside : '\n' ∉ '=' :: quote :: escape quote text.toList := by
      have oneLine := newline_not_mem_quoted plain text.toList
      simp only [quoted, List.mem_cons, List.mem_append, not_or] at oneLine ⊢
      exact ⟨by decide, oneLine.1, oneLine.2.1⟩
    have closes := trimmed.append _ inside (trimmed_symbol quote plain.isBlank)
    simpa [Attribute.print, Value.print, quoted] using closes

/-- The pieces of a list behind its opening parenthesis: the attributes, each with the comma that
follows it, and the closing parenthesis. -/
def listPieces (last : List Char) : List Spelled → Pieces
  | [] => [(last, [')'])]
  | [spelled] => [(spelled.gap, spelled.attr.print spelled.quote), (last, [')'])]
  | spelled :: others =>
    (spelled.gap, spelled.attr.print spelled.quote ++ [',']) :: listPieces last others

theorem print_listPieces (last : List Char) (attributes : List Spelled) :
    (listPieces last attributes).print = printAttributes last attributes ++ [')'] := by
  induction attributes with
  | nil => simp [listPieces, printAttributes, Pieces.print]
  | cons spelled others ih =>
    cases others with
    | nil => simp [listPieces, printAttributes, Pieces.print]
    | cons next others => simpa [listPieces, printAttributes, Pieces.print] using ih

theorem settle_listPieces (last : List Char) (attributes : List Spelled) :
    (listPieces last attributes).settle =
      listPieces (settle last) (attributes.map Spelled.settle) := by
  induction attributes with
  | nil => rfl
  | cons spelled others ih =>
    cases others with
    | nil => rfl
    | cons next others => exact congrArg (_ :: ·) ih

theorem laid_listPieces (laid : ∀ spelled ∈ attributes, spelled.Laid) (spread : IsSpread last) :
    (listPieces last attributes).Laid := by
  have closing : Text.Trimmed [')'] := trimmed_symbol ')' rfl
  induction attributes with
  | nil => simpa [listPieces, Pieces.Laid] using ⟨spread, closing⟩
  | cons spelled others ih =>
    obtain ⟨⟨gap, plain, printable⟩, rest⟩ := List.forall_mem_cons.1 laid
    have first := trimmed_print plain printable
    cases others with
    | nil => simpa [listPieces, Pieces.Laid] using ⟨⟨gap, first⟩, spread, closing⟩
    | cons next others =>
      have comma : Text.Trimmed (spelled.attr.print spelled.quote ++ ([] ++ [','])) :=
        first.append [] (by simp) (trimmed_symbol ',' rfl)
      exact Pieces.laid_cons.2 ⟨⟨gap, comma⟩, ih rest⟩

/-- A tag with a list that is laid out over lines is read with the attributes of the list. -/
theorem parse_laid_list (valid : IsName name) (laid : ∀ spelled ∈ attributes, spelled.Laid)
    (spread : IsSpread last) :
    parse (String.ofList (name.toList ++ '(' :: (printAttributes last attributes ++ [')']))) =
      .ok [.tag name (attributes.map (·.attr)) []] := by
  have opening : Text.Trimmed (name.toList ++ ([] ++ ['('])) :=
    valid.trimmed.append [] (by simp) (trimmed_symbol '(' rfl)
  obtain ⟨after, others, read, joined⟩ :=
    readRawLines_pieces opening (laid_listPieces laid spread) 1 0
  rw [settle_listPieces, print_listPieces] at joined
  have readable : ∀ spelled ∈ attributes.map Spelled.settle, spelled.Readable := by
    intro spelled member
    obtain ⟨spelled, listed, rfl⟩ := List.mem_map.1 member
    exact (laid spelled listed).readable
  have blank := isBlank_settle spread
  have whole : rejoin ('(' :: after) others =
      '(' :: (printAttributes (settle last) (attributes.map Spelled.settle) ++ [')']) :=
    congrArg ('(' :: ·) joined
  have list : readAttributes (printAttributes (settle last) (attributes.map Spelled.settle)) =
      attributes.map (·.attr) := by
    simpa [Function.comp_def, Spelled.settle] using
      @readAttributes_print _ [] _ (by simp) readable blank
  have group := readTagAttributes_parentheses rfl
    (readParentheses_rejoin (.printAttributes readable blank) 1 whole)
  have ends : ∀ c ∈ ('(' :: after).head?, Text.isWord c = false ∧ isNameJoint c = false := by
    simp
    decide
  rw [list] at group
  refine parse_line ?_ (elseBranch?_of_isName valid fun c head => (ends c head).1)
    (readLine_tag (readForm_tag valid ends group)) (readChildren_block_nil 0) rfl
  simpa [readLines, print_listPieces] using read

/-- A link with brackets, commas, quotes and a backslash in its values, over four lines. -/
def bookmark : List Spelled := [
  ⟨['\n', ' ', ' '], '\'', "href", .literal "x),('\\"⟩,
  ⟨['\n', '\n', ' '], '"', "download", .boolean⟩,
  ⟨[], '"', "title", .literal "[\""⟩]

theorem parse_laid_list_bookmark :
    IsName "a" ∧ (∀ spelled ∈ bookmark, spelled.Laid) ∧ IsSpread [' '] ∧
      parse "a(\n  href='x),(\\'\\\\',\n\n download,title=\"[\\\"\" )" =
        .ok [.tag "a" [⟨"href", .literal "x),('\\"⟩, ⟨"download", .boolean⟩,
          ⟨"title", .literal "[\""⟩] []] := by
  have valid : IsName "a" := by decide
  have laid : ∀ spelled ∈ bookmark, spelled.Laid := by
    simp only [bookmark, List.forall_mem_cons, List.not_mem_nil, false_implies, implies_true]
    exact ⟨⟨by decide, .inr rfl, by decide⟩, ⟨by decide, .inl rfl, by decide⟩,
      ⟨by decide, .inl rfl, by decide⟩, trivial⟩
  have spread : IsSpread [' '] := by decide
  have text : String.ofList ("a".toList ++ '(' :: (printAttributes [' '] bookmark ++ [')'])) =
      "a(\n  href='x),(\\'\\\\',\n\n download,title=\"[\\\"\" )" := by
    simp [bookmark, printAttributes, Attribute.print, Value.print, quoted, escape, escapeChar]
  exact ⟨valid, laid, spread, text ▸ parse_laid_list valid laid spread⟩

end Lists

end Querymap.Pug
