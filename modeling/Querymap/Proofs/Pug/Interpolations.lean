import Querymap.Proofs.Pug.AttributeLines
import Querymap.Proofs.Pug.RawBodies

/-! Tags inside of prose. The bracket that ends such a tag is looked for with regard to quotes, although
what stands behind the name of the tag is prose: a quote that is left open there hides the bracket. -/
namespace Querymap.Pug

/-- The quote that is open behind a text without backslashes, where `quote` is open before it. -/
def openQuote (quote : Option Char) : List Char → Option Char
  | [] => quote
  | c :: rest =>
    match quote with
    | some q => openQuote (if c = q then none else some q) rest
    | none => openQuote (if isQuote c then some c else none) rest

/-- Text on one line without brackets, backslashes and number signs. Quotes may stand in it. -/
structure FreeText (text : List Char) : Prop where
  unbracketed : ∀ c ∈ text, isOpening c = false ∧ isClosing c = false
  unescaped : '\\' ∉ text
  unsigned : '#' ∉ text
  oneLine : '\n' ∉ text

/-- Text on one line in which no tag begins. -/
structure PlainText (text : List Char) : Prop where
  plain : ¬['#', '['] <:+: text
  oneLine : '\n' ∉ text

/-- A tag inside of prose, with the prose before it and the text in it. -/
structure Interpolated where
  before : List Char
  name : String
  text : List Char

namespace Interpolated

/-- What stands between the brackets. -/
def inner (piece : Interpolated) : List Char := piece.name.toList ++ ' ' :: piece.text

def print (piece : Interpolated) : List Char :=
  piece.before ++ '#' :: '[' :: (piece.inner ++ [']'])

def tag (piece : Interpolated) : Node := .tag piece.name [] []

/-- A backslash right before the tag would take its meaning away. -/
structure Readable (piece : Interpolated) : Prop where
  plain : PlainText piece.before
  unescaped : ∀ c ∈ piece.before.getLast?, c ≠ '\\'
  named : IsName piece.name
  free : FreeText piece.text

def Closed (piece : Interpolated) : Prop := openQuote none piece.text = none

end Interpolated

/-! The bracket at the end. -/

section Brackets

variable {text : List Char} {close : Char} {quote : Option Char}

theorem FreeText.cons {c : Char} (free : FreeText (c :: text)) : FreeText text where
  unbracketed c member := free.unbracketed c (List.mem_cons_of_mem _ member)
  unescaped member := free.unescaped (List.mem_cons_of_mem _ member)
  unsigned member := free.unsigned (List.mem_cons_of_mem _ member)
  oneLine member := free.oneLine (List.mem_cons_of_mem _ member)

/-- Free text, as a computation says. -/
theorem FreeText.of_all (all : text.all (fun c =>
    !(isOpening c || isClosing c || c == '\\' || c == '#' || c == '\n')) = true) : FreeText text := by
  have apart : ∀ c ∈ text, (((isOpening c = false ∧ isClosing c = false) ∧ c ≠ '\\') ∧ c ≠ '#') ∧ c ≠ '\n' := by
    simpa using all
  exact ⟨fun c member => (apart c member).1.1.1, fun member => (apart _ member).1.1.2 rfl,
    fun member => (apart _ member).1.2 rfl, fun member => (apart _ member).2 rfl⟩

/-- Free text moves the search for a bracket on, into a quote or out of it. -/
theorem matchingFrom_free (free : FreeText text) (depth index : Nat) (rest : List Char) :
    matchingFrom close ⟨depth, quote, false⟩ index (text ++ rest) =
      matchingFrom close ⟨depth, openQuote quote text, false⟩ (index + text.length) rest := by
  induction text generalizing quote index with
  | nil => rfl
  | cons c text ih =>
    obtain ⟨opening, closing⟩ := free.unbracketed c List.mem_cons_self
    have solid : c ≠ '\\' := fun same => free.unescaped (same ▸ List.mem_cons_self)
    have next : Nesting.next ⟨depth, quote, false⟩ c = ⟨depth, openQuote quote [c], false⟩ := by
      cases quote with
      | some q =>
        by_cases ends : c = q
        · subst ends
          simp [Nesting.next, Nesting.quoted, openQuote, solid]
        · simp [Nesting.next, Nesting.quoted, openQuote, solid, ends]
      | none => cases starts : isQuote c <;> simp [Nesting.next, openQuote, opening, closing, starts]
    have goesOn : openQuote quote (c :: text) = openQuote (openQuote quote [c]) text := by
      cases quote <;> rfl
    rw [List.cons_append, matchingFrom, next, goesOn, ih free.cons]
    simp [closing, Nat.add_assoc, Nat.add_comm 1]

/-- No bracket counts in a quote that is not closed. -/
theorem matchingFrom_quoted {q : Char} (unclosed : q ∉ text) (depth index : Nat) :
    matchingFrom close ⟨depth, some q, false⟩ index text = none := by
  refine Option.eq_none_iff_forall_not_mem.2 fun stop found => ?_
  obtain ⟨content, after, rfl, _⟩ := exists_quotable found
  exact unclosed (List.mem_append_right content List.mem_cons_self)

theorem isQuote_of_openQuote {q : Char} (opens : ∀ c ∈ quote, isQuote c = true)
    (left : openQuote quote text = some q) : isQuote q = true := by
  induction text generalizing quote with
  | nil => exact opens q left
  | cons c text ih =>
    cases quote with
    | some open' =>
      refine ih (fun d same => opens d ?_) left
      split at same
      · cases same
      · exact same
    | none =>
      refine ih (fun d same => ?_) left
      split at same
      · next starts => exact Option.some.inj same ▸ starts
      · cases same

theorem Inert.of_free (free : FreeText text) (closed : openQuote none text = none) : Inert text := by
  intro close depth index rest
  rw [matchingFrom_free free, closed]

end Brackets

/-! Reading of tags in prose. -/

section Prose

variable {name : String} {text tail : List Char} {number : Nat} {lines : List Line}

theorem PlainText.of_not_mem (unsigned : '#' ∉ text) (oneLine : '\n' ∉ text) : PlainText text where
  plain inside := unsigned (inside.subset List.mem_cons_self)
  oneLine := oneLine

theorem FreeText.plain (free : FreeText text) : PlainText text :=
  .of_not_mem free.unsigned free.oneLine

theorem PlainText.readProse (plain : PlainText text) :
    readProse number (Text.trimEnd text) lines = .ok ([], ⟨lines, List.suffix_refl _⟩) := by
  have untagged : interpolation? false (Text.trimEnd text) = none :=
    interpolation?_of_not_infix fun inside =>
      plain.plain (inside.trans (Text.prefix_dropEndWhile Text.isBlank text).isInfix)
  exact readProse_plain untagged

/-- A tag is found behind text in which none begins. -/
theorem interpolation?_append {before : List Char} (plain : ¬['#', '['] <:+: before) (escaped : Bool)
    (tail : List Char) :
    interpolation? escaped (before ++ '#' :: '[' :: tail) =
      some (before.getLast?.elim escaped (· == '\\'), '[' :: tail) := by
  induction before generalizing escaped with
  | nil => rfl
  | cons c before ih =>
    have later : interpolation? escaped (c :: before ++ '#' :: '[' :: tail) =
        interpolation? (c == '\\') (before ++ '#' :: '[' :: tail) := by
      rw [List.cons_append, interpolation?]
      rintro rest rfl same
      cases before with
      | nil => cases same
      | cons c before =>
        cases same
        exact plain (List.prefix_append ['#', '['] before).isInfix
    rw [later, ih fun inside => plain (inside.trans (List.suffix_cons c before).isInfix),
      List.getLast?_cons]
    cases before.getLast? <;> rfl

/-- Behind white space the text of a tag is prose. -/
theorem readLine_named (valid : IsName name) (gap : ∀ c ∈ tail.head?, c = ' ') :
    readLine number (name.toList ++ tail) lines =
      (readProse number tail lines).map fun (nodes, rest) => (.tag name [] nodes, .block, rest) := by
  have ends : ∀ c ∈ tail.head?, Text.isWord c = false ∧ isNameJoint c = false := by
    intro c head
    rw [gap c head]
    decide
  cases tail with
  | nil =>
    rw [readLine_tag (readForm_tag valid ends (readTagAttributes_nil number lines)), readProse_eq]
    rfl
  | cons c tail =>
    obtain rfl := gap c rfl
    have unreserved := splitKeyword?_of_isName valid fun c head => (ends c head).1
    have tagged := splitTagName?_of_isName valid ends
    have bare : readTagAttributes number (' ' :: tail) lines =
        .ok ([], ' ' :: tail, ⟨lines, List.suffix_refl _⟩) := by
      rw [readTagAttributes_eq]
      rfl
    have form : readForm number (name.toList ++ ' ' :: tail) lines =
        .ok (.tag name [] (.prose (' ' :: tail)), ⟨lines, List.suffix_refl _⟩) := by
      rw [readForm_of_word fun c head => valid.head?_append head, unreserved, tagged]
      simp [readTag, tagged, bare, withoutSlash, readTail, Text.isBlank, Except.map]
    rw [readLine_eq, form]
    rfl

theorem readProse_gap (text : List Char) :
    readProse number (' ' :: text) lines = readProse number text lines := by
  rw [readProse_eq, readProse_eq number text]
  rfl

/-- White space in front of prose and behind it is no part of it. -/
theorem readProse_trimmed (text : List Char) :
    readProse number (Text.trimEnd (' ' :: text)) lines = readProse number (Text.trimEnd text) lines := by
  rw [Text.trimEnd, Text.dropEndWhile_cons]
  split
  · next empty =>
    simp only [Bool.and_eq_true, List.isEmpty_iff] at empty
    rw [Text.trimEnd, empty.1]
  · exact readProse_gap _

theorem head?_trimEnd_gap {c : Char} (head : c ∈ (Text.trimEnd (' ' :: text)).head?) : c = ' ' :=
  (Option.some.inj (Text.head?_trimEnd head)).symm

/-- A line that begins with the name of a tag and goes on with prose. -/
theorem readLine_prose (valid : IsName name) (number : Nat) (text : List Char) (lines : List Line) :
    readLine number (name.toList ++ Text.trimEnd (' ' :: text)) lines =
      (readProse number (Text.trimEnd text) lines).map fun (nodes, rest) =>
        (.tag name [] nodes, .block, rest) := by
  rw [readLine_named valid fun c head => head?_trimEnd_gap head, readProse_trimmed]

/-- A template of one line: a tag with prose behind its name. -/
theorem parse_prose (valid : IsName name) (oneLine : '\n' ∉ text) :
    parse (String.ofList (name.toList ++ ' ' :: text)) =
      (readProse 1 (Text.trimEnd text) []).map fun (nodes, _) => [.tag name [] nodes] := by
  have single : '\n' ∉ name.toList ++ ' ' :: text := by simp [valid.trimmed.oneLine, oneLine]
  have first := @readRawLine_start [] _ valid.trimmed (by simp) 1 (' ' :: text)
  have cut : readLines (String.ofList (name.toList ++ ' ' :: text)).toList =
      .ok [⟨1, 0, name.toList ++ Text.trimEnd (' ' :: text)⟩] := by
    rw [if_neg (by simp), List.nil_append] at first
    rw [String.toList_ofList, readLines, splitAt_of_oneLine single, readRawLines, first]
    rfl
  have unchained : elseBranch? (name.toList ++ Text.trimEnd (' ' :: text)) = none := by
    refine elseBranch?_of_isName valid fun c head => ?_
    rw [head?_trimEnd_gap head]
    decide
  have read := readLine_prose valid 1 text []
  cases prose : readProse 1 (Text.trimEnd text) [] with
  | error error =>
    rw [prose] at read
    exact parse_line_error cut unchained read
  | ok result =>
    obtain ⟨nodes, rest, suffix⟩ := result
    obtain rfl := List.suffix_nil.1 suffix
    rw [prose] at read
    refine parse_line cut unchained read (readChildren_block_nil 0) ?_
    simp [Node.extend]

end Prose

/-! Tags in a line. -/

section Lines

variable {piece : Interpolated} {number : Nat} {lines : List Line}

namespace Interpolated

theorem inert_lead (readable : piece.Readable) : Inert (piece.name.toList ++ [' ']) :=
  (Inert.of_plain fun c member => .of_class (by decide) (readable.named.word c member)).append
    (.of_blank (by simp [Text.isBlank]))

theorem interpolation?_print (readable : piece.Readable) (rest : List Char) :
    interpolation? false (piece.print ++ rest) = some (false, '[' :: (piece.inner ++ ']' :: rest)) := by
  have found := interpolation?_append readable.plain.plain false (piece.inner ++ ']' :: rest)
  have unescaped : piece.before.getLast?.elim false (· == '\\') = false := by
    cases last : piece.before.getLast? with
    | none => rfl
    | some c => exact beq_false_of_ne (readable.unescaped c last)
  rw [unescaped] at found
  simpa [print] using found

/-- A tag whose quotes are closed is read, and then what follows its bracket. -/
theorem readProse_closed (readable : piece.Readable) (closed : piece.Closed) (rest : List Char) :
    readProse number (piece.print ++ rest) lines =
      (readProse number rest lines).map fun (nodes, left) => (piece.tag :: nodes, left) := by
  have inert : Inert piece.inner := by
    have := (inert_lead readable).append (.of_free readable.free closed)
    simpa [inner] using this
  have bracket : matchingBracket? ']' ('[' :: (piece.inner ++ ']' :: rest)) = some (piece.inner.length + 1) :=
    matchingBracket?_enclosed inert rfl rfl rest
  have tag : readLine number (Text.trim piece.inner) lines =
      .ok (piece.tag, .block, ⟨lines, List.suffix_refl _⟩) := by
    rw [inner, readable.named.trimmed.trim_append_end, readLine_prose readable.named number,
      readable.free.plain.readProse]
    rfl
  rw [readProse_eq, interpolation?_print readable]
  simp [bracket, tag, Except.bind]

/-- A quote that is open behind a tag, and closed nowhere, hides its bracket. -/
theorem readProse_unclosed (readable : piece.Readable) {q : Char} {rest : List Char}
    (left : openQuote none piece.text = some q) (unclosed : q ∉ rest) :
    readProse number (piece.print ++ rest) lines = .error ⟨number, .unclosedInterpolation⟩ := by
  have quotes := isQuote_of_openQuote (by simp) left
  have hidden : q ∉ ']' :: rest := by
    refine List.not_mem_cons_of_ne_of_not_mem ?_ unclosed
    rintro rfl
    contradiction
  have bracket : matchingBracket? ']' ('[' :: (piece.inner ++ ']' :: rest)) = none := by
    rw [matchingBracket?, matchingFrom, if_neg (by decide), inner, List.append_assoc, List.cons_append]
    have lead := inert_lead readable ']' 0 1 (piece.text ++ ']' :: rest)
    simp only [List.append_assoc, List.singleton_append] at lead
    refine lead.trans ?_
    rw [matchingFrom_free readable.free, left, matchingFrom_quoted hidden]
  rw [readProse_eq, interpolation?_print readable]
  simp [bracket]

/-- Tags whose quotes are closed are read one after the other. -/
theorem readProse_prints {pieces : List Interpolated} (readable : ∀ piece ∈ pieces, piece.Readable)
    (closed : ∀ piece ∈ pieces, piece.Closed) (rest : List Char) :
    readProse number (pieces.flatMap print ++ rest) lines =
      (readProse number rest lines).map fun (nodes, left) => (pieces.map tag ++ nodes, left) := by
  induction pieces with
  | nil =>
    rw [List.flatMap_nil, List.nil_append]
    cases readProse number rest lines <;> rfl
  | cons piece pieces ih =>
    obtain ⟨first, others⟩ := List.forall_mem_cons.1 readable
    obtain ⟨ends, following⟩ := List.forall_mem_cons.1 closed
    rw [List.flatMap_cons, List.append_assoc, readProse_closed first ends, ih others following]
    cases readProse number rest lines <;> rfl

/-- A tag ends with its bracket, so nothing of it is trimmed. -/
theorem trimEnd_print (piece : Interpolated) (rest : List Char) :
    Text.trimEnd (piece.print ++ rest) = piece.print ++ Text.trimEnd rest := by
  have solid : Text.isBlank ']' = false := rfl
  have kept := Text.dropEndWhile_append_cons solid (piece.before ++ '#' :: '[' :: piece.inner) rest
  simpa [print, Text.trimEnd] using kept

theorem trimEnd_prints (pieces : List Interpolated) (rest : List Char) :
    Text.trimEnd (pieces.flatMap print ++ rest) = pieces.flatMap print ++ Text.trimEnd rest := by
  induction pieces with
  | nil => rfl
  | cons piece pieces ih =>
    rw [List.flatMap_cons, List.append_assoc, trimEnd_print, ih, List.append_assoc]

theorem Readable.newline_not_mem_print (readable : piece.Readable) : '\n' ∉ piece.print := by
  simp [print, inner, readable.plain.oneLine, readable.named.trimmed.oneLine, readable.free.oneLine]

theorem newline_not_mem_prints {pieces : List Interpolated}
    (readable : ∀ piece ∈ pieces, piece.Readable) : '\n' ∉ pieces.flatMap print := by
  rw [List.mem_flatMap]
  rintro ⟨piece, listed, member⟩
  exact (readable piece listed).newline_not_mem_print member

end Interpolated

/-- A line with tags in its prose. If the quotes in each tag are closed, each is a tag without children. If
not, the first tag with an open quote is at fault, as far as nothing behind it closes the quote. -/
theorem parse_interpolated {name : String} (valid : IsName name) {pieces : List Interpolated}
    (readable : ∀ piece ∈ pieces, piece.Readable) (closed : ∀ piece ∈ pieces, piece.Closed) :
    (∀ after, PlainText after →
      parse (String.ofList (name.toList ++ ' ' :: (pieces.flatMap Interpolated.print ++ after))) =
        .ok [.tag name [] (pieces.map Interpolated.tag)]) ∧
    ∀ piece : Interpolated, piece.Readable → ∀ q, openQuote none piece.text = some q →
      ∀ rest, q ∉ rest → '\n' ∉ rest →
        parse (String.ofList
            (name.toList ++ ' ' :: (pieces.flatMap Interpolated.print ++ (piece.print ++ rest)))) =
          .error ⟨1, .unclosedInterpolation⟩ := by
  have oneLine := Interpolated.newline_not_mem_prints readable
  constructor
  · intro after plain
    have single : '\n' ∉ pieces.flatMap Interpolated.print ++ after := by
      rw [List.mem_append]
      exact not_or.2 ⟨oneLine, plain.oneLine⟩
    rw [parse_prose valid single, Interpolated.trimEnd_prints, Interpolated.readProse_prints readable closed,
      plain.readProse]
    simp [Except.map]
  · intro piece ends q left rest unclosed ended
    have single : '\n' ∉ pieces.flatMap Interpolated.print ++ (piece.print ++ rest) := by
      rw [List.mem_append, List.mem_append]
      exact not_or.2 ⟨oneLine, not_or.2 ⟨ends.newline_not_mem_print, ended⟩⟩
    have hidden : q ∉ Text.trimEnd rest := fun member =>
      unclosed ((Text.prefix_dropEndWhile Text.isBlank rest).subset member)
    rw [parse_prose valid single, Interpolated.trimEnd_prints, Interpolated.trimEnd_print,
      Interpolated.readProse_prints readable closed, Interpolated.readProse_unclosed ends left hidden]
    rfl

/-- A tag with two quotes that are closed and with apostrophes around it, and one with an apostrophe in it. -/
theorem parse_interpolated_quotes :
    IsName "p" ∧
    (∀ piece ∈ [(⟨"don't ".toList, "b", "'see' \"it\"".toList⟩ : Interpolated)],
      piece.Readable ∧ piece.Closed) ∧
    (⟨" or ".toList, "i", "it's".toList⟩ : Interpolated).Readable ∧
    openQuote none "it's".toList = some '\'' ∧
    parse "p don't #[b 'see' \"it\"] o'clock" = .ok [.tag "p" [] [.tag "b" [] []]] ∧
    parse "p don't #[b 'see' \"it\"] or #[i it's] here" = .error ⟨1, .unclosedInterpolation⟩ := by
  have named : IsName "p" := by decide
  have quoted : (⟨"don't ".toList, "b", "'see' \"it\"".toList⟩ : Interpolated).Readable :=
    ⟨.of_not_mem (by decide) (by decide), by simp, by decide, .of_all (by decide)⟩
  have apostrophe : (⟨" or ".toList, "i", "it's".toList⟩ : Interpolated).Readable :=
    ⟨.of_not_mem (by decide) (by decide), by simp, by decide, .of_all (by decide)⟩
  have closed : (⟨"don't ".toList, "b", "'see' \"it\"".toList⟩ : Interpolated).Closed := by
    unfold Interpolated.Closed
    decide
  have opened : openQuote none "it's".toList = some '\'' := by decide
  have pieces : ∀ piece ∈ [(⟨"don't ".toList, "b", "'see' \"it\"".toList⟩ : Interpolated)],
      piece.Readable ∧ piece.Closed := by
    simpa using And.intro quoted closed
  obtain ⟨read, failed⟩ := parse_interpolated named (fun piece listed => (pieces piece listed).1)
    fun piece listed => (pieces piece listed).2
  refine ⟨named, pieces, apostrophe, opened, ?_, ?_⟩
  · exact read " o'clock".toList (.of_not_mem (by decide) (by decide))
  · exact failed _ apostrophe _ opened " here".toList (by decide) (by decide)

/-- An apostrophe is taken for a quote. -/
theorem parse_apostrophe :
    FreeText "it's".toList ∧ parse "p see #[b it's] here" = .error ⟨1, .unclosedInterpolation⟩ := by
  exact ⟨.of_all (by decide), by decide +kernel⟩

end Lines

end Querymap.Pug
