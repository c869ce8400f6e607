import Querymap.Proofs.Pug.Mirror
import Querymap.Proofs.Text.Trim

/-! Templates that differ in layout alone: in blank lines, in white space at the ends of lines, and in how
deep and with what they are indented. They are the same template but for the numbers of their lines. -/
namespace Querymap.Pug

def rawLines (content : String) : List (List Char) :=
  Text.splitAt (· == '\n') content.toList

/-- The white space in front of a line. -/
def margin (raw : List Char) : List Char := raw.takeWhile Text.isBlank

def Unmixed (raw : List Char) : Prop := ¬(' ' ∈ margin raw ∧ '\t' ∈ margin raw)

/-- A line set anew: the same text behind spaces or tabs, which are as many as the column is deep. -/
structure Reset (column : Nat → Nat) (raw other : List Char) : Prop where
  text : Text.trim other = Text.trim raw
  indentation : Text.trim raw ≠ [] → ∃ c, (c = ' ' ∨ c = '\t') ∧
    margin other = List.replicate (column (margin raw).length) c

/-- Lines set anew, with blank lines among them. The lines get the given numbers; `next` is the number of
the first one of the new lines. -/
inductive Relaid (column : Nat → Nat) :
    (next : Nat) → (lines others : List (List Char)) → (numbers : List Nat) → Prop
  | done {next : Nat} : Relaid column next [] [] []
  | inserted {next : Nat} {blank : List Char} {lines others : List (List Char)} {numbers : List Nat}
      (empty : Text.trim blank = []) (rest : Relaid column (next + 1) lines others numbers) :
      Relaid column next lines (blank :: others) numbers
  | kept {next : Nat} {raw other : List Char} {lines others : List (List Char)} {numbers : List Nat}
      (reset : Reset column raw other) (rest : Relaid column (next + 1) lines others numbers) :
      Relaid column next (raw :: lines) (other :: others) (next :: numbers)

/-- A line set anew by the letter: another indentation, and more white space at the end. -/
theorem reset_append {column : Nat → Nat} {raw ending : List Char} {c : Char}
    (fill : c = ' ' ∨ c = '\t') (blank : ∀ d ∈ ending, Text.isBlank d = true) :
    Reset column raw (List.replicate (column (margin raw).length) c ++
      (raw.dropWhile Text.isBlank ++ ending)) := by
  have filled : ∀ d ∈ List.replicate (column (margin raw).length) c, Text.isBlank d = true := by
    intro d member
    rw [List.eq_of_mem_replicate member]
    rcases fill with rfl | rfl <;> rfl
  have solid := List.head?_dropWhile_not Text.isBlank raw
  have whole : Text.trim raw = Text.trimEnd (raw.dropWhile Text.isBlank) := rfl
  cases text : raw.dropWhile Text.isBlank with
  | nil =>
    rw [text] at whole
    refine ⟨?_, fun written => absurd whole written⟩
    have empty : Text.trimStart (List.replicate (column (margin raw).length) c ++ ending) = [] :=
      List.dropWhile_eq_nil_iff.2 (List.forall_mem_append.2 ⟨filled, blank⟩)
    rw [whole, List.nil_append, Text.trim, empty]
  | cons first rest =>
    rw [text] at whole solid
    have stop : ∀ d ∈ (first :: rest ++ ending).head?, Text.isBlank d = false := by
      rintro d ⟨⟩
      exact solid
    constructor
    · rw [whole, Text.trim, Text.trimStart, Text.dropWhile_append_all filled stop]
      exact Text.dropEndWhile_append_all (first :: rest) blank
    · intro _
      exact ⟨c, fill, Text.takeWhile_append_all filled stop⟩

variable {layout : LineLayout} {number next : Nat} {raw other : List Char}

theorem readRawLine_blank (number : Nat) (blank : Text.trim raw = []) :
    readRawLine number raw = .ok none := by
  simp [readRawLine, blank]

theorem readRawLine_text (number : Nat) (written : Text.trim raw ≠ []) (unmixed : Unmixed raw) :
    readRawLine number raw = .ok (some ⟨number, (margin raw).length, Text.trim raw⟩) := by
  have alone := not_and.1 unmixed
  rw [margin] at alone
  simpa [readRawLine, written, margin] using alone

theorem Reset.unmixed (reset : Reset layout.column raw other) (written : Text.trim raw ≠ []) :
    Unmixed other := by
  obtain ⟨c, fill, indentation⟩ := reset.indentation written
  rw [Unmixed, indentation]
  rintro ⟨space, tab⟩
  have apart : ' ' ≠ '\t' := by decide
  exact apart ((List.eq_of_mem_replicate space).trans (List.eq_of_mem_replicate tab).symm)

theorem Reset.readRawLine (reset : Reset layout.column raw other) (unmixed : Unmixed raw) (number : Nat) :
    ∃ line, Pug.readRawLine number raw = .ok line ∧
      Pug.readRawLine (layout.number number) other = .ok (line.map layout.line) := by
  by_cases written : Text.trim raw = []
  · exact ⟨none, readRawLine_blank number written,
      readRawLine_blank _ (reset.text.trans written)⟩
  · obtain ⟨c, fill, indentation⟩ := reset.indentation written
    refine ⟨_, readRawLine_text number written unmixed, ?_⟩
    rw [readRawLine_text _ (reset.text ▸ written) (reset.unmixed written), indentation, reset.text,
      List.length_replicate]
    rfl

theorem Relaid.readRawLines {lines others : List (List Char)} {numbers : List Nat}
    (relaid : Relaid layout.column next lines others numbers)
    (unmixed : ∀ raw ∈ lines, Unmixed raw)
    (placed : ∀ index (inside : index < numbers.length),
      layout.number (number + index) = numbers[index]) :
    ∃ read, Pug.readRawLines number lines = .ok read ∧
      Pug.readRawLines next others = .ok (read.map layout.line) := by
  induction relaid generalizing number with
  | done => exact ⟨[], rfl, rfl⟩
  | inserted empty _ ih =>
    obtain ⟨read, first, second⟩ := ih unmixed placed
    refine ⟨read, first, ?_⟩
    rw [Pug.readRawLines, readRawLine_blank _ empty, second]
    rfl
  | @kept next raw other lines others numbers reset _ ih =>
    obtain ⟨own, lower⟩ := List.forall_mem_cons.1 unmixed
    have here : layout.number number = next := placed 0 (Nat.zero_lt_succ _)
    obtain ⟨line, first, second⟩ := reset.readRawLine own number
    obtain ⟨read, first', second'⟩ := @ih (number + 1) lower fun index inside => by
      have := placed (index + 1) (Nat.succ_lt_succ inside)
      rwa [List.getElem_cons_succ, Nat.add_comm index, ← Nat.add_assoc] at this
    refine ⟨line.toList ++ read, ?_, ?_⟩
    · rw [Pug.readRawLines, first, first']
      rfl
    · rw [Pug.readRawLines, ← here, second, here, second', List.map_append]
      cases line <;> rfl

/-- Another layout gives the same template, or the same fault, with other numbers for the lines. -/
theorem parse_relaid (column : Nat → Nat) (increasing : StrictMono column) (content other : String)
    (numbers : List Nat) (relaid : Relaid column 1 (rawLines content) (rawLines other) numbers)
    (unmixed : ∀ raw ∈ rawLines content, Unmixed raw) :
    parse other = renumbered (fun number => numbers.getD (number - 1) number) (parse content) := by
  let layout : LineLayout := ⟨fun number => numbers.getD (number - 1) number, column, increasing⟩
  have placed : ∀ index (inside : index < numbers.length),
      layout.number (1 + index) = numbers[index] := by
    intro index inside
    change numbers.getD (1 + index - 1) (1 + index) = numbers[index]
    rw [Nat.add_sub_cancel_left, List.getD_eq_getElem?_getD, List.getElem?_eq_getElem inside,
      Option.getD_some]
  obtain ⟨lines, first, second⟩ := @Relaid.readRawLines layout 1 1 _ _ _ relaid unmixed placed
  rw [parse_eq_whole first, parse_eq_whole second]
  exact whole_moved layout lines

/-- Blank lines, tabs or spaces, and line ends of another kind. -/
theorem parse_relaid_list :
    Relaid (2 * · + 1) 1 (rawLines "ul\n li #[b x]\n include part")
      (rawLines "\n\tul\r\n \t \n\t\t\tli #[b x]  \r\n   include part\r\n") [2, 4, 5] ∧
    parse "\n\tul\r\n \t \n\t\t\tli #[b x]  \r\n   include part\r\n" =
      renumbered (fun number => [2, 4, 5].getD (number - 1) number)
        (parse "ul\n li #[b x]\n include part") := by
  have increasing : StrictMono (2 * · + 1) := by
    intro a b less
    dsimp only
    omega
  have lines : rawLines "ul\n li #[b x]\n include part" =
      ["ul".toList, " li #[b x]".toList, " include part".toList] := by
    decide
  have others : rawLines "\n\tul\r\n \t \n\t\t\tli #[b x]  \r\n   include part\r\n" =
      [[], "\tul\r".toList, " \t ".toList, "\t\t\tli #[b x]  \r".toList,
        "   include part\r".toList, []] := by
    decide
  have unmixed : ∀ raw ∈ rawLines "ul\n li #[b x]\n include part", Unmixed raw := by
    rw [lines]
    unfold Unmixed
    decide
  have list : Reset (2 * · + 1) "ul".toList "\tul\r".toList :=
    @reset_append _ "ul".toList "\r".toList '\t' (.inr rfl) (List.all_eq_true.1 (by decide))
  have item : Reset (2 * · + 1) " li #[b x]".toList "\t\t\tli #[b x]  \r".toList :=
    @reset_append _ " li #[b x]".toList "  \r".toList '\t' (.inr rfl) (List.all_eq_true.1 (by decide))
  have part : Reset (2 * · + 1) " include part".toList "   include part\r".toList :=
    @reset_append _ " include part".toList "\r".toList ' ' (.inl rfl) (List.all_eq_true.1 (by decide))
  have relaid : Relaid (2 * · + 1) 1 (rawLines "ul\n li #[b x]\n include part")
      (rawLines "\n\tul\r\n \t \n\t\t\tli #[b x]  \r\n   include part\r\n") [2, 4, 5] := by
    rw [lines, others]
    exact .inserted rfl (.kept list (.inserted rfl (.kept item (.kept part (.inserted rfl .done)))))
  exact ⟨relaid, parse_relaid _ increasing _ _ _ relaid unmixed⟩

end Querymap.Pug
