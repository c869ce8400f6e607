import Querymap.Proofs.Pug.Levels
import Querymap.Proofs.Pug.Outline

/-! Which indentations are accepted. The reader keeps no stack of open levels: the levels of the blocks
around a line are the open ones, so its comparisons tell whether the line fits. -/
namespace Querymap.Pug

def Row.depths (rows : List Row) : List Nat := rows.map Row.indent

@[simp] theorem Row.depths_nil : Row.depths [] = [] := rfl

@[simp] theorem Row.depths_cons (row : Row) (rows : List Row) :
    Row.depths (row :: rows) = row.indent :: Row.depths rows := rfl

@[simp] theorem Row.depths_append (rows others : List Row) :
    Row.depths (rows ++ others) = Row.depths rows ++ Row.depths others := List.map_append

@[simp] theorem Row.length_depths (rows : List Row) : (Row.depths rows).length = rows.length :=
  List.length_map _

/-- The result for the lines of a block, after the lines `before` it and the nodes in `acc`. Either the
lines up to some line of an outer block fit, or there is a first line that does not. -/
inductive Verdict (parent : Option Nat) (before : List Nat) (acc : Block) (rows : List Row) :
    Except ParseError (Block × List Line) → Prop
  | read {inner left : List Row} {block : Block} {number : Nat} (split : rows = inner ++ left)
      (fit : FitAfter before (Row.depths inner))
      (deeper : ∀ row ∈ inner, ∀ indent ∈ parent, indent < row.indent)
      (outside : ∀ row ∈ left.head?, (∃ indent ∈ parent, row.indent ≤ indent) ∨
        parent = none ∧ ¬Fits (before ++ Row.depths inner) row.indent)
      (grown : block = acc.reverse ++ grow inner)
      (placed : number = before.length + inner.length + 1) :
      Verdict parent before acc rows (.ok (block, Row.lines number left))
  | broken {inner left : List Row} {row : Row} {number : Nat} (split : rows = inner ++ row :: left)
      (fit : FitAfter before (Row.depths inner))
      (misfit : ¬Fits (before ++ Row.depths inner) row.indent)
      (placed : number = before.length + inner.length + 1) :
      Verdict parent before acc rows (.error ⟨number, .inconsistentIndentation⟩)

/-- No level deeper than the parent is open, and every line deeper than it opens one. -/
structure Fresh (parent : Option Nat) (before : List Nat) : Prop where
  opens : ∀ depth, (∀ indent ∈ parent, indent < depth) → Opens before depth
  gap : ∀ depth, (∀ indent ∈ parent, indent < depth) → ¬IsOpen before depth

/-- The lines that are left go on with a block at `level` or leave it. -/
structure Ready (parent : Option Nat) (level : Nat) (before : List Nat) (rows : List Row) : Prop where
  inner : ∀ indent ∈ parent, indent < level
  gap : ∀ depth < level, (∀ indent ∈ parent, indent < depth) → ¬IsOpen before depth
  next : ∀ row ∈ rows.head?, row.indent = level ∧ Fits before level ∨
    row.indent < level ∧ IsOpen before level

section

variable {parent : Option Nat} {level : Nat} {before : List Nat} {acc : Block} {rows : List Row}

theorem fresh_nil : Fresh none [] where
  opens depth _ := by simp [Opens]
  gap depth _ := not_isOpen_nil depth

/-- The line before a block has no open levels below it. -/
theorem fresh_concat (before : List Nat) (level : Nat) : Fresh (some level) (before ++ [level]) where
  opens depth deeper last member := by
    rw [List.getLast?_concat] at member
    cases member
    exact deeper level rfl
  gap depth deeper isOpen := by
    have := deeper level rfl
    rcases isOpen_concat.1 isOpen with ⟨same, _⟩ | ⟨_, shallow⟩ <;> omega

theorem Fresh.ready (fresh : Fresh parent before) {first : Row} {others : List Row}
    (inner : ∀ indent ∈ parent, indent < first.indent) :
    Ready parent first.indent before (first :: others) where
  inner := inner
  gap depth _ := fresh.gap depth
  next := by
    rintro row ⟨⟩
    exact .inl ⟨rfl, .inl (fresh.opens _ inner)⟩

/-- A line that leaves a block fits at no level between those of the block and of its parent. -/
theorem Ready.misfit {row : Row} (ready : Ready parent level before (row :: rows))
    (shallow : row.indent < level) (inside : ∀ indent ∈ parent, indent < row.indent) :
    ¬Fits before row.indent := by
  have isOpen : IsOpen before level := by
    rcases ready.next row rfl with ⟨same, _⟩ | ⟨_, isOpen⟩
    · omega
    · exact isOpen
  rintro (opens | reaches)
  · exact isOpen.not_opens shallow opens
  · exact ready.gap _ shallow inside reaches

theorem Ready.fits {row : Row} (ready : Ready parent row.indent before (row :: rows)) :
    Fits before row.indent := by
  rcases ready.next row rfl with ⟨_, fits⟩ | ⟨less, _⟩
  · exact fits
  · exact absurd less (Nat.lt_irrefl _)

/-- After a line of a block and the lines below it, the block is ready for the next one. -/
theorem Ready.after {row : Row} {inner left : List Row}
    (ready : Ready parent row.indent before (row :: rows))
    (deeper : ∀ other ∈ inner, row.indent < other.indent)
    (shallow : ∀ next ∈ left.head?, next.indent ≤ row.indent) :
    Ready parent row.indent (before ++ Row.depths (row :: inner)) left := by
  have deep : ∀ depth ∈ Row.depths inner, row.indent < depth := by
    simpa [Row.depths] using deeper
  have isOpen : IsOpen (before ++ Row.depths (row :: inner)) row.indent := by
    rw [Row.depths_cons, List.append_cons]
    exact ready.fits.isOpen.append fun depth member => Nat.le_of_lt (deep depth member)
  refine ⟨ready.inner, fun depth less inside reaches => ?_, fun next head => ?_⟩
  -- A shallower level that is open now was open before: the lines since are deeper.
  · have earlier : IsOpen before depth := by
      refine reaches.of_append fun other member => ?_
      rcases List.mem_cons.1 member with rfl | below
      · exact less
      · exact Nat.lt_trans less (deep other below)
    exact ready.gap depth less inside earlier
  · rcases Nat.lt_or_eq_of_le (shallow next head) with less | same
    · exact .inr ⟨less, isOpen⟩
    · exact .inl ⟨same, .inr isOpen⟩

/-- Lines of a block before the rest of it, whose nodes are `nodes`. -/
theorem Verdict.prepend {first left : List Row} {nodes : Block}
    {result : Except ParseError (Block × List Line)} (fit : FitAfter before (Row.depths first))
    (deeper : ∀ row ∈ first, ∀ indent ∈ parent, indent < row.indent)
    (grows : ∀ later after, left = later ++ after →
      nodes.reverse ++ grow later = acc.reverse ++ grow (first ++ later))
    (verdict : Verdict parent (before ++ Row.depths first) nodes left result) :
    Verdict parent before acc (first ++ left) result := by
  have length (later : List Row) : (before ++ Row.depths first).length + later.length + 1 =
      before.length + (first ++ later).length + 1 := by
    simp [Nat.add_assoc]
  cases verdict with
  | @read later left block number split rest deep outside grown placed =>
    refine @Verdict.read parent before acc _ (first ++ later) left block number (by simp [split]) ?_ ?_ ?_
      (grown.trans (grows later left split)) (placed.trans (length later))
    · rw [Row.depths_append, fitAfter_append]
      exact ⟨fit, rest⟩
    · exact List.forall_mem_append.2 ⟨deeper, deep⟩
    · rwa [Row.depths_append, ← List.append_assoc]
  | @broken later left other number split rest misfit placed =>
    refine @Verdict.broken parent before acc _ (first ++ later) left other number (by simp [split]) ?_ ?_
      (placed.trans (length later))
    · rw [Row.depths_append, fitAfter_append]
      exact ⟨fit, rest⟩
    · rwa [Row.depths_append, ← List.append_assoc]

/-- A line and the lines below it before the rest of its block. -/
theorem Verdict.cons {row : Row} {inner left : List Row}
    {result : Except ParseError (Block × List Line)}
    (ready : Ready parent row.indent before (row :: rows)) (split : rows = inner ++ left)
    (fit : FitAfter (before ++ [row.indent]) (Row.depths inner))
    (deeper : ∀ other ∈ inner, row.indent < other.indent)
    (shallow : ∀ next ∈ left.head?, next.indent ≤ row.indent)
    (verdict : Verdict parent (before ++ Row.depths (row :: inner)) (row.tag (grow inner) :: acc) left
      result) : Verdict parent before acc (row :: rows) result := by
  rw [split, ← List.cons_append]
  refine verdict.prepend ⟨ready.fits, fit⟩ ?_ fun later after rest => ?_
  · refine List.forall_mem_cons.2 ⟨ready.inner, fun other member indent outer => ?_⟩
    exact Nat.lt_trans (ready.inner indent outer) (deeper other member)
  · have shallow' : ∀ next ∈ later.head?, next.indent ≤ row.indent := fun next head =>
      shallow next (by simp [rest, Option.mem_def.1 head])
    rw [List.cons_append, grow_cons deeper shallow', List.reverse_cons, List.append_assoc,
      List.singleton_append]

/-- A line that fits nowhere among the lines below a line. -/
theorem Ready.below {row : Row} {inner left : List Row} {misfit : Row} {number : Nat}
    (ready : Ready parent row.indent before (row :: rows)) (split : rows = inner ++ misfit :: left)
    (fit : FitAfter (before ++ [row.indent]) (Row.depths inner))
    (broken : ¬Fits (before ++ [row.indent] ++ Row.depths inner) misfit.indent)
    (placed : number = (before ++ [row.indent]).length + inner.length + 1) :
    Verdict parent before acc (row :: rows) (.error ⟨number, .inconsistentIndentation⟩) := by
  subst split
  refine @Verdict.broken parent before acc _ (row :: inner) left misfit number rfl ⟨ready.fits, fit⟩ ?_ ?_
  · rwa [Row.depths_cons, List.append_cons]
  · rw [placed, List.length_append, List.length_cons, List.length_cons, List.length_nil]
    omega

/-- A line that leaves a block belongs to one around it, or fits nowhere. -/
theorem Ready.leave {row : Row} (ready : Ready parent level before (row :: rows))
    (shallow : row.indent < level) :
    Verdict parent before acc (row :: rows)
      (if parent.any (· < row.indent) then .error ⟨before.length + 1, .inconsistentIndentation⟩
      else .ok (acc.reverse, Row.lines (before.length + 1) (row :: rows))) := by
  have misfit := ready.misfit shallow
  rw [← List.append_nil before, ← Row.depths_nil] at misfit
  cases parent with
  | none =>
    refine @Verdict.read none before acc _ [] (row :: rows) acc.reverse _ rfl trivial (by simp) ?_
      (List.append_nil _).symm rfl
    rintro next ⟨⟩
    exact .inr ⟨rfl, misfit (by simp)⟩
  | some indent =>
    split
    · next between =>
      refine @Verdict.broken (some indent) before acc _ [] rows row _ rfl trivial (misfit ?_) rfl
      simpa using between
    · next inside =>
      refine @Verdict.read (some indent) before acc _ [] (row :: rows) acc.reverse _ rfl trivial
        (by simp) ?_ (List.append_nil _).symm rfl
      rintro next ⟨⟩
      exact .inl ⟨indent, rfl, by simpa using inside⟩

end

/-! One line at a time. -/

/-- A line at the level of a block, with the result for the lines below it. -/
theorem readNodes_row {parent : Option Nat} {number : Nat} (row : Row) (others : List Row) (acc : Block) :
    erase (readNodes parent row.indent acc (Row.lines number (row :: others))) =
      (erase (readBlock (some row.indent) (Row.lines (number + 1) others))).bind fun (nodes, left) =>
        erase (readNodes parent row.indent (row.tag nodes :: acc) left) := by
  have read := row.readLine_text number (Row.lines (number + 1) others)
  refine (@readNodes_cons _ _ _ (row.line number) _ _ _ _ rfl row.elseBranch?_text read).trans ?_
  rw [readChildren]
  rfl

mutual

theorem readNodes_verdict {parent : Option Nat} {level : Nat} {before : List Nat} (acc : Block) :
    (rows : List Row) → Ready parent level before rows → Verdict parent before acc rows
      (erase (readNodes parent level acc (Row.lines (before.length + 1) rows)))
  | [], _ => by
    rw [Row.lines, readNodes]
    exact @Verdict.read parent before acc [] [] [] acc.reverse _ rfl trivial (by simp) (by simp)
      (List.append_nil _).symm rfl
  | row :: others, ready => by
    rcases ready.next row rfl with ⟨rfl, fits⟩ | ⟨shallow, isOpen⟩
    -- The lines below the line are a block of their own; what they leave goes on at its level.
    · rw [readNodes_row]
      have below := readBlock_verdict others (fresh_concat before row.indent)
      rw [List.length_append, List.length_singleton] at below
      generalize erase (readBlock (some row.indent) (Row.lines (before.length + 1 + 1) others)) = result
        at below
      cases below with
      | broken split fit broken placed => exact ready.below split fit broken placed
      | @read inner left block number split fit deeper outside grown placed =>
        subst grown
        have deep : ∀ other ∈ inner, row.indent < other.indent := fun other member =>
          deeper other member _ rfl
        have shallow : ∀ next ∈ left.head?, next.indent ≤ row.indent := by
          intro next head
          rcases outside next head with ⟨_, ⟨⟩, shallow⟩ | ⟨top, _⟩
          · exact shallow
          · contradiction
        have smaller : left.length ≤ others.length := by simp [split]
        have rest := readNodes_verdict (row.tag (grow inner) :: acc) left (ready.after deep shallow)
        have same : number = (before ++ Row.depths (row :: inner)).length + 1 := by
          simp only [placed, List.length_append, Row.length_depths, List.length_cons, List.length_nil]
          omega
        exact Verdict.cons ready split fit deep shallow (same ▸ rest)
    · rw [Row.lines, @readNodes_shallow _ _ _ (row.line _) _ shallow]
      exact ready.leave shallow
termination_by rows => 2 * rows.length

theorem readBlock_verdict {parent : Option Nat} {before : List Nat} :
    (rows : List Row) → Fresh parent before → Verdict parent before [] rows
      (erase (readBlock parent (Row.lines (before.length + 1) rows)))
  | [], _ => by
    rw [Row.lines, readBlock]
    exact @Verdict.read parent before [] [] [] [] [] _ rfl trivial (by simp) (by simp) rfl rfl
  | first :: others, fresh => by
    rw [Row.lines, readBlock]
    split
    · next above =>
      obtain ⟨indent, same, shallow⟩ := (Option.any_eq_true _ _).1 above
      refine @Verdict.read parent before [] _ [] (first :: others) [] _ rfl trivial (by simp) ?_ rfl rfl
      rintro next ⟨⟩
      exact .inl ⟨indent, same, of_decide_eq_true shallow⟩
    · next below =>
      refine readNodes_verdict [] (first :: others) (fresh.ready fun indent same => ?_)
      rw [Option.mem_def.1 same, Option.any_some, decide_eq_true_eq] at below
      exact Nat.lt_of_not_le below
termination_by rows => 2 * rows.length + 1

end

/-- The first line that does not fit. -/
def FirstMisfit (rows before : List Row) (row : Row) : Prop :=
  (∃ after, rows = before ++ row :: after) ∧ WellIndented (Row.depths before) ∧
    ¬Fits (Row.depths before) row.indent

theorem FirstMisfit.not_wellIndented {rows before : List Row} {row : Row}
    (misfit : FirstMisfit rows before row) : ¬WellIndented (Row.depths rows) := by
  obtain ⟨⟨after, rfl⟩, _, unfit⟩ := misfit
  rw [Row.depths_append, WellIndented, fitAfter_append, List.nil_append]
  exact fun ⟨_, fits, _⟩ => unfit fits

/-- The reader accepts lines that all fit, and stops at the first one that does not. -/
theorem parse_template_cases (rows : List Row) (ended : Bool) :
    (WellIndented (Row.depths rows) ∧ parse (Row.template rows ended) = .ok (grow rows)) ∨
      ∃ before row, FirstMisfit rows before row ∧ parse (Row.template rows ended) =
        .error ⟨before.length + 1, .inconsistentIndentation⟩ := by
  have cut := Row.readLines_template rows ended
  have verdict := readBlock_verdict rows fresh_nil
  generalize result : erase (readBlock none (Row.lines ([].length + 1) rows)) = found at verdict
  cases verdict with
  | @read inner left block number split fit deeper outside grown placed =>
    cases left with
    | nil =>
      rw [List.append_nil] at split
      subst split grown
      exact .inl ⟨fit, parse_of_lines cut result⟩
    | cons row left =>
      rcases outside row rfl with ⟨_, ⟨⟩, _⟩ | ⟨_, misfit⟩
      refine .inr ⟨inner, row, ⟨⟨left, split⟩, fit, misfit⟩, ?_⟩
      rw [parse_of_left cut result, placed]
      simp [Row.line]
  | @broken inner left row number split fit misfit placed =>
    refine .inr ⟨inner, row, ⟨⟨left, split⟩, fit, misfit⟩, ?_⟩
    rw [parse_of_error cut result, placed]
    simp

/-- What the indentation of the lines decides: whether there is a result, its tree, and the error. -/
structure DecidedByIndentation (rows : List Row) (result : Except ParseError Block) : Prop where
  ok_iff : (∃ block, result = .ok block) ↔ WellIndented (Row.depths rows)
  outlines : ∀ block, result = .ok block → Outlines rows block
  misfit : ¬WellIndented (Row.depths rows) → ∃ before row, FirstMisfit rows before row ∧
    ∃ error, result = .error error ∧ error.line = before.length + 1 ∧
      error.fault.message = "Inconsistent indentation"

theorem parse_template (rows : List Row) (ended : Bool) :
    DecidedByIndentation rows (parse (Row.template rows ended)) := by
  rcases parse_template_cases rows ended with ⟨fit, read⟩ | ⟨before, row, misfit, broken⟩
  · rw [read]
    refine ⟨⟨fun _ => fit, fun _ => ⟨_, rfl⟩⟩, ?_, fun unfit => absurd fit unfit⟩
    rintro block ⟨⟩
    exact outlines_grow rows
  · rw [broken]
    refine ⟨⟨?_, fun fit => absurd fit misfit.not_wellIndented⟩, ?_, fun _ => ?_⟩
    · rintro ⟨_, ⟨⟩⟩
    · rintro _ ⟨⟩
    · exact ⟨before, row, misfit, _, rfl, rfl, rfl⟩

end Querymap.Pug
