import Querymap.Proofs.Pug.Extended

/-! One line in a template, which may have one of two texts, and two ways to go on behind it. The lines before
it are read without a look at it or at what follows; so if the line itself is the same with both, the template
is. -/
namespace Querymap.Pug

/-- Lines that start, if there are any, as deep as a given column. -/
def StartsAt (indent : Nat) (lines : List Line) : Prop := ∀ first ∈ lines.head?, first.indent = indent

/-- A call without a name: no text, no comment and no filter, but as a line of its own it is refused. -/
def nameless (number indent : Nat) : Line := ⟨number, indent, ['+']⟩

/-- A reading that comes to some lines: either `first` and `rest`, or another text in the place of the first one
and `rest'`. Either these lines are not read for themselves: a list is open before them, or they are passed
over. Or the reading stops in front of them. Or it is the same with both. -/
inductive Blind (number : Nat) (first : Line) (text : List Char) (rest rest' : List Line)
    (read : List Line → Except ParseError (Block × List Line)) : Prop
  | open (unclosed : IsOpenList (read []))
  | passed (block : Block) (skips : read [nameless number first.indent] = .ok (block, []))
  | ahead (block : Block) (left : List Line)
      (stops : ∀ lines, StartsAt first.indent lines → read lines = .ok (block, left ++ lines))
  | same (equal : read (first :: rest) = read (⟨first.number, first.indent, text⟩ :: rest'))

section Blind

variable {number : Nat} {first : Line} {text : List Char} {rest rest' : List Line}

theorem startsAt_nil (indent : Nat) : StartsAt indent [] := by simp [StartsAt]

theorem startsAt_cons {line : Line} {lines : List Line} : StartsAt line.indent (line :: lines) := by
  simp [StartsAt]

theorem startsAt_replaced {lines : List Line} :
    StartsAt first.indent (⟨first.number, first.indent, text⟩ :: lines) := by
  simp [StartsAt]

theorem startsAt_nameless {indent : Nat} : StartsAt indent [nameless number indent] := by
  simp [StartsAt, nameless]

theorem StartsAt.outside {indent level : Nat} {lines : List Line} (starts : StartsAt indent lines)
    (shallow : indent ≤ level) : Outside (some level) lines := by
  intro line head
  exact ⟨level, rfl, (starts line head).trans_le shallow⟩

theorem Blind.congr {read read' : List Line → Except ParseError (Block × List Line)}
    (blind : Blind number first text rest rest' read)
    (agree : ∀ lines, StartsAt first.indent lines → read' lines = read lines) :
    Blind number first text rest rest' read' := by
  cases blind with
  | «open» unclosed => exact .open (agree _ (startsAt_nil _) ▸ unclosed)
  | passed block skips => exact .passed block (agree _ startsAt_nameless ▸ skips)
  | ahead block left stops =>
    exact .ahead block left fun lines starts => (agree lines starts).trans (stops lines starts)
  | same equal => exact .same (by rw [agree _ startsAt_cons, agree _ startsAt_replaced, equal])

/-- One reading after the other. -/
theorem Blind.bind {read : List Line → Except ParseError (Block × List Line)}
    {next : Block → List Line → Except ParseError (Block × List Line)}
    (blind : Blind number first text rest rest' read)
    (ends : ∀ block, ∃ block', next block [] = .ok (block', []))
    (following : ∀ block left, read [] = .ok (block, left) →
      Blind number first text rest rest' fun lines => next block (left ++ lines)) :
    Blind number first text rest rest' fun lines => (read lines).bind fun (block, left) => next block left := by
  cases blind with
  | «open» unclosed =>
    obtain ⟨number, unclosed⟩ := unclosed
    exact .open ⟨number, by rw [unclosed]; rfl⟩
  | passed block skips =>
    obtain ⟨block', ended⟩ := ends block
    refine .passed block' ?_
    rw [skips]
    exact ended
  | ahead block left stops =>
    have left_nil := stops [] (startsAt_nil _)
    rw [List.append_nil] at left_nil
    refine (following block left left_nil).congr fun lines starts => ?_
    rw [stops lines starts]
    rfl
  | same equal => exact .same (by rw [equal])

/-- What is read before the lines in question looks no further than it has to. -/
theorem Blind.extended {α : Type} {β : List Line → Type} {alone : Except ParseError α}
    {longer : (lines : List Line) → Except ParseError (β lines)}
    {same : (lines : List Line) → α → β lines → Prop}
    {next : (lines : List Line) → β lines → Except ParseError (Block × List Line)}
    (extends' : ∀ lines, Extends (same lines) alone (longer lines))
    (unclosed : IsOpenList alone → IsOpenList (longer []))
    (following : ∀ a, alone = .ok a → ∃ read, Blind number first text rest rest' read ∧
      ∀ lines b, same lines a b → next lines b = read lines) :
    Blind number first text rest rest' fun lines => (longer lines).bind (next lines) := by
  cases alone with
  | error error =>
    by_cases incomplete : error.fault = .unclosedParenthesis
    · obtain ⟨line, open'⟩ := unclosed ⟨error.line, by rw [← incomplete]⟩
      exact .open ⟨line, by rw [open']; rfl⟩
    · refine .same ?_
      rw [(extends' _).of_error incomplete, (extends' _).of_error incomplete]
      rfl
  | ok a =>
    obtain ⟨read, blind, goesOn⟩ := following a rfl
    refine blind.congr fun lines _ => ?_
    obtain ⟨b, longer, alike⟩ := (extends' lines).of_ok
    rw [longer]
    exact goesOn lines b alike

theorem readText_blind (indent : Nat) (lines : List Line) :
    Blind number first text rest rest' fun more => erase (readText indent (lines ++ more)) := by
  match lines with
  | [] =>
    by_cases shallow : first.indent ≤ indent
    · exact .ahead [] [] fun more starts => readText_end (starts.outside shallow)
    · refine .passed [] ?_
      have plain : readProse number ['+'] [] = .ok ([], ⟨[], List.suffix_refl _⟩) := readProse_plain rfl
      have deeper : indent < (nameless number first.indent).indent := Nat.lt_of_not_le shallow
      rw [List.nil_append, readText_cons deeper]
      simp only [nameless, plain, Except.bind, readText]
      rfl
  | line :: others =>
    by_cases shallow : line.indent ≤ indent
    · exact .ahead [] (line :: others) fun more _ => readText_end (startsAt_cons.outside shallow)
    · simp only [List.cons_append, readText_cons (Nat.lt_of_not_le shallow)]
      refine Blind.extended (fun more => readProse_extends line.number line.text rfl) ?_ ?_
      · rw [List.append_nil]
        exact id
      · rintro ⟨nodes, left⟩ _
        have fewer := left.2.length_le
        let next (more : Block) (left : List Line) : Except ParseError (Block × List Line) :=
          .ok (nodes ++ more, left)
        refine ⟨_, @Blind.bind _ _ _ _ _ _ next (readText_blind indent left.1)
          (fun block => ⟨nodes ++ block, rfl⟩)
          (fun block left _ => .ahead (nodes ++ block) left fun _ _ => rfl), ?_⟩
        rintro more _ ⟨_, left⟩
        dsimp only
        rw [left]
termination_by lines.length
decreasing_by
  simp only [List.length_cons]
  omega

/-- Where the line in question is not at the level of the nodes, they end in front of it or it is at
fault. -/
theorem readNodes_blind_nil (parent : Option Nat) (level : Nat) (before : Block)
    (passes : ∀ parent before, erase (readNodes parent first.indent before (first :: rest)) =
      erase (readNodes parent first.indent before (⟨first.number, first.indent, text⟩ :: rest'))) :
    Blind number first text rest rest' fun more => erase (readNodes parent level before more) := by
  let other : Line := ⟨first.number, first.indent, text⟩
  rcases Nat.lt_trichotomy first.indent level with shallow | rfl | deep
  · by_cases inside : parent.any (· < first.indent)
    · refine .same ?_
      rw [readNodes_shallow shallow, @readNodes_shallow _ _ _ other _ shallow, if_pos inside, if_pos inside]
    · refine .ahead before.reverse [] fun more starts => ?_
      cases more with
      | nil => exact readNodes_nil parent level before
      | cons line others =>
        have deep : line.indent = first.indent := starts line rfl
        rw [readNodes_shallow (deep ▸ shallow), deep, if_neg inside]
        rfl
  · exact .same (passes parent before)
  · refine .same ?_
    rw [readNodes_deep deep, @readNodes_deep _ _ _ other _ deep]

mutual

theorem readNodes_blind (passes : ∀ parent before,
      erase (readNodes parent first.indent before (first :: rest)) =
        erase (readNodes parent first.indent before (⟨first.number, first.indent, text⟩ :: rest')))
    (parent : Option Nat) (level : Nat) (before : Block) (lines : List Line) :
    Blind number first text rest rest' fun more => erase (readNodes parent level before (lines ++ more)) := by
  match lines with
  | [] => exact readNodes_blind_nil parent level before passes
  | line :: others =>
    rcases Nat.lt_trichotomy line.indent level with shallow | rfl | deep
    · simp only [List.cons_append, readNodes_shallow shallow]
      split
      · exact .same rfl
      · exact .ahead before.reverse (line :: others) fun _ _ => rfl
    · cases branches : elseBranch? line.text with
      | some chained =>
        cases before with
        | nil =>
          have refused : ∀ last ∈ ([] : Block).head?, takesBranch chained last = false := by simp
          simp only [List.cons_append, readNodes_stray branches refused]
          exact .same rfl
        | cons last earlier =>
          cases takes : takesBranch chained last with
          | false =>
            have refused : ∀ node ∈ (last :: earlier).head?, takesBranch chained node = false := by
              simpa using takes
            simp only [List.cons_append, readNodes_stray branches refused]
            exact .same rfl
          | true =>
            simp only [List.cons_append, readNodes_chained branches takes]
            let next (branch : Block) (left : List Line) := erase (readNodes parent line.indent
              ((attachBranch? chained branch last).getD last :: earlier) left)
            refine @Blind.bind _ _ _ _ _ _ next (readBlock_blind passes (some line.indent) others)
              (fun branch => ⟨_, readNodes_nil _ _ _⟩) fun branch left read => ?_
            obtain ⟨suffix, _⟩ := erase_eq_ok read
            have fewer := suffix.length_le
            exact readNodes_blind passes parent line.indent _ left
      | none =>
        simp only [List.cons_append, readNodes_unchained branches]
        refine Blind.extended (fun more => readLine_extends line.number line.text rfl) ?_ ?_
        · rw [List.append_nil]
          exact id
        · rintro ⟨node, children, rest⟩ _
          have fewer := rest.2.length_le
          let next (nodes : Block) (left : List Line) :=
            erase (readNodes parent line.indent (node.extend nodes :: before) left)
          refine ⟨_, @Blind.bind _ _ _ _ _ _ next (readChildren_blind passes line.indent children rest.1)
            (fun nodes => ⟨_, readNodes_nil _ _ _⟩) fun nodes left read => ?_, ?_⟩
          · obtain ⟨suffix, _⟩ := erase_eq_ok read
            have fewer' := suffix.length_le
            exact readNodes_blind passes parent line.indent _ left
          · rintro more _ ⟨_, _, left⟩
            dsimp only
            rw [left]
    · refine .same ?_
      rw [List.cons_append, List.cons_append, readNodes_deep deep, readNodes_deep deep]
termination_by 3 * lines.length
decreasing_by
  all_goals
    simp only [List.length_cons, List.length_append, List.length_nil] at *
    omega

theorem readBlock_blind (passes : ∀ parent before,
      erase (readNodes parent first.indent before (first :: rest)) =
        erase (readNodes parent first.indent before (⟨first.number, first.indent, text⟩ :: rest')))
    (parent : Option Nat) (lines : List Line) :
    Blind number first text rest rest' fun more => erase (readBlock parent (lines ++ more)) := by
  cases lines with
  | nil =>
    by_cases outside : parent.any (first.indent ≤ ·)
    · refine .ahead [] [] fun more starts => ?_
      cases more with
      | nil => rw [List.append_nil, readBlock]; rfl
      | cons line others =>
        have deep : line.indent = first.indent := starts line rfl
        rw [List.nil_append, readBlock, if_pos (deep ▸ outside)]
        rfl
    · refine (readNodes_blind_nil parent first.indent [] passes).congr fun more starts => ?_
      cases more with
      | nil =>
        rw [List.append_nil, readNodes_nil, readBlock]
        rfl
      | cons line others =>
        have deep : line.indent = first.indent := starts line rfl
        rw [List.nil_append, readBlock, deep, if_neg outside]
  | cons line others =>
    simp only [List.cons_append, readBlock]
    by_cases outside : parent.any (line.indent ≤ ·)
    · simp only [if_pos outside]
      exact .ahead [] (line :: others) fun _ _ => rfl
    · simp only [if_neg outside]
      exact readNodes_blind passes parent line.indent [] (line :: others)
termination_by 3 * lines.length + 1

theorem readChildren_blind (passes : ∀ parent before,
      erase (readNodes parent first.indent before (first :: rest)) =
        erase (readNodes parent first.indent before (⟨first.number, first.indent, text⟩ :: rest')))
    (indent : Nat) (children : Children) (lines : List Line) :
    Blind number first text rest rest' fun more => erase (readChildren indent children (lines ++ more)) := by
  cases children with
  | raw =>
    cases left : lines.dropWhile (indent < ·.indent) with
    | nil =>
      have skips (more : List Line) : erase (readChildren indent .raw (lines ++ more)) =
          erase (readChildren indent .raw more) := by
        simp only [readChildren, erase, Except.map, List.dropWhile_append, left, List.isEmpty_nil,
          ↓reduceIte]
      simp only [skips]
      by_cases shallow : first.indent ≤ indent
      · exact .ahead [] [] fun more starts => readChildren_raw (starts.outside shallow)
      · refine .passed [] ?_
        simp [readChildren, erase, Except.map, nameless, Nat.lt_of_not_le shallow]
    | cons line others =>
      refine .ahead [] (line :: others) fun more _ => ?_
      simp only [readChildren, erase, Except.map, List.dropWhile_append, left, List.isEmpty_cons]
      rfl
  | prose =>
    simp only [readChildren]
    exact readText_blind indent lines
  | block =>
    simp only [readChildren]
    exact readBlock_blind passes (some indent) lines
  | none =>
    cases lines with
    | nil =>
      by_cases deep : indent < first.indent
      · refine .same ?_
        simp only [List.nil_append, readChildren, if_pos deep]
        rfl
      · exact .ahead [] [] fun more starts => readChildren_none (starts.outside (Nat.le_of_not_lt deep))
    | cons line others =>
      by_cases deep : indent < line.indent
      · refine .same ?_
        simp only [List.cons_append, readChildren, if_pos deep]
        rfl
      · exact .ahead [] (line :: others) fun more _ =>
          readChildren_none (startsAt_cons.outside (Nat.le_of_not_lt deep))
termination_by 3 * lines.length + 2

end

/-- A line that is read for itself hides what makes no difference to it from the whole template. -/
theorem Blind.whole {read : List Line → Except ParseError (Block × List Line)}
    (blind : Blind number first text rest rest' read) (closed : ¬IsOpenList (whole (read [])))
    (refused : ∃ error, Pug.whole (read [nameless number first.indent]) = .error error) :
    Pug.whole (read (first :: rest)) =
      Pug.whole (read (⟨first.number, first.indent, text⟩ :: rest')) := by
  cases blind with
  | «open» unclosed =>
    obtain ⟨line, unclosed⟩ := unclosed
    exact absurd ⟨line, by rw [unclosed, Pug.whole]⟩ closed
  | passed block skips =>
    obtain ⟨error, refused⟩ := refused
    rw [skips] at refused
    contradiction
  | ahead block left stops =>
    rw [stops _ startsAt_cons, stops _ startsAt_replaced]
    cases left <;> rfl
  | same equal => rw [equal]

end Blind

end Querymap.Pug
