import Querymap.Proofs.Pug.Continued

/-! Reading in another layout. Every reader of a template mirrors itself: on lines with other numbers and
other columns it takes the same steps. -/
namespace Querymap.Pug

section

variable {layout : LineLayout} {lines lines' : List Line}

theorem Continues.mirrors {α β : Type} {same same' : α → β → Prop} {read : Except ParseError α}
    {read' : Except ParseError β} (continues : Continues layout [] same read read')
    (keeps : ∀ a b, same a b → same' a b) : layout.Mirrors same' read read' := by
  cases continues with
  | «open» number behind => exact absurd rfl behind
  | failed error => exact .failed error
  | done alike => exact .done (keeps _ _ alike)

theorem readLine_mirrors (number : Nat) (text : List Char) (moved : lines' = lines.map layout.line) :
    layout.Mirrors (layout.Leaves₂ (Node.renumber layout.number)) (readLine number text lines)
      (readLine (layout.number number) text lines') := by
  refine (readLine_continues number text (moved.trans (List.append_nil _).symm)).mirrors ?_
  rintro _ _ ⟨node, children, left⟩
  exact .intro node children (left.trans (List.append_nil _))

theorem readProse_mirrors (number : Nat) (text : List Char) (moved : lines' = lines.map layout.line) :
    layout.Mirrors (layout.Leaves (renumber layout.number)) (readProse number text lines)
      (readProse (layout.number number) text lines') := by
  refine (readProse_continues number text (moved.trans (List.append_nil _).symm)).mirrors ?_
  rintro _ _ ⟨nodes, left⟩
  exact .intro nodes (left.trans (List.append_nil _))

/-! Blocks in another layout. -/

theorem readText_mirrors (indent : Nat) (lines : List Line) :
    layout.Mirrors (layout.moved · = ·) (erase (readText indent lines))
      (erase (readText (layout.column indent) (lines.map layout.line))) := by
  cases lines with
  | nil =>
    rw [List.map_nil, readText, readText]
    exact .done rfl
  | cons line others =>
    rw [List.map_cons]
    by_cases shallow : line.indent ≤ indent
    · rw [readText, readText, layout.line_indent, if_pos shallow, if_pos (layout.column_le_iff.2 shallow)]
      exact .done rfl
    · have deeper := Nat.lt_of_not_le shallow
      rw [readText_cons deeper, @readText_cons _ (layout.line line) _ (layout.column_lt_iff.2 deeper)]
      refine (readProse_mirrors line.number line.text rfl).bind ?_
      rintro ⟨nodes, left⟩ _ _ ⟨_, same⟩
      have fewer := left.2.length_le
      dsimp only
      rw [same]
      refine (readText_mirrors indent left.1).bind ?_
      rintro ⟨more, rest⟩ _ _ rfl
      exact .done (congrArg (·, rest.map layout.line) (renumber_append layout.number nodes more))
termination_by lines.length
decreasing_by
  simp only [List.length_cons]
  omega

mutual

theorem readNodes_mirrors (parent : Option Nat) (level : Nat) (before : Block) (lines : List Line) :
    layout.Mirrors (layout.moved · = ·) (erase (readNodes parent level before lines))
      (erase (readNodes (parent.map layout.column) (layout.column level) (renumber layout.number before)
        (lines.map layout.line))) := by
  cases lines with
  | nil =>
    rw [List.map_nil, readNodes_nil, readNodes_nil, ← renumber_reverse]
    exact .done rfl
  | cons line others =>
    rw [List.map_cons]
    rcases Nat.lt_trichotomy line.indent level with shallow | rfl | deep
    · rw [readNodes_shallow shallow,
        @readNodes_shallow _ _ _ (layout.line line) _ (layout.column_lt_iff.2 shallow),
        layout.line_indent, layout.any_column_lt]
      split
      · exact .failed ⟨line.number, .inconsistentIndentation⟩
      · rw [← renumber_reverse]
        exact .done rfl
    · rw [← layout.line_indent]
      cases branches : elseBranch? line.text with
      | some chained =>
        have branches' : elseBranch? (layout.line line).text = some chained := branches
        cases before with
        | nil =>
          rw [readNodes_stray branches (by simp), renumber, readNodes_stray branches' (by simp)]
          exact .failed ⟨line.number, .unexpectedElse⟩
        | cons last earlier =>
          rw [renumber]
          cases takes : takesBranch chained last with
          | false =>
            rw [readNodes_stray branches (by simpa using takes),
              readNodes_stray branches' (by simpa [takesBranch_renumber] using takes)]
            exact .failed ⟨line.number, .unexpectedElse⟩
          | true =>
            rw [readNodes_chained branches takes,
              readNodes_chained branches' ((takesBranch_renumber ..).trans takes)]
            refine (readBlock_mirrors (some line.indent) others).bind ?_
            rintro ⟨branch, left⟩ _ read rfl
            obtain ⟨suffix, _⟩ := erase_eq_ok read
            have fewer := suffix.length_le
            dsimp only [LineLayout.moved]
            rw [attachBranch?_getD_renumber]
            exact readNodes_mirrors parent line.indent (_ :: earlier) left
      | none =>
        have branches' : elseBranch? (layout.line line).text = none := branches
        rw [readNodes_unchained branches, readNodes_unchained branches']
        refine (readLine_mirrors line.number line.text rfl).bind ?_
        rintro ⟨node, children, rest⟩ _ _ ⟨_, _, same⟩
        have fewer := rest.2.length_le
        dsimp only
        rw [same]
        refine (readChildren_mirrors line.indent children rest.1).bind ?_
        rintro ⟨nodes, left⟩ _ read rfl
        obtain ⟨suffix, _⟩ := erase_eq_ok read
        have fewer' := suffix.length_le
        dsimp only [LineLayout.moved]
        rw [← Node.renumber_extend]
        exact readNodes_mirrors parent line.indent (node.extend nodes :: before) left
    · rw [readNodes_deep deep, @readNodes_deep _ _ _ (layout.line line) _ (layout.column_lt_iff.2 deep)]
      exact .failed ⟨line.number, .unexpectedIndentation⟩
termination_by 3 * lines.length
decreasing_by
  all_goals
    simp only [List.length_cons]
    omega

theorem readBlock_mirrors (parent : Option Nat) (lines : List Line) :
    layout.Mirrors (layout.moved · = ·) (erase (readBlock parent lines))
      (erase (readBlock (parent.map layout.column) (lines.map layout.line))) := by
  cases lines with
  | nil =>
    rw [List.map_nil, readBlock, readBlock]
    exact .done rfl
  | cons first others =>
    rw [List.map_cons, readBlock, readBlock, layout.line_indent, layout.any_le_column]
    split
    · exact .done rfl
    · exact readNodes_mirrors parent first.indent [] (first :: others)
termination_by 3 * lines.length + 1

theorem readChildren_mirrors (indent : Nat) (children : Children) (lines : List Line) :
    layout.Mirrors (layout.moved · = ·) (erase (readChildren indent children lines))
      (erase (readChildren (layout.column indent) children (lines.map layout.line))) := by
  cases children with
  | raw =>
    have deeper : (fun line : Line => decide (layout.column indent < line.indent)) ∘ layout.line =
        fun line => decide (indent < line.indent) := by
      funext line
      simp [layout.column_lt_iff]
    rw [readChildren, readChildren]
    refine .done ?_
    simp only [LineLayout.moved, List.dropWhile_map, deeper]
    rfl
  | prose =>
    rw [readChildren, readChildren]
    exact readText_mirrors indent lines
  | block =>
    rw [readChildren, readChildren]
    exact readBlock_mirrors (some indent) lines
  | none =>
    cases lines with
    | nil =>
      rw [List.map_nil]
      simp only [readChildren]
      exact .done rfl
    | cons line others =>
      rw [List.map_cons, readChildren, readChildren]
      simp only [LineLayout.line_indent, layout.column_lt_iff, LineLayout.line_number]
      split
      · exact .failed ⟨line.number, .unexpectedIndentation⟩
      · exact .done rfl
termination_by 3 * lines.length + 2

end

/-- A template in another layout is the same one with other numbers, or at fault in the same line. -/
theorem whole_moved (layout : LineLayout) (lines : List Line) :
    whole (erase (readBlock none (lines.map layout.line))) =
      renumbered layout.number (whole (erase (readBlock none lines))) := by
  have mirrors := @readBlock_mirrors layout none lines
  rw [Option.map_none] at mirrors
  generalize erase (readBlock none lines) = read at mirrors ⊢
  generalize erase (readBlock none (lines.map layout.line)) = read' at mirrors ⊢
  cases mirrors with
  | failed error => rfl
  | @done result _ alike =>
    subst alike
    obtain ⟨block, left⟩ := result
    cases left <;> rfl

end

end Querymap.Pug
