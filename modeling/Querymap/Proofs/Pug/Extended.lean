import Querymap.Proofs.Pug.Continued

/-! Reading with more lines behind. What reads the lines of a head looks no further than it has to: unless
an attribute list is still open when the lines end, more lines behind them are left as they are. -/
namespace Querymap.Pug

/-- A list is open where the lines end. -/
def IsOpenList {α : Type} (read : Except ParseError α) : Prop :=
  ∃ number, read = .error ⟨number, .unclosedParenthesis⟩

/-- Whether a reading fails, as a computation says. -/
instance {α : Type} (error : ParseError) : (read : Except ParseError α) → Decidable (read = .error error)
  | .ok _ => isFalse (by simp)
  | .error other => decidable_of_iff (other = error) (by simp)

theorem isOk_eq_false_iff {α : Type} {read : Except ParseError α} :
    read.isOk = false ↔ ∃ error, read = .error error := by
  cases read <;> simp [Except.isOk, Except.toBool]

instance {α : Type} : (read : Except ParseError α) → Decidable (IsOpenList read)
  | .ok _ => isFalse (by simp [IsOpenList])
  | .error ⟨number, fault⟩ =>
    decidable_of_iff (fault = .unclosedParenthesis) (by simp [IsOpenList])

/-- Two results, the second one of a reading with more lines behind. -/
inductive Extends {α β : Type} (same : α → β → Prop) : Except ParseError α → Except ParseError β → Prop
  | open (number : Nat) {read' : Except ParseError β} :
      Extends same (.error ⟨number, .unclosedParenthesis⟩) read'
  | failed (error : ParseError) : Extends same (.error error) (.error error)
  | done {a : α} {b : β} (alike : same a b) : Extends same (.ok a) (.ok b)

/-- A value, and lines that are left with more behind them. -/
inductive Leaving {α : Type} (more : List Line) {lines lines' : List Line} :
    α × Rest lines → α × Rest lines' → Prop
  | intro (a : α) {rest : Rest lines} {rest' : Rest lines'} (left : rest'.1 = rest.1 ++ more) :
      Leaving more (a, rest) (a, rest')

/-- Two values, and lines that are left with more behind them. -/
inductive Leaving₂ {α β : Type} (more : List Line) {lines lines' : List Line} :
    α × β × Rest lines → α × β × Rest lines' → Prop
  | intro (a : α) (b : β) {rest : Rest lines} {rest' : Rest lines'} (left : rest'.1 = rest.1 ++ more) :
      Leaving₂ more (a, b, rest) (a, b, rest')

theorem Extends.of_error {α β : Type} {same : α → β → Prop} {read' : Except ParseError β}
    {error : ParseError} (extends' : Extends same (.error error) read')
    (complete : error.fault ≠ .unclosedParenthesis) : read' = .error error := by
  cases extends' with
  | «open» number => exact absurd rfl complete
  | failed error => rfl

theorem Extends.of_ok {α β : Type} {same : α → β → Prop} {read' : Except ParseError β} {a : α}
    (extends' : Extends same (.ok a) read') : ∃ b, read' = .ok b ∧ same a b := by
  cases extends' with
  | done alike => exact ⟨_, rfl, alike⟩

theorem Continues.extended {α β : Type} {more : List Line} {same same' : α → β → Prop}
    {read : Except ParseError α} {read' : Except ParseError β}
    (continues : Continues .unmoved more same read read') (keeps : ∀ a b, same a b → same' a b) :
    Extends same' read read' := by
  cases continues with
  | «open» number => exact .open number
  | failed error => exact .failed error
  | done alike => exact .done (keeps _ _ alike)

section

variable {more lines lines' : List Line}

theorem readLine_extends (number : Nat) (text : List Char) (longer : lines' = lines ++ more) :
    Extends (Leaving₂ more) (readLine number text lines) (readLine number text lines') := by
  rw [← LineLayout.map_unmoved lines] at longer
  refine (readLine_continues number text longer).extended ?_
  rintro _ _ ⟨node, children, left⟩
  rw [LineLayout.map_unmoved] at left
  rw [LineLayout.unmoved, Node.renumber_id]
  exact .intro node children left

theorem readProse_extends (number : Nat) (text : List Char) (longer : lines' = lines ++ more) :
    Extends (Leaving more) (readProse number text lines) (readProse number text lines') := by
  rw [← LineLayout.map_unmoved lines] at longer
  refine (readProse_continues number text longer).extended ?_
  rintro _ _ ⟨nodes, left⟩
  rw [LineLayout.map_unmoved] at left
  rw [LineLayout.unmoved, renumber_id]
  exact .intro nodes left

end

end Querymap.Pug
