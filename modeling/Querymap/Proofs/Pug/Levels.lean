/-! The levels that lines open by their depths. A line fits if it is deeper than the line before it or
as deep as a level that is still open. -/
namespace Querymap.Pug

/-- A line opens a level if it is the first one or deeper than the line before it. -/
def Opens (before : List Nat) (depth : Nat) : Prop := ∀ last ∈ before.getLast?, last < depth

/-- A level is open if a line opened it and no shallower line came since. -/
def IsOpen (before : List Nat) (level : Nat) : Prop :=
  ∃ earlier since, before = earlier ++ level :: since ∧ Opens earlier level ∧
    ∀ depth ∈ since, level ≤ depth

def Fits (before : List Nat) (depth : Nat) : Prop := Opens before depth ∨ IsOpen before depth

/-- Every line fits after the lines before it. -/
def FitAfter (before : List Nat) : List Nat → Prop
  | [] => True
  | depth :: rest => Fits before depth ∧ FitAfter (before ++ [depth]) rest

def WellIndented (depths : List Nat) : Prop := FitAfter [] depths

theorem fitAfter_append {before first second : List Nat} :
    FitAfter before (first ++ second) ↔ FitAfter before first ∧ FitAfter (before ++ first) second := by
  induction first generalizing before with
  | nil => simp [FitAfter]
  | cons depth rest ih => simp [FitAfter, ih, and_assoc]

theorem not_isOpen_nil (level : Nat) : ¬IsOpen [] level := by
  rintro ⟨earlier, since, same, _⟩
  simp at same

/-- What a line does to the open levels. -/
theorem isOpen_concat {before : List Nat} {depth level : Nat} :
    IsOpen (before ++ [depth]) level ↔
      (depth = level ∧ Opens before level) ∨ (IsOpen before level ∧ level ≤ depth) := by
  constructor
  · rintro ⟨earlier, since, same, opens, kept⟩
    rcases List.eq_nil_or_concat since with rfl | ⟨since, last, rfl⟩
    · obtain ⟨rfl, rfl⟩ := List.append_singleton_inj.1 same
      exact .inl ⟨rfl, opens⟩
    · rw [List.concat_eq_append] at same kept
      rw [← List.cons_append, ← List.append_assoc] at same
      obtain ⟨rfl, rfl⟩ := List.append_singleton_inj.1 same
      exact .inr ⟨⟨earlier, since, rfl, opens, fun other member =>
        kept other (List.mem_append_left _ member)⟩, kept _ (by simp)⟩
  · rintro (⟨rfl, opens⟩ | ⟨⟨earlier, since, rfl, opens, kept⟩, deep⟩)
    · exact ⟨before, [], rfl, opens, by simp⟩
    · refine ⟨earlier, since ++ [depth], by simp, opens, fun other member => ?_⟩
      rcases List.mem_append.1 member with inside | last
      · exact kept other inside
      · rwa [List.mem_singleton.1 last]

/-- The level of a line that fits is open after it. -/
theorem Fits.isOpen {before : List Nat} {depth : Nat} (fits : Fits before depth) :
    IsOpen (before ++ [depth]) depth := by
  rw [isOpen_concat]
  rcases fits with opens | isOpen
  · exact .inl ⟨rfl, opens⟩
  · exact .inr ⟨isOpen, Nat.le_refl _⟩

section

variable {before lines : List Nat} {level : Nat}

/-- Lines that are not shallower leave a level open. -/
theorem IsOpen.append (isOpen : IsOpen before level) (deep : ∀ depth ∈ lines, level ≤ depth) :
    IsOpen (before ++ lines) level := by
  obtain ⟨earlier, since, rfl, opens, kept⟩ := isOpen
  refine ⟨earlier, since ++ lines, by simp, opens, fun depth member => ?_⟩
  rcases List.mem_append.1 member with inside | later
  · exact kept depth inside
  · exact deep depth later

/-- Deeper lines open no level. -/
theorem IsOpen.of_append {shallow : Nat} (isOpen : IsOpen (before ++ lines) shallow)
    (deep : ∀ depth ∈ lines, shallow < depth) : IsOpen before shallow := by
  induction lines generalizing before with
  | nil => rwa [List.append_nil] at isOpen
  | cons depth rest ih =>
    rw [List.append_cons] at isOpen
    have open' := ih isOpen fun other member => deep other (List.mem_cons_of_mem _ member)
    have deeper := deep depth List.mem_cons_self
    rcases isOpen_concat.1 open' with ⟨rfl, _⟩ | ⟨kept, _⟩
    · exact absurd deeper (Nat.lt_irrefl _)
    · exact kept

/-- A line below an open level opens none. -/
theorem IsOpen.not_opens (isOpen : IsOpen before level) {depth : Nat} (shallow : depth < level) :
    ¬Opens before depth := by
  obtain ⟨earlier, since, rfl, _, kept⟩ := isOpen
  intro opens
  cases found : (earlier ++ level :: since).getLast? with
  | none => simp at found
  | some last =>
    have := opens last found
    have member : last ∈ level :: since := by
      rw [List.getLast?_append, List.getLast?_cons, Option.some_or, ← List.getLast?_cons] at found
      exact List.mem_of_getLast? found
    rcases List.mem_cons.1 member with rfl | inside
    · omega
    · have := kept last inside
      omega

end

end Querymap.Pug
