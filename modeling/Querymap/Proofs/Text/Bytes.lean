import Querymap.Text.Blank

/-! Places in a text, counted in bytes. A place that is no boundary lies inside of a character. -/
namespace Querymap.Text

@[simp] theorem byteLength_nil : byteLength [] = 0 := rfl

@[simp] theorem byteLength_cons (c : Char) (rest : List Char) :
    byteLength (c :: rest) = c.utf8Size + byteLength rest := rfl

@[simp] theorem byteLength_append (before after : List Char) :
    byteLength (before ++ after) = byteLength before + byteLength after := by
  induction before with
  | nil => simp
  | cons c before ih => simp [ih, Nat.add_assoc]

theorem byteLength_pos {text : List Char} (written : text ≠ []) : 0 < byteLength text := by
  obtain ⟨c, rest, rfl⟩ := List.exists_cons_of_ne_nil written
  exact Nat.lt_add_right _ c.utf8Size_pos

theorem byteLength_le_of_sublist {a b : List Char} (sub : a.Sublist b) : byteLength a ≤ byteLength b := by
  induction sub with
  | slnil => exact Nat.le_refl _
  | cons c _ ih => exact Nat.le_trans ih (Nat.le_add_left _ c.utf8Size)
  | cons_cons c _ ih => exact Nat.add_le_add_left ih c.utf8Size

section Beginnings

variable {text a b : List Char}

/-- Of two beginnings of a text, the one with no more bytes begins the other. -/
theorem prefix_of_byteLength_le (first : a <+: text) (second : b <+: text)
    (fewer : byteLength a ≤ byteLength b) : a <+: b := by
  rcases List.prefix_or_prefix_of_prefix first second with inside | ⟨more, rfl⟩
  · exact inside
  · rw [byteLength_append] at fewer
    cases more with
    | nil => simp
    | cons c more =>
      have := byteLength_pos (List.cons_ne_nil c more)
      omega

theorem eq_of_byteLength_eq (first : a <+: text) (second : b <+: text)
    (same : byteLength a = byteLength b) : a = b := by
  obtain ⟨more, rfl⟩ := prefix_of_byteLength_le first second (Nat.le_of_eq same)
  rw [byteLength_append] at same
  cases more with
  | nil => simp
  | cons c more =>
    have := byteLength_pos (List.cons_ne_nil c more)
    omega

end Beginnings

section Slices

/-- A text cut in two at a byte; nothing if the byte is inside of a character or behind the end. -/
def cutAt? : Nat → List Char → Option (List Char × List Char)
  | 0, text => some ([], text)
  | _ + 1, [] => none
  | place + 1, c :: rest =>
    if c.utf8Size ≤ place + 1 then
      (cutAt? (place + 1 - c.utf8Size) rest).map fun (before, after) => (c :: before, after)
    else none

/-- The text between two bytes, which have to be boundaries in order. -/
def slice? (start stop : Nat) (text : List Char) : Option (List Char) :=
  (cutAt? stop text).bind fun (before, _) => (cutAt? start before).map (·.2)

/-- The byte at which the character with an index begins; behind the last one, the end. -/
def place (text : List Char) (index : Nat) : Nat := byteLength (text.take index)

variable {before part after text : List Char} {start stop : Nat}

theorem cutAt?_append (before after : List Char) :
    cutAt? (byteLength before) (before ++ after) = some (before, after) := by
  induction before with
  | nil => rw [byteLength_nil, cutAt?, List.nil_append]
  | cons c before ih =>
    obtain ⟨size, wide⟩ := Nat.exists_eq_succ_of_ne_zero (Nat.ne_of_gt c.utf8Size_pos)
    have place : byteLength (c :: before) = size + byteLength before + 1 := by
      rw [byteLength_cons, wide]
      omega
    have left : size + byteLength before + 1 - c.utf8Size = byteLength before := by omega
    rw [place, List.cons_append, cutAt?, if_pos (by omega), left, ih]
    rfl

theorem append_of_cutAt? (cut : cutAt? start text = some (before, after)) :
    text = before ++ after ∧ byteLength before = start := by
  induction text generalizing start before with
  | nil =>
    cases start <;> cases cut
    exact ⟨rfl, rfl⟩
  | cons c rest ih =>
    cases start with
    | zero => cases cut; exact ⟨rfl, rfl⟩
    | succ start =>
      rw [cutAt?] at cut
      split at cut
      · obtain ⟨⟨first, last⟩, found, same⟩ := Option.map_eq_some_iff.1 cut
        cases same
        obtain ⟨rfl, size⟩ := ih found
        refine ⟨rfl, ?_⟩
        rw [byteLength_cons]
        omega
      · contradiction

/-- A slice starts no later than it ends and lies inside of its text. -/
theorem slice?_eq_some_iff : slice? start stop text = some part ↔
    ∃ before after, text = before ++ part ++ after ∧ byteLength before = start ∧
      start + byteLength part = stop := by
  constructor
  · intro sliced
    obtain ⟨⟨whole, after⟩, ends, inside⟩ := Option.bind_eq_some_iff.1 sliced
    obtain ⟨⟨before, _⟩, starts, rfl⟩ := Option.map_eq_some_iff.1 inside
    obtain ⟨rfl, size⟩ := append_of_cutAt? ends
    obtain ⟨rfl, rfl⟩ := append_of_cutAt? starts
    exact ⟨before, after, rfl, rfl, by rw [← size, byteLength_append]⟩
  · rintro ⟨before, after, rfl, rfl, rfl⟩
    rw [slice?, ← byteLength_append, cutAt?_append]
    simp [cutAt?_append]

/-- The second byte of a text may be inside of its first character. -/
example : slice? 0 2 "é!".toList = some ['é'] ∧ slice? 1 3 "é!".toList = none := by decide

theorem slice?_start (before after : List Char) :
    slice? 0 (byteLength before) (before ++ after) = some before :=
  slice?_eq_some_iff.2 ⟨[], after, rfl, rfl, Nat.zero_add _⟩

theorem slice?_end (before after : List Char) :
    slice? (byteLength before) (byteLength (before ++ after)) (before ++ after) = some after :=
  slice?_eq_some_iff.2 ⟨before, [], by simp, rfl, (byteLength_append _ _).symm⟩

/-- Between two characters there is a slice. -/
theorem slice?_place (text : List Char) {first last : Nat} (ordered : first ≤ last) :
    slice? (place text first) (place text last) text = some ((text.take last).drop first) := by
  have whole : text.take first ++ (text.take last).drop first = text.take last := by
    have cut := List.take_append_drop first (text.take last)
    rwa [List.take_take, Nat.min_eq_left ordered] at cut
  refine slice?_eq_some_iff.2 ⟨text.take first, text.drop last, ?_, rfl, ?_⟩
  · rw [whole, List.take_append_drop]
  · rw [place, place, ← byteLength_append, whole]

end Slices

end Querymap.Text
