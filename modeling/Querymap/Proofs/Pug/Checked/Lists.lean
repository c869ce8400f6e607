import Querymap.Proofs.Pug.AttributeList
import Querymap.Proofs.Pug.Checked.Basic

/-! Attribute lists read by indices. A round of the loop takes one attribute; it begins behind the separators
and has to leave less behind it than was left before it. -/
namespace Querymap.Pug.Checked

/-- The index behind the characters from `i` on that satisfy a predicate. -/
def skip (p : Char → Bool) (chars : List Char) (i : Nat) : Nat := i + ((chars.drop i).takeWhile p).length

/-- The text from one character up to another one. -/
def between (chars : List Char) (first last : Nat) : Checked (List Char) :=
  cut chars (Text.place chars first) (Text.place chars last)

/-- The name at `i`, where `c` stands, and the index behind it. -/
def attributeName (chars : List Char) (i : Nat) (c : Char) : Checked (List Char × Nat) :=
  if c == '"' || c == '\'' then do
    let stop := skip (· != c) chars (i + 1)
    let name ← between chars (i + 1) stop
    return (name, min (stop + 1) chars.length)
  else do
    let stop := skip inAttributeName chars i
    let name ← between chars i stop
    return (name, stop)

/-- The index behind the sign that gives an attribute its value. -/
def valueStart? (chars : List Char) (i : Nat) : Option Nat :=
  let ahead := skip Text.isBlank chars i
  if chars[ahead]? = some '=' then some (ahead + 1)
  else if chars[ahead]? = some '!' ∧ chars[ahead + 1]? = some '=' then some (ahead + 2)
  else none

def valueEnd (chars : List Char) (i : Nat) : Nat := i + (splitValue {} none (chars.drop i)).1.length

/-- The attribute at `i`, where `c` stands, unless it counts for nothing, and the index of the next round. -/
def attributeAt (chars : List Char) (i : Nat) (c : Char) : Checked (Option Attribute × Nat) := do
  let (name, i) ← attributeName chars i c
  match valueStart? chars i with
  | none =>
    return if name = [] then (none, i + 1) else (some ⟨String.ofList name, .boolean⟩, i)
  | some i =>
    let start := skip Text.isBlank chars i
    let stop := valueEnd chars start
    let raw ← between chars start stop
    return (if name = [] then none else some ⟨String.ofList name, readValue raw⟩, stop)

def attributesFrom (chars : List Char) (i : Nat) : Checked (List Attribute) :=
  let start := skip isSeparator chars i
  match chars[start]? with
  | none => return []
  | some c => do
    let (first, next) ← attributeAt chars start c
    descend (chars.length - next) (chars.length - i) fun _ => do
      let others ← attributesFrom chars next
      return first.toList ++ others
termination_by chars.length - i

def readAttributes (text : List Char) : Checked (List Attribute) := attributesFrom text 0

/-! The parts of a list. -/

section

variable {chars part after rest : List Char} {c : Char} {i : Nat}

theorem drop_skip (p : Char → Bool) (chars : List Char) (i : Nat) :
    chars.drop (skip p chars i) = (chars.drop i).dropWhile p := by
  rw [skip, ← List.drop_drop]
  generalize chars.drop i = text
  calc text.drop (text.takeWhile p).length
      = (text.takeWhile p ++ text.dropWhile p).drop (text.takeWhile p).length := by
        rw [List.takeWhile_append_dropWhile]
    _ = text.dropWhile p := List.drop_left

theorem between_of_drop (found : chars.drop i = part ++ after) :
    between chars i (i + part.length) = pure part := by
  refine cut_of_slice? ((Text.slice?_place chars (Nat.le_add_right i _)).trans ?_)
  rw [List.drop_take, Nat.add_sub_cancel_left, found, List.take_left]

theorem between_skip (p : Char → Bool) (chars : List Char) (i : Nat) :
    between chars i (skip p chars i) = pure ((chars.drop i).takeWhile p) :=
  between_of_drop List.takeWhile_append_dropWhile.symm

theorem drop_succ_of_drop (here : chars.drop i = c :: rest) : chars.drop (i + 1) = rest := by
  rw [← List.drop_drop, here, List.drop_one, List.tail_cons]

theorem attributeName_eq (here : chars.drop i = c :: rest) :
    ∃ stop, attributeName chars i c = pure ((splitAttributeName (c :: rest)).1, stop) ∧
      chars.drop stop = (splitAttributeName (c :: rest)).2 := by
  rw [attributeName]
  simp only [splitAttributeName]
  split
  · refine ⟨min (skip (· != c) chars (i + 1) + 1) chars.length, ?_, ?_⟩
    · rw [between_skip, drop_succ_of_drop here]
      rfl
    · have behind : chars.drop (skip (· != c) chars (i + 1) + 1) =
          (rest.dropWhile (· != c)).drop 1 := by
        rw [← List.drop_drop, drop_skip, drop_succ_of_drop here]
      rcases Nat.le_total (skip (· != c) chars (i + 1) + 1) chars.length with inside | outside
      · rw [Nat.min_eq_left inside, behind]
      · rw [Nat.min_eq_right outside, ← behind, List.drop_length, List.drop_eq_nil_of_le outside]
  · refine ⟨skip inAttributeName chars i, ?_, ?_⟩
    · rw [between_skip, here]
      rfl
    · rw [drop_skip, here]

theorem getElem?_skip (p : Char → Bool) (chars : List Char) (i : Nat) :
    chars[skip p chars i]? = ((chars.drop i).dropWhile p).head? := by
  rw [← drop_skip, List.head?_drop]

theorem afterAssignment?_drop (chars : List Char) (i : Nat) :
    afterAssignment? (chars.drop i) = (valueStart? chars i).map chars.drop := by
  have head := getElem?_skip Text.isBlank chars i
  have next : chars[skip Text.isBlank chars i + 1]? =
      (((chars.drop i).dropWhile Text.isBlank).drop 1).head? := by
    rw [← drop_skip, List.drop_drop, List.head?_drop]
  have behind (n : Nat) : chars.drop (skip Text.isBlank chars i + n) =
      ((chars.drop i).dropWhile Text.isBlank).drop n := by
    rw [← List.drop_drop, drop_skip]
  rw [valueStart?, afterAssignment?, head, next]
  generalize (chars.drop i).dropWhile Text.isBlank = text at behind
  split
  · simp [behind]
  · simp [behind]
  · next assigned negated =>
    rw [if_neg, if_neg]
    · rfl
    · rintro ⟨first, second⟩
      obtain ⟨rest, rfl⟩ := List.head?_eq_some_iff.1 first
      obtain ⟨rest, rfl⟩ := List.head?_eq_some_iff.1 second
      exact negated rest rfl
    · intro first
      obtain ⟨rest, rfl⟩ := List.head?_eq_some_iff.1 first
      exact assigned rest rfl

theorem splitValue_append (nesting : Nesting) (previous : Option Char) (text : List Char) :
    (splitValue nesting previous text).1 ++ (splitValue nesting previous text).2 = text := by
  induction text generalizing nesting previous with
  | nil => simp [splitValue]
  | cons c rest ih =>
    rw [splitValue]
    dsimp only
    split
    · rfl
    · simp [ih]

theorem between_valueEnd (chars : List Char) (i : Nat) :
    between chars i (valueEnd chars i) = pure (splitValue {} none (chars.drop i)).1 :=
  between_of_drop (splitValue_append {} none _).symm

theorem drop_valueEnd (chars : List Char) (i : Nat) :
    chars.drop (valueEnd chars i) = (splitValue {} none (chars.drop i)).2 := by
  have whole := splitValue_append {} none (chars.drop i)
  rw [valueEnd, ← List.drop_drop]
  generalize splitValue {} none (chars.drop i) = parts at whole ⊢
  rw [← whole, List.drop_left]

end

/-! A whole list. -/

/-- The attribute at the start of a text, unless it counts for nothing, and what follows it. -/
def splitAttribute (text : List Char) : Option Attribute × List Char :=
  let (name, after) := splitAttributeName text
  match afterAssignment? after with
  | none => if name = [] then (none, after.drop 1) else (some ⟨String.ofList name, .boolean⟩, after)
  | some value =>
    let (raw, tail) := splitValue {} none (value.dropWhile Text.isBlank)
    (if name = [] then none else some ⟨String.ofList name, readValue raw⟩, tail)

/-- Whatever stands at the start of a text, even if it counts for nothing, leaves less behind it. -/
theorem splitAttribute_length_lt (c : Char) (rest : List Char) :
    (splitAttribute (c :: rest)).2.length < (c :: rest).length := by
  have named := splitAttributeName_length (c :: rest)
  rw [splitAttribute]
  dsimp only
  split
  · split
    · rw [List.length_drop]
      simp only [List.length_cons] at named ⊢
      omega
    · next named => exact splitAttributeName_length_lt named
  · next value assigned =>
    have := splitValue_length {} none (value.dropWhile Text.isBlank)
    have := length_dropWhile_le Text.isBlank value
    have := afterAssignment?_length assigned
    dsimp only
    omega

theorem readAttributes_split (text : List Char) :
    Pug.readAttributes text =
      match text.dropWhile isSeparator with
      | [] => []
      | c :: rest =>
        (splitAttribute (c :: rest)).1.toList ++ Pug.readAttributes (splitAttribute (c :: rest)).2 := by
  rw [Pug.readAttributes]
  split
  · next none =>
    have none : text.dropWhile isSeparator = [] := none
    rw [none]
  · next c rest starts =>
    have starts : text.dropWhile isSeparator = c :: rest := starts
    rw [starts]
    dsimp only [splitAttribute]
    split
    · next unassigned =>
      rw [unassigned]
      split <;> rfl
    · next value assigned =>
      rw [assigned]
      split <;> rfl

theorem attributeAt_eq {chars rest : List Char} {c : Char} {i : Nat} (here : chars.drop i = c :: rest) :
    ∃ next, attributeAt chars i c = pure ((splitAttribute (c :: rest)).1, next) ∧
      chars.drop next = (splitAttribute (c :: rest)).2 := by
  obtain ⟨stop, named, behind⟩ := attributeName_eq here
  have assigned := afterAssignment?_drop chars stop
  rw [behind] at assigned
  simp only [attributeAt, named, pure_bind, splitAttribute, assigned]
  cases valueStart? chars stop with
  | none =>
    simp only [Option.map_none]
    split
    · exact ⟨stop + 1, rfl, by rw [← List.drop_drop, behind]⟩
    · exact ⟨stop, rfl, behind⟩
  | some start =>
    simp only [Option.map_some, between_valueEnd, pure_bind, drop_skip]
    exact ⟨_, rfl, by rw [drop_valueEnd, drop_skip]⟩

/-- Every round leaves less of the list, and no cut in it fails. -/
theorem attributesFrom_eq (chars : List Char) (i : Nat) :
    attributesFrom chars i = pure (Pug.readAttributes (chars.drop i)) := by
  induction rest : chars.length - i using Nat.strongRecOn generalizing i with
  | ind left ih =>
    have first : chars[skip isSeparator chars i]? = ((chars.drop i).dropWhile isSeparator).head? :=
      getElem?_skip _ _ _
    rw [attributesFrom, readAttributes_split]
    dsimp only
    rw [first]
    cases starts : (chars.drop i).dropWhile isSeparator with
    | nil => rfl
    | cons c rest =>
      have here : chars.drop (skip isSeparator chars i) = c :: rest := by rw [drop_skip, starts]
      obtain ⟨next, read, behind⟩ := attributeAt_eq here
      have less : chars.length - next < chars.length - i := by
        have fewer := splitAttribute_length_lt c rest
        have within := length_dropWhile_le isSeparator (chars.drop i)
        rw [← behind, List.length_drop] at fewer
        rw [starts, List.length_drop] at within
        omega
      simp only [List.head?_cons, read, pure_bind, descend_of_lt less]
      rw [ih _ (by omega) next rfl, behind, pure_bind]

theorem readAttributes_eq (text : List Char) : readAttributes text = pure (Pug.readAttributes text) :=
  attributesFrom_eq text 0

end Querymap.Pug.Checked
