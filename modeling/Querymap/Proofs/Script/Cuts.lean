import Mathlib.Order.Bounds.Basic
import Querymap.Proofs.Script.Recovery
import Querymap.Proofs.Text.Bytes

/-! Where a source is cut before an error: behind the last end of a statement or of a line, unless the error
is at the very end of the source, behind a character of several bytes. -/
namespace Querymap.Script

/-- The byte at a place ends a statement or a line. -/
def EndsAt (source : List Char) (place : Nat) : Prop :=
  ∃ before c after, source = before ++ c :: after ∧ Text.byteLength before = place ∧
    endsStatement c = true

/-- The places before a limit where statements and lines end. -/
def endsBefore (source : List Char) (limit : Nat) : Set Nat :=
  {place | EndsAt source place ∧ place < limit}

/-- An error at the end of a source, behind a character of several bytes. -/
def EndsWide (before after : List Char) : Prop := after = [] ∧ ∃ c ∈ before.getLast?, 1 < c.utf8Size

section

variable {source before kept : List Char} {limit offset : Nat}

theorem takeBytes?_append (before after : List Char) :
    takeBytes? (Text.byteLength before) (before ++ after) = some before := by
  induction before with
  | nil => rw [Text.byteLength_nil, takeBytes?]
  | cons c before ih =>
    obtain ⟨size, wide⟩ := Nat.exists_eq_succ_of_ne_zero (Nat.ne_of_gt c.utf8Size_pos)
    have room : Text.byteLength (c :: before) = size + Text.byteLength before + 1 := by
      rw [Text.byteLength_cons, wide]
      omega
    have left : size + Text.byteLength before + 1 - c.utf8Size = Text.byteLength before := by omega
    rw [room, List.cons_append, takeBytes?, if_pos (by omega), left, ih]
    rfl

/-- What is taken begins the text, and has as many bytes as asked for if the text has them. -/
theorem prefix_of_takeBytes? (taken : takeBytes? limit source = some before) :
    before <+: source ∧ (limit ≤ Text.byteLength source → Text.byteLength before = limit) := by
  induction source generalizing limit before with
  | nil =>
    cases limit with
    | zero => cases taken; simp
    | succ limit => cases taken; simp
  | cons c rest ih =>
    cases limit with
    | zero => cases taken; simp
    | succ limit =>
      rw [takeBytes?] at taken
      split at taken
      · obtain ⟨others, found, rfl⟩ := Option.map_eq_some_iff.1 taken
        obtain ⟨start, full⟩ := ih found
        refine ⟨List.cons_prefix_cons.2 ⟨rfl, start⟩, fun enough => ?_⟩
        rw [Text.byteLength_cons] at enough ⊢
        have := full (by omega)
        omega
      · contradiction

/-- A cut ends a statement and is never the whole source. -/
theorem cutBefore?_shortens (cut : cutBefore? source offset = some kept) :
    kept <+: source ∧ kept.length < source.length ∧ EndsStatement kept := by
  rw [cutBefore?] at cut
  split at cut
  · contradiction
  · next before taken =>
    split at cut
    · contradiction
    · next written =>
      cases cut
      have inside := Text.prefix_dropEndWhile (!endsStatement ·) before
      obtain ⟨start, full⟩ := prefix_of_takeBytes? taken
      have leads := inside.trans start
      refine ⟨leads, Nat.lt_of_le_of_ne leads.length_le fun whole => ?_,
        endsStatement_dropEndWhile written⟩
      have same := leads.eq_of_length whole
      have few := Text.byteLength_le_of_sublist inside.sublist
      have some := Text.byteLength_pos written
      rw [same] at few some
      have := full (by omega)
      omega

theorem utf8Size_of_endsStatement {c : Char} (ends : endsStatement c = true) : c.utf8Size = 1 := by
  simp only [endsStatement, Bool.or_eq_true, beq_iff_eq] at ends
  obtain rfl | rfl := ends <;> rfl

/-- A beginning that ends a statement has its end at a place of the source. -/
theorem EndsStatement.exists_endsAt (ended : EndsStatement kept) (start : kept <+: source) :
    ∃ place, Text.byteLength kept = place + 1 ∧ EndsAt source place := by
  obtain ⟨c, last, ends⟩ := ended
  obtain ⟨first, rfl⟩ := List.getLast?_eq_some_iff.1 last
  obtain ⟨after, rfl⟩ := start
  refine ⟨Text.byteLength first, ?_, first, c, after, by simp, rfl, ends⟩
  simp [utf8Size_of_endsStatement ends]

/-- A place where a statement ends is the last one of a beginning that ends a statement. -/
theorem EndsAt.exists_endsStatement {place : Nat} (ends : EndsAt source place) :
    ∃ kept, kept <+: source ∧ EndsStatement kept ∧ Text.byteLength kept = place + 1 := by
  obtain ⟨before, c, after, rfl, rfl, ends⟩ := ends
  refine ⟨before ++ [c], ⟨after, by simp⟩, ⟨c, by simp, ends⟩, ?_⟩
  simp [utf8Size_of_endsStatement ends]

/-- What is kept of a beginning reaches to the last place in it where a statement ends. -/
theorem isGreatest_dropEndWhile (start : before <+: source)
    (written : Text.dropEndWhile (!endsStatement ·) before ≠ []) :
    ∃ place, Text.byteLength (Text.dropEndWhile (!endsStatement ·) before) = place + 1 ∧
      IsGreatest (endsBefore source (Text.byteLength before)) place := by
  have inside := Text.prefix_dropEndWhile (!endsStatement ·) before
  obtain ⟨place, size, ends⟩ :=
    (endsStatement_dropEndWhile written).exists_endsAt (inside.trans start)
  have few := Text.byteLength_le_of_sublist inside.sublist
  refine ⟨place, size, ⟨ends, by omega⟩, fun other found => ?_⟩
  obtain ⟨otherEnds, early⟩ := found
  obtain ⟨kept, leads, ended, otherSize⟩ := otherEnds.exists_endsStatement
  have within : kept <+: before := Text.prefix_of_byteLength_le leads start (by omega)
  have := Text.byteLength_le_of_sublist (prefix_dropEndWhile within ended).sublist
  omega

/-- Nothing is kept of a beginning only if no statement ends in it. -/
theorem dropEndWhile_eq_nil_iff (start : before <+: source) :
    Text.dropEndWhile (!endsStatement ·) before = [] ↔ endsBefore source (Text.byteLength before) = ∅ := by
  constructor
  · intro empty
    refine Set.eq_empty_iff_forall_notMem.2 fun place ⟨ends, early⟩ => ?_
    obtain ⟨kept, leads, ended, size⟩ := ends.exists_endsStatement
    have inside := prefix_dropEndWhile (Text.prefix_of_byteLength_le leads start (by omega)) ended
    rw [empty, List.prefix_nil] at inside
    exact ended.ne_nil inside
  · intro none
    by_contra written
    obtain ⟨place, _, greatest⟩ := isGreatest_dropEndWhile start written
    exact Set.notMem_empty place (none ▸ greatest.1)

/-- Where a beginning has as many bytes as a cut may take, the cut goes by the places of the source. -/
theorem cutBefore?_of_takeBytes?
    (taken : takeBytes? (min offset (Text.byteLength source - 1)) source = some before)
    (full : Text.byteLength before = min offset (Text.byteLength source - 1)) :
    (∀ kept, cutBefore? source offset = some kept ↔
      kept <+: source ∧ ∃ place, Text.byteLength kept = place + 1 ∧
        IsGreatest (endsBefore source (min offset (Text.byteLength source - 1))) place) ∧
    (cutBefore? source offset = none ↔
      endsBefore source (min offset (Text.byteLength source - 1)) = ∅) := by
  have start := (prefix_of_takeBytes? taken).1
  rw [cutBefore?, taken, ← full]
  dsimp only
  split
  · next empty =>
    have none := (dropEndWhile_eq_nil_iff start).1 empty
    simp [none, IsGreatest]
  · next written =>
    obtain ⟨place, size, greatest⟩ := isGreatest_dropEndWhile start written
    have inside := (Text.prefix_dropEndWhile (!endsStatement ·) before).trans start
    refine ⟨fun kept => ⟨?_, ?_⟩, ?_⟩
    · rintro ⟨⟩
      exact ⟨inside, place, size, greatest⟩
    · rintro ⟨leads, other, otherSize, otherGreatest⟩
      have same := otherGreatest.unique greatest
      exact congrArg some (Text.eq_of_byteLength_eq inside leads (by omega))
    · simp only [reduceCtorEq, false_iff]
      exact (Set.nonempty_of_mem greatest.1).ne_empty

end

/-- No beginning of a text has all its bytes but some of the last character's. -/
theorem takeBytes?_of_endsWide {before after : List Char} (wide : EndsWide before after) :
    takeBytes? (Text.byteLength (before ++ after) - 1) (before ++ after) = none := by
  obtain ⟨rfl, c, last, several⟩ := wide
  obtain ⟨first, rfl⟩ := List.getLast?_eq_some_iff.1 last
  rw [List.append_nil]
  refine Option.eq_none_iff_forall_ne_some.2 fun taken found => ?_
  obtain ⟨start, full⟩ := prefix_of_takeBytes? found
  have size := full (Nat.sub_le _ _)
  simp only [Text.byteLength_append, Text.byteLength_cons, Text.byteLength_nil] at size
  obtain rfl | inside := List.prefix_concat_iff.1 start
  · simp only [Text.byteLength_append, Text.byteLength_cons, Text.byteLength_nil] at size
    omega
  · have := Text.byteLength_le_of_sublist inside.sublist
    omega

/-- Every other error at the boundary of a character leaves a beginning that a cut may take whole. -/
theorem exists_takeBytes? {before after : List Char} (narrow : ¬EndsWide before after) :
    ∃ taken, takeBytes? (min (Text.byteLength before) (Text.byteLength (before ++ after) - 1))
        (before ++ after) = some taken ∧
      Text.byteLength taken =
        min (Text.byteLength before) (Text.byteLength (before ++ after) - 1) := by
  cases after with
  | cons c rest =>
    have more := Text.byteLength_pos (List.cons_ne_nil c rest)
    have limit : min (Text.byteLength before) (Text.byteLength (before ++ c :: rest) - 1) =
        Text.byteLength before := by
      rw [Text.byteLength_append]
      omega
    rw [limit]
    exact ⟨before, takeBytes?_append before _, rfl⟩
  | nil =>
    obtain rfl | ⟨first, c, rfl⟩ := List.eq_nil_or_concat before
    · exact ⟨[], rfl, rfl⟩
    · rw [List.concat_eq_append] at narrow ⊢
      have single : c.utf8Size = 1 := by
        have := c.utf8Size_pos
        have : ¬1 < c.utf8Size := fun several => narrow ⟨rfl, c, by simp, several⟩
        omega
      have limit : min (Text.byteLength (first ++ [c]))
          (Text.byteLength (first ++ [c] ++ []) - 1) = Text.byteLength first := by
        simp [single]
      rw [limit, List.append_nil]
      exact ⟨first, takeBytes?_append first [c], rfl⟩

/-- The cut before an error at the boundary of a character: up to the last place before the error and before
the last byte where a statement or a line ends, nothing only if there is no such place. The one exception is
an error at the very end of a source whose last character has several bytes, which finds no cut at all. -/
theorem cutBefore?_complete (before after : List Char) :
    (∀ kept, cutBefore? (before ++ after) (Text.byteLength before) = some kept ↔
      ¬EndsWide before after ∧ kept <+: before ++ after ∧
        ∃ place, Text.byteLength kept = place + 1 ∧ IsGreatest (endsBefore (before ++ after)
          (min (Text.byteLength before) (Text.byteLength (before ++ after) - 1))) place) ∧
    (cutBefore? (before ++ after) (Text.byteLength before) = none ↔
      EndsWide before after ∨ endsBefore (before ++ after)
        (min (Text.byteLength before) (Text.byteLength (before ++ after) - 1)) = ∅) := by
  by_cases wide : EndsWide before after
  · have limit : min (Text.byteLength before) (Text.byteLength (before ++ after) - 1) =
        Text.byteLength (before ++ after) - 1 := by
      rw [wide.1, List.append_nil]
      omega
    have fails : cutBefore? (before ++ after) (Text.byteLength before) = none := by
      rw [cutBefore?, limit, takeBytes?_of_endsWide wide]
    simp [wide, fails]
  · obtain ⟨taken, found, full⟩ := exists_takeBytes? wide
    have cut := cutBefore?_of_takeBytes? found full
    simpa [wide] using cut

/-- An error at the end of a source loses the line before it if the last letter has two bytes, and keeps it
if the last letter has one. -/
theorem parseTolerant_accented :
    readItems .plain "a;\nf(é".toList = .error ⟨2, Text.byteLength "a;\nf(é".toList⟩ ∧
      2 ∈ endsBefore "a;\nf(é".toList (min (Text.byteLength "a;\nf(é".toList)
        (Text.byteLength "a;\nf(é".toList - 1)) ∧
      cutBefore? "a;\nf(é".toList (Text.byteLength "a;\nf(é".toList) = none ∧
      (parseTolerant "a;\nf(é").result = none ∧
      ∃ result, readItems .plain "a;\n".toList = .ok result ∧
        (parseTolerant "a;\nf(e").result = some result := by
  have line : EndsAt "a;\nf(é".toList 2 := ⟨"a;".toList, '\n', "f(é".toList, rfl, rfl, rfl⟩
  have lost : (parseTolerant "a;\nf(é").result.isNone = true := by decide +kernel
  have fails : error? (readItems .plain "a;\nf(e".toList) = some ⟨2, 6⟩ := by decide +kernel
  have cut : cutBefore? "a;\nf(e".toList 6 = some "a;\n".toList := by decide
  have reads : error? (readItems .plain "a;\n".toList) = none := by decide +kernel
  obtain ⟨result, reads⟩ := error?_eq_none.1 reads
  refine ⟨error?_eq_some.1 (by decide +kernel), ⟨line, by decide⟩, by decide, by simpa using lost,
    result, reads, ?_⟩
  rw [parseTolerant, attemptLimit, recover, error?_eq_some.1 fails]
  simp only [cut]
  rw [recover, reads]

end Querymap.Script
