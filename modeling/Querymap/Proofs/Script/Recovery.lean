import Querymap.Proofs.Text.Trim
import Querymap.Script.Recovery

/-! Sources that break off. The beginnings that end with a statement or a line are tried from the error
backwards, so that the longest one that can be read is found unless too many stand before it. -/
namespace Querymap

namespace Text

theorem utf8Size_ascii {c : Char} (ascii : c.toNat < 128) : c.utf8Size = 1 := by
  rw [Char.utf8Size_eq_one_iff, UInt32.le_iff_toNat_le]
  exact Nat.le_of_lt_succ ascii

/-- A text is ASCII, as a computation says. -/
theorem ascii_of_all {text : List Char} (all : text.all (·.toNat < 128) = true) :
    ∀ c ∈ text, c.toNat < 128 := by
  simpa using all

theorem byteLength_ascii {text : List Char} (ascii : ∀ c ∈ text, c.toNat < 128) :
    byteLength text = text.length := by
  induction text with
  | nil => rfl
  | cons c rest ih =>
    obtain ⟨first, others⟩ := List.forall_mem_cons.1 ascii
    rw [byteLength, List.foldr_cons, utf8Size_ascii first, List.length_cons, Nat.add_comm]
    exact congrArg (· + 1) (ih others)

/-- What is dropped at the end of a text, and what is kept before it. -/
theorem dropEndWhile_append (drop : Char → Bool) (text : List Char) :
    ∃ dropped, text = dropEndWhile drop text ++ dropped ∧ ∀ c ∈ dropped, drop c = true := by
  induction text with
  | nil => exact ⟨[], rfl, fun _ member => absurd member List.not_mem_nil⟩
  | cons c rest ih =>
    obtain ⟨dropped, split, all⟩ := ih
    rw [dropEndWhile_cons]
    split
    · next gone =>
      rw [Bool.and_eq_true, List.isEmpty_iff] at gone
      rw [gone.1, List.nil_append] at split
      exact ⟨c :: rest, rfl, List.forall_mem_cons.2 ⟨gone.2, split ▸ all⟩⟩
    · exact ⟨dropped, congrArg (c :: ·) split, all⟩

end Text

namespace Script

def EndsStatement (text : List Char) : Prop := ∃ c ∈ text.getLast?, endsStatement c = true

instance (text : List Char) : Decidable (EndsStatement text) :=
  decidable_of_iff (text.getLast?.any endsStatement = true) (by simp [EndsStatement, Option.any_eq_true])

/-- The ends of statements and lines in a text. -/
def ends (text : List Char) : Nat := text.countP endsStatement

/-- The longest beginning of a source that ends before a place and can be read. -/
structure Longest {α : Type} (read : List Char → Except Failure α) (source : List Char) (offset : Nat)
    (kept : List Char) (result : α) : Prop where
  start : kept <+: source
  ended : EndsStatement kept
  before : kept.length ≤ offset
  reads : read kept = .ok result
  longest : ∀ longer, longer <+: source → EndsStatement longer → longer.length ≤ offset →
    kept.length < longer.length → ∃ error, read longer = .error error

theorem takeBytes?_ascii {limit : Nat} {text : List Char} (ascii : ∀ c ∈ text, c.toNat < 128) :
    takeBytes? limit text = some (text.take limit) := by
  induction text generalizing limit with
  | nil => cases limit <;> rfl
  | cons c rest ih =>
    obtain ⟨first, others⟩ := List.forall_mem_cons.1 ascii
    cases limit with
    | zero => rfl
    | succ limit => simp [takeBytes?, Text.utf8Size_ascii first, ih others]

section

variable {source kept : List Char} {offset : Nat}

theorem EndsStatement.ne_nil (ended : EndsStatement kept) : kept ≠ [] := by
  rintro rfl
  obtain ⟨_, last, _⟩ := ended
  contradiction

/-- Dropping what is no end of a statement does not reach into a beginning that is one. -/
theorem prefix_dropEndWhile (start : kept <+: source) (ended : EndsStatement kept) :
    kept <+: Text.dropEndWhile (!endsStatement ·) source := by
  obtain ⟨dropped, split, all⟩ := Text.dropEndWhile_append (!endsStatement ·) source
  rcases List.prefix_or_prefix_of_prefix start ⟨dropped, split.symm⟩ with inside | ⟨more, same⟩
  · exact inside
  · cases none : more.getLast? with
    | none =>
      rw [List.getLast?_eq_none_iff.1 none, List.append_nil] at same
      exact same ▸ List.prefix_refl _
    | some c =>
      obtain ⟨d, last, ends⟩ := ended
      rw [← same, List.getLast?_append, none] at last
      obtain rfl : c = d := Option.some.inj last
      rw [split, ← same, List.prefix_append_right_inj] at start
      have := all c (start.subset (List.mem_of_getLast? none))
      rw [ends] at this
      contradiction

theorem endsStatement_dropEndWhile (written : Text.dropEndWhile (!endsStatement ·) source ≠ []) :
    EndsStatement (Text.dropEndWhile (!endsStatement ·) source) := by
  have last := Text.getLast?_dropEndWhile (!endsStatement ·) source
  rw [List.getLast?_eq_some_getLast written] at last
  exact ⟨_, List.getLast?_eq_some_getLast written, by simpa using last _ rfl⟩

/-- A cut keeps a beginning that ends a statement in front of the error, and all ends of statements up to
the error. -/
theorem cutBefore?_ascii (ascii : ∀ c ∈ source, c.toNat < 128) (start : kept <+: source)
    (ended : EndsStatement kept) (limited : kept.length ≤ min offset (source.length - 1)) :
    ∃ cut, cutBefore? source offset = some cut ∧ kept <+: cut ∧
      cut <+: source.take (min offset (source.length - 1)) ∧ EndsStatement cut ∧
      ends (cut.drop kept.length) =
        ends ((source.take (min offset (source.length - 1))).drop kept.length) := by
  have early : kept <+: source.take (min offset (source.length - 1)) :=
    List.prefix_take_iff.2 ⟨start, limited⟩
  obtain ⟨dropped, split, all⟩ := Text.dropEndWhile_append (!endsStatement ·)
    (source.take (min offset (source.length - 1)))
  have inside := prefix_dropEndWhile early ended
  have written :
      Text.dropEndWhile (!endsStatement ·) (source.take (min offset (source.length - 1))) ≠ [] :=
    fun empty => ended.ne_nil (List.prefix_nil.1 (empty ▸ inside))
  refine ⟨_, ?_, inside, ⟨dropped, split.symm⟩, endsStatement_dropEndWhile written, ?_⟩
  · rw [cutBefore?, Text.byteLength_ascii ascii, takeBytes?_ascii ascii]
    dsimp only
    split
    · next empty => exact absurd empty written
    · rfl
  · have none : ends dropped = 0 := List.countP_eq_zero.2 fun c member => by simpa using all c member
    have whole := congrArg (fun text => ends (text.drop kept.length)) split
    simp only [ends, List.drop_append_of_le_length inside.length_le, List.countP_append] at whole none ⊢
    rw [whole, none, Nat.add_zero]

/-- What ends with a statement has more ends than what stands before its last character. -/
theorem ends_take_lt {text : List Char} {first limit : Nat} (ended : EndsStatement text)
    (shorter : limit < text.length) (later : first ≤ limit) :
    ends ((text.take limit).drop first) < ends (text.drop first) := by
  obtain ⟨c, last, counts⟩ := ended
  have member : c ∈ text.drop limit := by
    apply List.mem_of_getLast?
    rw [List.getLast?_drop, if_neg (Nat.not_le.2 shorter)]
    exact last
  have more : 0 < ends (text.drop limit) := List.countP_pos_iff.2 ⟨c, member, counts⟩
  have short : first ≤ (text.take limit).length := by
    rw [List.length_take]
    omega
  calc ends ((text.take limit).drop first)
    _ < ends ((text.take limit).drop first) + ends (text.drop limit) := Nat.lt_add_of_pos_right more
    _ = ends ((text.take limit ++ text.drop limit).drop first) := by
      rw [List.drop_append_of_le_length short, ends, ends, ends, List.countP_append]
    _ = ends (text.drop first) := by rw [List.take_append_drop]

end

section

variable {α : Type} {read : List Char → Except Failure α} {source kept : List Char} {offset : Nat}
  {result : α}

/-- What is longer than a beginning, but still before a place, has its error behind the beginning. -/
def BreaksBehind (read : List Char → Except Failure α) (source : List Char) (offset : Nat)
    (kept : List Char) : Prop :=
  ∀ longer error, longer <+: source → EndsStatement longer → longer.length ≤ offset →
    kept.length < longer.length → read longer = .error error → kept.length ≤ error.offset

/-- Every reading that fails is followed by one of a text with fewer ends of statements. -/
theorem Longest.recover_result (best : Longest read source offset kept result)
    (behind : BreaksBehind read source offset kept) (ascii : ∀ c ∈ source, c.toNat < 128) {attempts : Nat}
    {text : List Char} {failure : Failure} (start : text <+: source) (fails : read text = .error failure)
    (limited : min failure.offset (text.length - 1) ≤ offset)
    (later : kept.length ≤ min failure.offset (text.length - 1)) (inside : kept <+: text)
    (few : ends ((text.take (min failure.offset (text.length - 1))).drop kept.length) + 2 ≤ attempts) :
    (recover read attempts text).result = some result := by
  induction attempts generalizing text failure with
  | zero => omega
  | succ attempts ih =>
    have ascii' : ∀ c ∈ text, c.toNat < 128 := fun c member => ascii c (start.subset member)
    obtain ⟨cut, found, kept_cut, cut_text, ended, same⟩ :=
      cutBefore?_ascii ascii' inside best.ended later
    rw [recover, fails]
    simp only [found]
    have bound : cut.length ≤ min failure.offset (text.length - 1) := by
      have := cut_text.length_le
      rw [List.length_take] at this
      omega
    have start' : cut <+: source := (cut_text.trans (List.take_prefix _ _)).trans start
    rcases Nat.eq_or_lt_of_le kept_cut.length_le with equal | longer
    · obtain rfl := kept_cut.eq_of_length equal
      obtain ⟨attempts, rfl⟩ := Nat.exists_eq_add_of_le' (show 1 ≤ attempts by omega)
      rw [recover, best.reads]
    · have early := Nat.le_trans bound limited
      obtain ⟨error, fails'⟩ := best.longest cut start' ended early longer
      have := behind cut error start' ended early longer fails'
      have fewer : ends ((cut.take (min error.offset (cut.length - 1))).drop kept.length) <
          ends (cut.drop kept.length) := ends_take_lt ended (by omega) (by omega)
      exact ih start' fails' (by omega) (by omega) kept_cut (by omega)

end

theorem failure_recover {α : Type} {read : List Char → Except Failure α} {source : List Char}
    {failure : Failure} (attempts : Nat) (fails : read source = .error failure) :
    (recover read (attempts + 1) source).failure = some failure := by
  rw [recover, fails]
  dsimp only
  split <;> rfl

/-- Where the source of a script breaks off, the longest beginning that can be read is what is kept of it,
with the first error, if at most 62 ends of statements stand between that beginning and the error. -/
theorem parseTolerant_keeps (source : String) (failure : Failure) (kept : List Char) (result : List Tree)
    (ascii : ∀ c ∈ source.toList, c.toNat < 128)
    (fails : readItems .plain source.toList = .error failure)
    (best : Longest (readItems .plain) source.toList failure.offset kept result)
    (behind : BreaksBehind (readItems .plain) source.toList failure.offset kept)
    (few : ends ((source.toList.take failure.offset).drop kept.length) ≤ 62) :
    parseTolerant source = ⟨some result, some failure⟩ := by
  have proper : kept.length < source.toList.length := by
    refine Nat.lt_of_le_of_ne best.start.length_le fun equal => ?_
    have whole := best.reads
    rw [best.start.eq_of_length equal, fails] at whole
    contradiction
  have fewer :
      ends ((source.toList.take (min failure.offset (source.toList.length - 1))).drop kept.length) ≤
        ends ((source.toList.take failure.offset).drop kept.length) := by
    rw [Nat.min_comm, ← List.take_take]
    exact ((List.take_sublist _ _).drop _).countP_le
  have found : (parseTolerant source).result = some result := by
    apply best.recover_result behind ascii (List.prefix_refl _) fails (Nat.min_le_left _ _)
    · exact Nat.le_min.2 ⟨best.before, by omega⟩
    · exact best.start
    · rw [attemptLimit]
      omega
  have failed : (parseTolerant source).failure = some failure := failure_recover 63 fails
  match parseTolerant source, found, failed with
  | ⟨_, _⟩, rfl, rfl => rfl

/-- The error of a reading that fails. -/
def error? {α : Type} : Except Failure α → Option Failure
  | .error failure => some failure
  | .ok _ => none

theorem error?_eq_some {α : Type} {read : Except Failure α} {failure : Failure} :
    error? read = some failure ↔ read = .error failure := by
  cases read <;> simp [error?]

theorem error?_eq_none {α : Type} {read : Except Failure α} :
    error? read = none ↔ ∃ result, read = .ok result := by
  cases read <;> simp [error?]

/-- A list that is not closed: the cut goes past the end of a line in it. -/
theorem parseTolerant_list :
    ∃ result, readItems .plain "a;".toList = .ok result ∧
      parseTolerant "a;[\n,\n" = ⟨some result, some ⟨2, 5⟩⟩ := by
  have reads : error? (readItems .plain "a;".toList) = none := by decide +kernel
  have fails : error? (readItems .plain "a;[\n,\n".toList) = some ⟨2, 5⟩ := by decide +kernel
  have between : error? (readItems .plain ("a;[\n,\n".toList.take 4)) = some ⟨1, 3⟩ := by
    decide +kernel
  obtain ⟨result, reads⟩ := error?_eq_none.1 reads
  refine ⟨result, reads, ?_⟩
  have only : ∀ longer, longer <+: "a;[\n,\n".toList → EndsStatement longer → longer.length ≤ 5 →
      "a;".toList.length < longer.length → longer = "a;[\n,\n".toList.take 4 := by
    intro longer start ended early more
    have inside : ∀ n, n ≤ 5 → "a;".toList.length < n →
        EndsStatement ("a;[\n,\n".toList.take n) → n = 4 := by
      decide
    have whole := List.prefix_iff_eq_take.1 start
    rw [whole, inside longer.length early more (whole ▸ ended)]
  have best : Longest (readItems .plain) "a;[\n,\n".toList 5 "a;".toList result := by
    refine ⟨by decide, by decide, by decide, reads, fun longer start ended early more => ?_⟩
    rw [only longer start ended early more]
    exact ⟨_, error?_eq_some.1 between⟩
  refine parseTolerant_keeps "a;[\n,\n" ⟨2, 5⟩ _ _ (Text.ascii_of_all (by decide))
    (error?_eq_some.1 fails) best ?_ (by decide)
  intro longer error start ended early more broken
  rw [only longer start ended early more, error?_eq_some.1 between] at broken
  cases broken
  decide

/-- A list that is not closed, with a number of lines in it. -/
def unclosed (lines : Nat) : List Char :=
  ";[\n".toList ++ (List.replicate lines ",\n".toList).flatten

theorem unclosed_ascii (lines : Nat) : ∀ c ∈ unclosed lines, c.toNat < 128 := by
  intro c member
  rcases List.mem_append.1 member with first | others
  · exact Text.ascii_of_all (by decide) c first
  · obtain ⟨line, inside, member⟩ := List.mem_flatten.1 others
    rw [List.eq_of_mem_replicate inside] at member
    exact Text.ascii_of_all (by decide) c member

theorem unclosed_breaks : ∀ lines < 64,
    error? (readItems .plain (unclosed lines)) = some ⟨lines + 1, 2 * lines + 2⟩ := by
  decide +kernel

theorem cutBefore?_unclosed : ∀ lines < 63,
    cutBefore? (unclosed (lines + 1)) (2 * lines + 4) = some (unclosed lines) := by
  decide

/-- One reading more takes one line off. -/
theorem recover_unclosed (lines : Nat) (few : lines < 64) :
    (recover (readItems .plain) (lines + 1) (unclosed lines)).result = none := by
  induction lines with
  | zero =>
    rw [recover, error?_eq_some.1 (unclosed_breaks 0 few)]
    dsimp only
    split <;> rfl
  | succ lines ih =>
    have cut := cutBefore?_unclosed lines (Nat.lt_of_succ_lt_succ few)
    rw [recover, error?_eq_some.1 (unclosed_breaks (lines + 1) few)]
    simp only [Nat.mul_add, Nat.mul_one, Nat.add_assoc, Nat.reduceAdd, cut]
    exact ih (Nat.lt_of_succ_lt few)

/-- The statement before the list is lost when 63 lines end in the list before the error. -/
theorem parseTolerant_unclosed :
    (∀ c ∈ unclosed 63, c.toNat < 128) ∧
      readItems .plain (unclosed 63) = .error ⟨64, 128⟩ ∧
      ";".toList <+: unclosed 63 ∧ EndsStatement ";".toList ∧
      (∃ result, readItems .plain ";".toList = .ok result) ∧
      (parseTolerant (String.ofList (unclosed 63))).result = none := by
  refine ⟨unclosed_ascii 63, error?_eq_some.1 (unclosed_breaks 63 (by decide)), ⟨_, rfl⟩,
    by decide, ?_, ?_⟩
  · exact error?_eq_none.1 (by decide +kernel)
  · rw [parseTolerant, String.toList_ofList]
    exact recover_unclosed 63 (by decide)

end Script

end Querymap
