import Mathlib.Data.List.Chain
import Querymap.Extract
import Querymap.Proofs.Script.Cuts

/-! The readings behind a recovery, whatever the reader answers. They are of ever shorter beginnings of the
source; the last one gives the result and the first one the error. -/
namespace Querymap

namespace Script

/-- The recovery of `recover` with a reader that may do more than answer. -/
def recoverIn {m : Type → Type} [Monad m] {α : Type} (read : List Char → m (Except Failure α)) :
    (attempts : Nat) → List Char → m (Recovered α)
  | 0, _ => return ⟨none, none⟩
  | attempts + 1, source => do
    match ← read source with
    | .ok result => return ⟨some result, none⟩
    | .error failure =>
      match cutBefore? source failure.offset with
      | none => return ⟨none, some failure⟩
      | some kept => return ⟨(← recoverIn read attempts kept).result, some failure⟩

/-- A reader that notes the texts it is asked to read, the last one at the end. -/
def noting {α : Type} (read : List Char → Except Failure α) (text : List Char) :
    StateM (List (List Char)) (Except Failure α) := do
  modify (· ++ [text])
  return read text

variable {α : Type} {read : List Char → Except Failure α}

/-- The texts that are read of a source, in order. -/
def tried (read : List Char → Except Failure α) : (attempts : Nat) → List Char → List (List Char)
  | 0, _ => []
  | attempts + 1, source =>
    match read source with
    | .ok _ => [source]
    | .error failure =>
      match cutBefore? source failure.offset with
      | none => [source]
      | some kept => source :: tried read attempts kept

/-- The texts that are read of a source are the source and beginnings of it. Each ends just behind a statement
or a line and is strictly shorter than the one before it, which could not be read. Only a reading that
succeeds, an error without a cut and the number of readings put an end to them. -/
structure Tries (read : List Char → Except Failure α) (attempts : Nat) (source : List Char)
    (texts : List (List Char)) : Prop where
  first : texts.head? = some source
  few : texts.length ≤ attempts
  inside : ∀ text ∈ texts, text <+: source
  shorter : texts.IsChain fun text next => next <+: text ∧ next.length < text.length ∧
    EndsStatement next ∧ ∃ failure, read text = .error failure ∧
      cutBefore? text failure.offset = some next
  ended : ∀ last ∈ texts.getLast?, ∀ failure, read last = .error failure →
    cutBefore? last failure.offset = none ∨ texts.length = attempts

/-- What the recovery asks of its reader are the texts that are tried, each once. -/
theorem run_recoverIn (attempts : Nat) (source : List Char) (noted : List (List Char)) :
    (recoverIn (noting read) attempts source).run noted =
      pure (recover read attempts source, noted ++ tried read attempts source) := by
  induction attempts generalizing source noted with
  | zero => simp [recoverIn, recover, tried]
  | succ attempts ih =>
    have asked : (noting read source).run noted = pure (read source, noted ++ [source]) := rfl
    rw [recoverIn, StateT.run_bind, asked, pure_bind, recover, tried]
    cases read source with
    | ok result => rfl
    | error failure =>
      dsimp only
      cases cutBefore? source failure.offset with
      | none => rfl
      | some kept =>
        dsimp only
        rw [StateT.run_bind, ih, pure_bind, List.append_assoc]
        rfl

section

variable {attempts : Nat} {source kept : List Char} {texts : List (List Char)}

theorem Tries.one (ended : ∀ failure, read source = .error failure →
    cutBefore? source failure.offset = none ∨ attempts = 0) : Tries read (attempts + 1) source [source] where
  first := rfl
  few := by simp
  inside := by simp
  shorter := by simp
  ended := by simpa [eq_comm] using ended

theorem Tries.ne_nil (tries : Tries read attempts source texts) : texts ≠ [] := by
  rintro rfl
  exact absurd tries.first (by simp)

/-- A text that cannot be read comes before the tries of what a cut keeps of it. -/
theorem Tries.cons {failure : Failure} (fails : read source = .error failure)
    (cut : cutBefore? source failure.offset = some kept) (tries : Tries read attempts kept texts) :
    Tries read (attempts + 1) source (source :: texts) := by
  obtain ⟨leads, fewer, ends⟩ := cutBefore?_shortens cut
  refine ⟨rfl, Nat.succ_le_succ tries.few, ?_, List.isChain_cons.2 ⟨?_, tries.shorter⟩, ?_⟩
  · exact List.forall_mem_cons.2
      ⟨List.prefix_refl _, fun text member => (tries.inside text member).trans leads⟩
  · rw [tries.first]
    rintro _ ⟨⟩
    exact ⟨leads, fewer, ends, failure, fails, cut⟩
  · obtain ⟨first, others, rfl⟩ := List.exists_cons_of_ne_nil tries.ne_nil
    rw [List.getLast?_cons_cons]
    intro last found error broken
    exact (tries.ended last found error broken).imp_right fun all => by simpa using all

theorem tries_tried (attempts : Nat) (source : List Char) :
    Tries read (attempts + 1) source (tried read (attempts + 1) source) := by
  induction attempts generalizing source with
  | zero =>
    have alone : tried read 1 source = [source] := by
      simp only [tried]
      split
      · rfl
      · split <;> rfl
    exact alone ▸ Tries.one fun _ _ => .inr rfl
  | succ attempts ih =>
    rw [tried]
    split
    · next result reads =>
      exact Tries.one fun failure fails => by simp [reads] at fails
    · next failure fails =>
      split
      · next none =>
        exact Tries.one fun other broken => .inl (by rwa [← Except.error.inj (fails.symm.trans broken)])
      · next kept cut => exact (ih kept).cons fails cut

/-- The last text that is tried gives the result. -/
theorem result_recover (attempts : Nat) (source : List Char) :
    (recover read attempts source).result =
      (tried read attempts source).getLast?.bind fun last => (read last).toOption := by
  induction attempts generalizing source with
  | zero => rfl
  | succ attempts ih =>
    rw [recover, tried]
    cases reads : read source with
    | ok result => simp [reads, Except.toOption]
    | error failure =>
      dsimp only
      cases cutBefore? source failure.offset with
      | none => simp [reads, Except.toOption]
      | some kept =>
        simp only [ih]
        cases tried read attempts kept with
        | nil => simp [reads, Except.toOption]
        | cons first others => rw [List.getLast?_cons_cons]

/-- The first text that is tried, the source, gives the error. -/
theorem recover_failure (attempts : Nat) (source : List Char) :
    (recover read (attempts + 1) source).failure = error? (read source) := by
  cases reads : read source with
  | ok result => rw [recover, reads, error?]
  | error failure => rw [failure_recover attempts reads, error?]

end

end Script

namespace Extract

open Script

/-- The extraction from compiled scripts by any reader of them. -/
def compiledBy (read : List Char → Except Failure (List Tree)) (factory content : String) : Extracted :=
  let recovered := recover read attemptLimit content.toList
  { map := recordAllCalls factory .default {} (recovered.result.getD [])
    brokenOff := recovered.failure.map (·.line) }

theorem compiled_eq (factory content : String) :
    compiled factory content = compiledBy (readItems .plain) factory content := rfl

end Extract

open Script in
/-- Whatever the reader of scripts answers, it is asked for at most 64 texts: the source and then strictly
shorter beginnings of it that end behind a statement or a line. The result is that of the last one, the error
that of the first one, and the extraction is that of the result, or empty without one. -/
theorem compiled_reads (read : List Char → Except Failure (List Tree)) (factory content : String) :
    ∃ texts last, Tries read 64 content.toList texts ∧ last ∈ texts.getLast? ∧
      (recoverIn (noting read) attemptLimit content.toList).run [] =
        pure (recover read attemptLimit content.toList, texts) ∧
      recover read attemptLimit content.toList =
        ⟨(read last).toOption, error? (read content.toList)⟩ ∧
      Extract.compiledBy read factory content =
        { map := ((read last).toOption.map (recordAllCalls factory .default {})).getD {}
          brokenOff := (error? (read content.toList)).map (·.line) } ∧
      ∀ source mode path,
        extractOne source { factory := some factory, scopeMode := mode } .compiledJsx path content =
          if factory.isEmpty then .error .missingFactory
          else .ok (Extract.compiledBy (readItems .plain) factory content) := by
  have tries : Tries read 64 content.toList (tried read 64 content.toList) := tries_tried 63 content.toList
  obtain ⟨last, found⟩ := Option.isSome_iff_exists.1 (List.getLast?_isSome.2 tries.ne_nil)
  have result : (recover read 64 content.toList).result =
      (tried read 64 content.toList).getLast?.bind fun last => (read last).toOption :=
    result_recover 64 content.toList
  have failure : (recover read 64 content.toList).failure = error? (read content.toList) :=
    recover_failure 63 content.toList
  rw [found, Option.bind_some] at result
  have recovered : recover read 64 content.toList =
      ⟨(read last).toOption, error? (read content.toList)⟩ := by
    match recover read 64 content.toList, result, failure with
    | ⟨_, _⟩, rfl, rfl => rfl
  refine ⟨_, last, tries, found, run_recoverIn 64 content.toList [], recovered, ?_, ?_⟩
  · rw [Extract.compiledBy, attemptLimit, recovered]
    cases read last <;> rfl
  · intro source mode path
    unfold extractOne extract
    simp only [← Extract.compiled_eq, Option.filter_some]
    cases factory.isEmpty <;> rfl

end Querymap
