import Querymap.Proofs.Dict
import Querymap.Proofs.Extraction

/-! Outcomes of extracting many files. If each file has one result of its own, the typings are those of
the files that succeed, and the first error is that of the first failing file in path order. -/
namespace Querymap.Outcome

/-- The typings of results are those of the files that succeed, if no path has two results. -/
theorem get?_typings_ofResults {results : List (Path × Except ExtractError Extracted)}
    (functional : ∀ a ∈ results, ∀ b ∈ results, a.1 = b.1 → a.2 = b.2) {path : Path} {map : ScopeMap} :
    (ofResults results).typings.get? path.spelling = some map ↔
      ∃ extracted, (path, .ok extracted) ∈ results ∧ extracted.map = map := by
  have entries : ∀ {name map}, (name, map) ∈
      (results.filterMap fun entry =>
        entry.2.toOption.map fun extracted => (entry.1.spelling, extracted.map)) ↔
      ∃ extracted, ((⟨name⟩ : Path), .ok extracted) ∈ results ∧ extracted.map = map := by
    intro name map
    simp only [List.mem_filterMap]
    constructor
    · rintro ⟨⟨path, result⟩, member, found⟩
      cases result with
      | error => simp [Except.toOption] at found
      | ok extracted =>
        simp only [Except.toOption, Option.map_some, Option.some.injEq, Prod.mk.injEq] at found
        obtain ⟨rfl, rfl⟩ := found
        exact ⟨extracted, member, rfl⟩
    · rintro ⟨extracted, member, rfl⟩
      exact ⟨_, member, rfl⟩
  refine (Dict.get?_ofList_eq_some_iff ?_).trans entries
  rintro ⟨name, a⟩ first ⟨_, b⟩ second rfl
  obtain ⟨one, memberOne, rfl⟩ := entries.1 first
  obtain ⟨two, memberTwo, rfl⟩ := entries.1 second
  cases functional _ memberOne _ memberTwo rfl
  rfl

theorem mem_errors_ofResults {results : List (Path × Except ExtractError Extracted)} {name : String}
    {error : ExtractError} :
    (name, error) ∈ (ofResults results).errors ↔ ((⟨name⟩ : Path), .error error) ∈ results := by
  simp only [ofResults, List.mem_mergeSort, List.mem_filterMap]
  constructor
  · rintro ⟨⟨path, result⟩, member, found⟩
    cases result with
    | ok => simp at found
    | error cause =>
      simp only [Option.some.injEq, Prod.mk.injEq] at found
      obtain ⟨rfl, rfl⟩ := found
      exact member
  · intro member
    exact ⟨_, member, rfl⟩

/-- One result for each path, whatever stands around it. -/
def ofFunction (result : Path → Except ExtractError Extracted) (paths : List Path) : Outcome :=
  ofResults (paths.map fun path => (path, result path))

variable {result : Path → Except ExtractError Extracted} {paths : List Path}

theorem get?_typings_ofFunction {path : Path} {map : ScopeMap} :
    (ofFunction result paths).typings.get? path.spelling = some map ↔
      path ∈ paths ∧ ∃ extracted, result path = .ok extracted ∧ extracted.map = map := by
  refine (get?_typings_ofResults ?_).trans ?_
  · rintro _ first _ second same
    obtain ⟨path, _, rfl⟩ := List.mem_map.1 first
    obtain ⟨other, _, rfl⟩ := List.mem_map.1 second
    exact congrArg result same
  · simp only [List.mem_map, Prod.mk.injEq]
    constructor
    · rintro ⟨extracted, ⟨_, member, rfl, read⟩, same⟩
      exact ⟨member, extracted, read, same⟩
    · rintro ⟨member, extracted, read, same⟩
      exact ⟨extracted, ⟨path, member, rfl, read⟩, same⟩

theorem mem_errors_ofFunction {name : String} {error : ExtractError} :
    (name, error) ∈ (ofFunction result paths).errors ↔
      ∃ path ∈ paths, path.spelling = name ∧ result path = .error error := by
  refine mem_errors_ofResults.trans ?_
  simp only [List.mem_map, Prod.mk.injEq]
  constructor
  · rintro ⟨_, member, rfl, failed⟩
    exact ⟨_, member, rfl, failed⟩
  · rintro ⟨path, member, rfl, failed⟩
    exact ⟨path, member, rfl, failed⟩

theorem errors_ofResults_sorted (results : List (Path × Except ExtractError Extracted)) :
    (ofResults results).errors.Pairwise (·.1 ≤ ·.1) := by
  refine (List.pairwise_mergeSort ?_ ?_ _).imp of_decide_eq_true
  · intro a b c first second
    simp only [decide_eq_true_eq] at *
    exact String.le_trans first second
  · intro a b
    simpa only [Bool.or_eq_true, decide_eq_true_eq] using String.le_total a.1 b.1

/-- Every listed file succeeds, and the model is that of exactly their typings. -/
def AllRead (result : Path → Except ExtractError Extracted) (paths : List Path)
    (answer : Except ExtractError Model) : Prop :=
  (∀ path ∈ paths, ∃ extracted, result path = .ok extracted) ∧
    ∃ typings : FileTypings,
      (∀ path map, typings.get? path.spelling = some map ↔
        path ∈ paths ∧ ∃ extracted, result path = .ok extracted ∧ extracted.map = map) ∧
      answer = .ok typings.mergeAll

/-- Some listed file fails, and the error is that of the first such file in path order. -/
def FirstFailure (result : Path → Except ExtractError Extracted) (paths : List Path)
    (answer : Except ExtractError Model) : Prop :=
  ∃ path ∈ paths, ∃ error, result path = .error error ∧ answer = .error error ∧
    ∀ other ∈ paths, ∀ cause, result other = .error cause → path.spelling ≤ other.spelling

theorem errors_eq_nil_iff :
    (ofFunction result paths).errors = [] ↔
      ∀ path ∈ paths, ∃ extracted, result path = .ok extracted := by
  rw [List.eq_nil_iff_forall_not_mem]
  constructor
  · intro none path member
    cases failed : result path with
    | ok extracted => exact ⟨extracted, rfl⟩
    | error cause => exact absurd (mem_errors_ofFunction.2 ⟨path, member, rfl, failed⟩) (none _)
  · rintro all ⟨name, error⟩ member
    obtain ⟨path, listed, _, failed⟩ := mem_errors_ofFunction.1 member
    obtain ⟨extracted, read⟩ := all path listed
    cases failed.symm.trans read

theorem firstFailure_of_errors {name : String} {error : ExtractError}
    {others : List (String × ExtractError)}
    (errors : (ofFunction result paths).errors = (name, error) :: others) :
    FirstFailure result paths (.error error) := by
  obtain ⟨path, listed, rfl, failed⟩ := mem_errors_ofFunction.1 (errors ▸ List.mem_cons_self)
  refine ⟨path, listed, error, failed, rfl, fun other among cause broken => ?_⟩
  have sorted : (ofFunction result paths).errors.Pairwise (·.1 ≤ ·.1) := errors_ofResults_sorted _
  have member := mem_errors_ofFunction.2 ⟨other, among, rfl, broken⟩
  rw [errors] at sorted member
  rcases List.mem_cons.1 member with same | member
  · have equal : other.spelling = path.spelling := congrArg Prod.fst same
    exact equal ▸ String.le_refl _
  · exact (List.pairwise_cons.1 sorted).1 _ member

/-- What extracting every file of a list by itself comes to. -/
def FromScratch (result : Path → Except ExtractError Extracted) (paths : List Path)
    (answer : Except ExtractError Model) : Prop :=
  AllRead result paths answer ∨ FirstFailure result paths answer

theorem FromScratch.unique {a b : Except ExtractError Model} (first : FromScratch result paths a)
    (second : FromScratch result paths b) : a = b := by
  rcases first with ⟨read, typings, described, rfl⟩ | ⟨path, listed, error, failed, rfl, least⟩
  · rcases second with ⟨_, typings', described', rfl⟩ | ⟨path, listed, error, failed, _, _⟩
    · have same : typings = typings' := by
        refine Dict.ext_get? fun key => Option.ext fun map => ?_
        exact (described ⟨key⟩ map).trans (described' ⟨key⟩ map).symm
      rw [same]
    · obtain ⟨extracted, succeeded⟩ := read path listed
      cases failed.symm.trans succeeded
  · rcases second with ⟨read, _⟩ | ⟨path', listed', error', failed', rfl, least'⟩
    · obtain ⟨extracted, succeeded⟩ := read path listed
      cases failed.symm.trans succeeded
    · have same : path = path' := congrArg Path.mk <|
        String.le_antisymm (least path' listed' error' failed') (least' path listed error failed)
      subst same
      cases failed.symm.trans failed'
      rfl

theorem model_ofFunction : FromScratch result paths (ofFunction result paths).model := by
  simp only [model]
  cases errors : (ofFunction result paths).errors with
  | nil =>
    exact .inl ⟨errors_eq_nil_iff.1 errors, _, fun _ _ => get?_typings_ofFunction, rfl⟩
  | cons first others => exact .inr (firstFailure_of_errors errors)

end Querymap.Outcome

namespace Querymap

/-- Includeless files are extracted as if each were alone. -/
theorem extractShare_of_includeless {source : Source} {paths : List Path} (options : Options)
    (free : ∀ path ∈ paths, source.Includeless path) (includes : Pug.Includes) :
    extractShare source options paths includes =
      paths.map fun path => (path, extractAlone source options path) := by
  induction paths with
  | nil => rfl
  | cons path rest ih =>
    simp only [extractShare, run_extractFile options (free path List.mem_cons_self),
      ih fun other member => free other (List.mem_cons_of_mem _ member), List.map_cons]

theorem extractFiles_of_includeless {source : Source} {paths : List Path} (options : Options)
    (free : ∀ path ∈ paths, source.Includeless path) (skipped : List String) :
    extractFiles source options skipped paths =
      .ofFunction (extractAlone source options)
        (paths.filter (!skipped.contains ·.spelling)) := by
  simp only [extractFiles, extractShares, List.flatMap_cons, List.flatMap_nil, List.append_nil]
  rw [extractShare_of_includeless options fun path member =>
    free path (List.mem_filter.1 member).1]
  rfl

end Querymap
