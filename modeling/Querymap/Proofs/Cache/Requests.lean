import Querymap.Proofs.Cache.Includers

/-! What a single request makes of a cache, after whatever run. An entry carries the number of the
computation that extracted it; in a cache that comes from a run no entry is as new as the next
computation, so the number tells an entry that was carried over from one that was extracted again. -/
namespace Querymap.Cache

variable {options : Options} {files : Files} {paths : List Path} {cache : Cache}

/-- Every entry stems from an earlier computation. -/
def Numbered (cache : Cache) : Prop :=
  ∀ path entry, cache.entries.get? path = some entry → entry.computation < cache.computations

theorem Numbered.forget (numbered : cache.Numbered) (path : Path) : (cache.forget path).Numbered := by
  intro other entry found
  simp only [Cache.forget, Dict.get?_erase] at found
  split at found
  · contradiction
  · exact numbered other entry found

theorem Numbered.renewed (numbered : cache.Numbered) (outcome : Outcome) (paths : List Path) :
    Numbered ⟨cache.renewed outcome paths, cache.computations + 1⟩ := by
  intro path entry found
  rw [get?_renewed cache outcome paths ⟨path⟩] at found
  split at found
  · rcases Option.or_eq_some_iff.1 found with known | ⟨_, extracted⟩
    · exact Nat.lt_succ_of_lt (numbered path entry known)
    · obtain ⟨map, _, rfl⟩ := Option.map_eq_some_iff.1 extracted
      exact Nat.lt_succ_self _
  · contradiction

namespace Watch

variable {watch : Watch}

theorem numbered_refresh (numbered : watch.cache.Numbered) (paths : List Path) :
    (watch.refresh options paths).1.cache.Numbered := by
  simp only [Watch.refresh, Cache.refresh]
  cases (extractFiles watch.files.source options watch.cache.entries.keys paths).errors with
  | cons first others => exact numbered
  | nil => exact numbered.renewed _ _

theorem numbered_step (numbered : watch.cache.Numbered) (step : Step) :
    (watch.step options step).1.cache.Numbered := by
  cases step with
  | edit edit => exact numbered
  | refresh paths => exact numbered_refresh numbered paths
  | change path paths => exact @numbered_refresh options (watch.forget path) (numbered.forget path) paths

/-- The watch at the end of a run. -/
def run (options : Options) (watch : Watch) (steps : List Step) : Watch :=
  steps.foldl (fun watch step => (watch.step options step).1) watch

theorem numbered_run (numbered : watch.cache.Numbered) (steps : List Step) :
    (watch.run options steps).cache.Numbered := by
  induction steps generalizing watch with
  | nil => exact numbered
  | cons step rest ih => exact ih (numbered_step numbered step)

end Watch

/-- The entries after a request that succeeds: one for each listed path, as it was if there was one,
and otherwise what the file gives now. -/
structure Carried (options : Options) (files : Files) (paths : List Path) (before after : Cache) :
    Prop where
  listed : ∀ name, name ∈ after.entries.keys ↔ name ∈ paths.map (·.spelling)
  once : after.entries.keys.Nodup
  kept : ∀ path ∈ paths, ∀ entry, before.entries.get? path.spelling = some entry →
    after.entries.get? path.spelling = some entry
  fresh : ∀ path ∈ paths, before.entries.get? path.spelling = none →
    ∃ extracted, extractAlone files.source options path = .ok extracted ∧
      after.entries.get? path.spelling = some ⟨extracted.map, before.computations⟩
  /-- Exactly the entries that were not there bear the number of this computation. -/
  reused : ∀ path entry, after.entries.get? path = some entry →
    (entry.computation = before.computations ↔ before.entries.get? path = none)

/-- A request fails with the first failure among the files that are not known, and leaves the cache as it
is; or it succeeds and carries the entries over. -/
inductive Requested (options : Options) (files : Files) (paths : List Path) (before : Cache) :
    Except ExtractError Model → Cache → Prop
  | failed {error : ExtractError}
      (first : Outcome.FirstFailure (extractAlone files.source options) (before.unknown paths)
        (.error error)) :
      Requested options files paths before (.error error) before
  | done {after : Cache} (carried : Carried options files paths before after) :
      Requested options files paths before (.ok after.model) after

section

variable {outcome : Outcome} {path : Path} {name : String} {entry : Entry}

theorem listed_of_renewed (found : (cache.renewed outcome paths).get? name = some entry) :
    (⟨name⟩ : Path) ∈ paths := by
  rw [get?_renewed cache outcome paths ⟨name⟩] at found
  split at found
  · assumption
  · contradiction

theorem kept_renewed (listed : path ∈ paths)
    (known : cache.entries.get? path.spelling = some entry) :
    (cache.renewed outcome paths).get? path.spelling = some entry := by
  rw [get?_renewed, if_pos listed, known, Option.some_or]

theorem fresh_renewed
    (errors : (Outcome.ofFunction (extractAlone files.source options) (cache.unknown paths)).errors = [])
    (listed : path ∈ paths) (absent : cache.entries.get? path.spelling = none) :
    ∃ extracted, extractAlone files.source options path = .ok extracted ∧
      (cache.renewed (.ofFunction (extractAlone files.source options) (cache.unknown paths)) paths).get?
        path.spelling = some ⟨extracted.map, cache.computations⟩ := by
  have unknown : path ∈ cache.unknown paths := mem_unknown.2 ⟨listed, absent⟩
  obtain ⟨extracted, read⟩ := Outcome.errors_eq_nil_iff.1 errors path unknown
  refine ⟨extracted, read, ?_⟩
  rw [get?_renewed, if_pos listed, absent, Outcome.get?_typings_ofFunction.2 ⟨unknown, extracted, read, rfl⟩]
  rfl

end

theorem carried_renewed (numbered : cache.Numbered)
    (errors : (Outcome.ofFunction (extractAlone files.source options) (cache.unknown paths)).errors = []) :
    Carried options files paths cache
      ⟨cache.renewed (.ofFunction (extractAlone files.source options) (cache.unknown paths)) paths,
        cache.computations + 1⟩ where
  listed name := by
    rw [Dict.mem_keys_iff, Option.isSome_iff_exists]
    constructor
    · rintro ⟨entry, found⟩
      exact List.mem_map.2 ⟨⟨name⟩, listed_of_renewed found, rfl⟩
    · intro member
      obtain ⟨path, listed, rfl⟩ := List.mem_map.1 member
      cases known : cache.entries.get? path.spelling with
      | some entry => exact ⟨entry, kept_renewed listed known⟩
      | none =>
        obtain ⟨extracted, _, found⟩ := fresh_renewed errors listed known
        exact ⟨_, found⟩
  once := by
    apply (Dict.keys_sorted _).imp
    rintro name _ less rfl
    exact String.lt_irrefl name less
  kept _ listed _ known := kept_renewed listed known
  fresh _ listed absent := fresh_renewed errors listed absent
  reused name entry found := by
    have listed := listed_of_renewed found
    cases known : cache.entries.get? name with
    | some old =>
      cases (@kept_renewed _ _ _ ⟨name⟩ old listed known).symm.trans found
      simpa using Nat.ne_of_lt (numbered name entry known)
    | none =>
      obtain ⟨extracted, _, new⟩ := @fresh_renewed _ _ _ _ ⟨name⟩ errors listed known
      cases new.symm.trans found
      simp

theorem requested_refresh (watch : Watch) (numbered : watch.cache.Numbered) (paths : List Path) :
    Requested options watch.files paths watch.cache (watch.refresh options paths).2.result
      (watch.refresh options paths).1.cache := by
  simp only [Watch.refresh, Cache.refresh, refresh_outcome]
  cases errors : (Outcome.ofFunction (extractAlone watch.files.source options)
      (watch.cache.unknown paths)).errors with
  | cons first others => exact .failed (Outcome.firstFailure_of_errors errors)
  | nil => exact .done (carried_renewed numbered errors)

/-- Whatever run a cache comes from and whatever the files are by now: a request for some files carries
its entries over, and so does word of a change, after which the changed file alone is forgotten. -/
theorem requested_after_run (options : Options) (start : Files) (steps : List Step) (files : Files)
    (changed : Path) (paths : List Path) :
    let watch : Watch := { Watch.run options ⟨start, {}⟩ steps with files }
    Requested options files paths watch.cache (watch.refresh options paths).2.result
        (watch.refresh options paths).1.cache ∧
      Requested options files paths (watch.cache.forget changed)
        ((watch.forget changed).refresh options paths).2.result
        ((watch.forget changed).refresh options paths).1.cache ∧
      ∀ name, (watch.cache.forget changed).entries.get? name =
        if name = changed.spelling then none else watch.cache.entries.get? name := by
  intro watch
  have numbered : watch.cache.Numbered :=
    Watch.numbered_run (fun _ _ found => by simp at found) steps
  exact ⟨requested_refresh watch numbered paths,
    requested_refresh (watch.forget changed) (numbered.forget changed) paths,
    fun name => Dict.get?_erase ..⟩

end Querymap.Cache
