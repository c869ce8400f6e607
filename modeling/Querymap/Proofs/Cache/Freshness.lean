import Querymap.Proofs.Cache.Run
import Querymap.Proofs.Pug.Steps

/-! A watched run over includeless files in which every edit is told of at once. What the cache knows
then always holds of the files as they are, so each answer is that of an extraction from scratch. -/
namespace Querymap.Cache

/-- Each edit of a file is followed at once by word of its change. -/
inductive Announced : List Step → Prop
  | nil : Announced []
  | edit {edit : Files.Edit} {paths : List Path} {rest : List Step} :
      Announced rest → Announced (.edit edit :: .change edit.path paths :: rest)
  | refresh {paths : List Path} {rest : List Step} :
      Announced rest → Announced (.refresh paths :: rest)
  | change {path : Path} {paths : List Path} {rest : List Step} :
      Announced rest → Announced (.change path paths :: rest)

/-- The paths that a step names. -/
def Step.named : Step → List Path
  | .edit made => [made.path]
  | .refresh paths => paths
  | .change path paths => path :: paths

/-- What a step writes includes nothing. -/
def Step.Includeless : Step → Prop
  | .edit (.write path content) => Querymap.Includeless path content
  | _ => True

/-- Every entry is what its file gives now, and is under a path that the run names. -/
structure Fresh (options : Options) (named : Path → Prop) (watch : Watch) : Prop where
  includeless : ∀ path, watch.files.source.Includeless path
  named : ∀ path entry, watch.cache.entries.get? path.spelling = some entry → named path
  exact : ∀ path entry, watch.cache.entries.get? path.spelling = some entry →
    ∃ extracted, extractAlone watch.files.source options path = .ok extracted ∧
      extracted.map = entry.map

variable {options : Options} {named : Path → Prop} {watch : Watch}

theorem Fresh.forget (fresh : Fresh options named watch) (path : Path) :
    Fresh options named (watch.forget path) := by
  have known : ∀ (other : Path) entry,
      (watch.cache.entries.erase path.spelling).get? other.spelling = some entry →
        watch.cache.entries.get? other.spelling = some entry := by
    intro other entry found
    rw [Dict.get?_erase] at found
    split at found
    · contradiction
    · exact found
  exact ⟨fresh.includeless, fun other entry found => fresh.named other entry (known other entry found),
    fun other entry found => fresh.exact other entry (known other entry found)⟩

theorem includeless_edit {files : Files} {edit : Files.Edit}
    (free : ∀ path, files.source.Includeless path) (step : (Step.edit edit).Includeless)
    (path : Path) : (files.edit edit).source.Includeless path := by
  intro content read
  cases same : edit.path.same path with
  | false => exact free path content (files.read_edit_of_ne edit same ▸ read)
  | true =>
    cases edit with
    | write edited written =>
      simp only [Files.Edit.path] at same
      simp only [Files.edit, Files.source, Files.read, Files.find?_write, same, if_true,
        Except.ok.injEq] at read
      exact read ▸ Includeless.of_same step same
    | remove edited =>
      simp only [Files.Edit.path] at same
      simp [Files.edit, Files.source, Files.read, Files.find?_remove, same] at read

/-- An edit touches no entry but that of its own path, which is forgotten. -/
theorem Fresh.edit (fresh : Fresh options named watch) {edit : Files.Edit}
    (step : (Step.edit edit).Includeless)
    (distinct : ∀ path, named path → edit.path.same path = true → path = edit.path) :
    Fresh options named ((watch.step options (.edit edit)).1.forget edit.path) := by
  have kept : ∀ (path : Path) entry,
      (watch.cache.entries.erase edit.path.spelling).get? path.spelling = some entry →
        watch.cache.entries.get? path.spelling = some entry ∧ edit.path.same path = false := by
    intro path entry found
    rw [Dict.get?_erase] at found
    split at found
    · contradiction
    · next apart =>
      refine ⟨found, Bool.eq_false_iff.2 fun same => apart ?_⟩
      rw [distinct path (fresh.named path entry found) same]
  refine ⟨includeless_edit fresh.includeless step, fun path entry found => ?_,
    fun path entry found => ?_⟩
  · exact fresh.named path entry (kept path entry found).1
  · obtain ⟨found, apart⟩ := kept path entry found
    have unchanged := watch.files.read_edit_of_ne edit apart
    obtain ⟨extracted, read, same⟩ := fresh.exact path entry found
    refine ⟨extracted, ?_, same⟩
    rw [← read]
    exact (extractAlone_congr options (fresh.includeless path) unchanged.symm).symm

/-- The files that the cache does not know. -/
def unknown (cache : Cache) (paths : List Path) : List Path :=
  paths.filter (!cache.entries.keys.contains ·.spelling)

theorem mem_unknown {cache : Cache} {paths : List Path} {path : Path} :
    path ∈ cache.unknown paths ↔ path ∈ paths ∧ cache.entries.get? path.spelling = none := by
  simp only [unknown, List.mem_filter, Bool.not_eq_true', List.contains_eq_mem, Dict.mem_keys_iff,
    decide_eq_false_iff_not, Bool.not_eq_true, Option.isSome_eq_false_iff, Option.isNone_iff_eq_none]

theorem Fresh.extractFiles (fresh : Fresh options named watch) (paths : List Path) :
    extractFiles watch.files.source options watch.cache.entries.keys paths =
      .ofFunction (extractAlone watch.files.source options) (watch.cache.unknown paths) :=
  extractFiles_of_includeless options (fun path _ => fresh.includeless path) _

/-- After a renewal exactly the listed files that can be extracted are known, as they are now. -/
theorem Fresh.get?_renewed (fresh : Fresh options named watch) (paths : List Path) (path : Path)
    (map : ScopeMap) :
    ((watch.cache.renewed (.ofFunction (extractAlone watch.files.source options)
        (watch.cache.unknown paths)) paths).get? path.spelling).map (·.map) = some map ↔
      path ∈ paths ∧ ∃ extracted, extractAlone watch.files.source options path = .ok extracted ∧
        extracted.map = map := by
  rw [Cache.get?_renewed]
  by_cases listed : path ∈ paths
  · rw [if_pos listed]
    cases known : watch.cache.entries.get? path.spelling with
    | some entry =>
      obtain ⟨extracted, read, same⟩ := fresh.exact path entry known
      simp [listed, read, same]
    | none =>
      have unknown : path ∈ watch.cache.unknown paths := mem_unknown.2 ⟨listed, known⟩
      rw [Option.none_or, Option.map_map]
      simp only [Function.comp_def, Option.map_id']
      rw [Outcome.get?_typings_ofFunction]
      simp only [unknown, listed]
  · simp [listed]

theorem Fresh.firstFailure (fresh : Fresh options named watch) {paths : List Path}
    {answer : Except ExtractError Model}
    (failure : Outcome.FirstFailure (extractAlone watch.files.source options)
      (watch.cache.unknown paths) answer) :
    Outcome.FirstFailure (extractAlone watch.files.source options) paths answer := by
  obtain ⟨path, unknown, error, failed, same, least⟩ := failure
  refine ⟨path, (mem_unknown.1 unknown).1, error, failed, same, fun other listed cause broken => ?_⟩
  refine least other (mem_unknown.2 ⟨listed, ?_⟩) cause broken
  cases known : watch.cache.entries.get? other.spelling with
  | none => rfl
  | some entry =>
    obtain ⟨extracted, read, _⟩ := fresh.exact other entry known
    cases broken.symm.trans read

theorem Fresh.refresh (fresh : Fresh options named watch) {paths : List Path}
    (listed : ∀ path ∈ paths, named path) :
    Fresh options named (watch.refresh options paths).1 ∧
      Outcome.FromScratch (extractAlone watch.files.source options) paths
        (watch.refresh options paths).2.result := by
  simp only [Watch.refresh, Cache.refresh, fresh.extractFiles paths]
  cases errors : (Outcome.ofFunction (extractAlone watch.files.source options)
      (watch.cache.unknown paths)).errors with
  | cons first others =>
    exact ⟨fresh, .inr (fresh.firstFailure (Outcome.firstFailure_of_errors errors))⟩
  | nil =>
    have current := fresh.get?_renewed paths
    have exact : ∀ (path : Path) entry, (watch.cache.renewed _ paths).get? path.spelling =
        some entry → _ := fun path entry found =>
      (current path entry.map).1 (by rw [found]; rfl)
    refine ⟨⟨fresh.includeless, fun path entry found => listed path (exact path entry found).1,
      fun path entry found => (exact path entry found).2⟩, .inl ⟨fun path member => ?_, ?_⟩⟩
    · cases known : watch.cache.entries.get? path.spelling with
      | none => exact Outcome.errors_eq_nil_iff.1 errors path (mem_unknown.2 ⟨member, known⟩)
      | some entry =>
        obtain ⟨extracted, read, _⟩ := fresh.exact path entry known
        exact ⟨extracted, read⟩
    · refine ⟨_, fun path map => ?_, rfl⟩
      rw [Dict.get?_mapValues]
      exact current path map

/-- The answer is what extraction from scratch gives of the files at that moment. -/
structure Answer.Exact (options : Options) (answer : Answer) : Prop where
  model : answer.result =
    (Querymap.extractFiles answer.files.source options [] answer.paths).model
  fromScratch : Outcome.FromScratch (extractAlone answer.files.source options) answer.paths
    answer.result

theorem Fresh.refresh_exact (fresh : Fresh options named watch) {paths : List Path}
    (listed : ∀ path ∈ paths, named path) : (watch.refresh options paths).2.Exact options := by
  obtain ⟨files, about⟩ := Prod.mk.inj (watch.refresh_about options paths).1
  have scratch := (fresh.refresh listed).2
  have full : Querymap.extractFiles watch.files.source options [] paths =
      .ofFunction (extractAlone watch.files.source options) paths := by
    rw [extractFiles_of_includeless options fun path _ => fresh.includeless path]
    exact congrArg _ (List.filter_eq_self.2 fun _ _ => rfl)
  constructor
  · rw [files, about, full]
    exact scratch.unique Outcome.model_ofFunction
  · rw [files, about]
    exact scratch

/-- All that a step names is among the named paths, and what it writes includes nothing. -/
def Step.Within (named : Path → Prop) (step : Step) : Prop :=
  (∀ path ∈ step.named, named path) ∧ step.Includeless

theorem Fresh.answers_exact {steps : List Step} (announced : Announced steps)
    (fresh : Fresh options named watch) (within : ∀ step ∈ steps, step.Within named)
    (distinct : ∀ a b, named a → named b → a.same b = true → a = b) :
    ∀ answer ∈ watch.answers options steps, answer.Exact options := by
  -- A request answers exactly and leaves a fresh watch to the rest of the run.
  have request : ∀ {watch : Watch} {paths : List Path} {rest : List Step},
      Fresh options named watch → (∀ path ∈ paths, named path) →
      (∀ {watch : Watch}, Fresh options named watch →
        ∀ answer ∈ watch.answers options rest, answer.Exact options) →
      ∀ answer ∈ (watch.refresh options paths).2 ::
        (watch.refresh options paths).1.answers options rest, answer.Exact options := by
    intro watch paths rest fresh listed later answer member
    rcases List.mem_cons.1 member with rfl | member
    · exact fresh.refresh_exact listed
    · exact later (fresh.refresh listed).1 answer member
  induction announced generalizing watch with
  | nil => simp [Watch.answers]
  | @edit edit paths rest _ ih =>
    obtain ⟨edited, told, within⟩ := by simpa only [List.forall_mem_cons] using within
    have own : named edit.path := edited.1 edit.path (List.mem_singleton_self _)
    have known : Fresh options named ((watch.step options (.edit edit)).1.forget edit.path) :=
      fresh.edit edited.2 fun path other same => (distinct edit.path path own other same).symm
    exact request known (fun path member => told.1 path (List.mem_cons_of_mem _ member))
      fun fresh => ih fresh within
  | @refresh paths rest _ ih =>
    obtain ⟨asked, within⟩ := by simpa only [List.forall_mem_cons] using within
    exact request fresh asked.1 fun fresh => ih fresh within
  | @change path paths rest _ ih =>
    obtain ⟨asked, within⟩ := by simpa only [List.forall_mem_cons] using within
    exact request (fresh.forget path)
      (fun other member => asked.1 other (List.mem_cons_of_mem _ member))
      fun fresh => ih fresh within

/-- Whatever failed before, an announced run answers every request, in order, and each answer is that
of an extraction from scratch of the files at that moment. -/
theorem answers_from_scratch (options : Options) (files : Files) (steps : List Step)
    (announced : Announced steps)
    (spelled : ∀ a ∈ steps.flatMap Step.named, ∀ b ∈ steps.flatMap Step.named,
      a.same b = true → a = b)
    (includeless : ∀ path, files.source.Includeless path)
    (written : ∀ step ∈ steps, step.Includeless) :
    (Watch.answers options ⟨files, {}⟩ steps).map Answer.request = requests files steps ∧
      ∀ answer ∈ Watch.answers options ⟨files, {}⟩ steps, answer.Exact options := by
  refine ⟨Watch.answers_requests options ⟨files, {}⟩ steps, ?_⟩
  have empty : Fresh options (· ∈ steps.flatMap Step.named) ⟨files, {}⟩ :=
    ⟨includeless, fun _ _ found => by simp at found, fun _ _ found => by simp at found⟩
  refine empty.answers_exact announced (fun step member => ⟨fun path inside => ?_, written step member⟩)
    fun a b first second => spelled a first b second
  exact List.mem_flatMap.2 ⟨step, member, inside⟩

/-- A run that fails while a file is missing, and that drops a file before it is removed. -/
def edits : List Step := [
  .edit (.write ⟨"a.pug"⟩ "// x\n"), .change ⟨"a.pug"⟩ [⟨"a.pug"⟩, ⟨"b.html"⟩],
  .edit (.write ⟨"b.html"⟩ "<i id=y></i>"), .change ⟨"b.html"⟩ [⟨"a.pug"⟩, ⟨"b.html"⟩],
  .refresh [⟨"b.html"⟩], .edit (.remove ⟨"a.pug"⟩), .change ⟨"a.pug"⟩ [⟨"b.html"⟩]]

theorem parse_comment : Pug.parse "// x\n" = .ok [.comment] :=
  Pug.parse_line rfl rfl (Pug.readLine_node rfl) (Pug.readChildren_raw (by simp [Pug.Outside])) rfl

theorem answers_of_edits :
    Announced edits ∧
      (Watch.answers {} ⟨{}, {}⟩ edits).map Answer.request = requests {} edits ∧
      ∀ answer ∈ Watch.answers {} ⟨{}, {}⟩ edits, answer.Exact {} := by
  have announced : Announced edits := .edit (.edit (.refresh (.edit .nil)))
  have spelled : ∀ a ∈ edits.flatMap Step.named, ∀ b ∈ edits.flatMap Step.named,
      a.same b = true → a = b := by decide +kernel
  have written : ∀ step ∈ edits, step.Includeless := by
    have template : Querymap.Includeless ⟨"a.pug"⟩ "// x\n" := by
      intro _ block parsed
      cases parse_comment.symm.trans parsed
      rfl
    have page : Querymap.Includeless ⟨"b.html"⟩ "<i id=y></i>" :=
      includeless_of_ne (by decide +kernel) _
    simp only [edits, List.forall_mem_cons]
    exact ⟨template, trivial, page, trivial, trivial, trivial, trivial, by simp⟩
  refine ⟨announced, answers_from_scratch {} {} edits announced spelled ?_ written⟩
  intro path content read
  cases read

end Querymap.Cache
