import Querymap.CommandLine.WatchSession
import Querymap.Proofs.CommandLine.Generation
import Querymap.Proofs.ScanOrder

/-! Failing extractions leave the file system alone. A run of generating writes only after every file has
been extracted; of the actions of a watched run, those that write fail for other reasons than an
extraction, and those before them do not write. -/
namespace Querymap

open Console

namespace Action

variable {α β : Type}

/-- The failures of an action are of one kind. -/
def FailsBy (kind : CommandError → Prop) (action : Action α) : Prop :=
  ∀ console error after, action.run console = (.error error, after) → kind error

variable {kind : CommandError → Prop} {action : Action α} {next : α → Action β}

theorem FailsBy.pure (value : α) : FailsBy kind (pure value) := by
  intro console error after ran
  cases ran

theorem FailsBy.bind (first : FailsBy kind action) (second : ∀ value, FailsBy kind (next value)) :
    FailsBy kind (action >>= next) := by
  intro console error after ran
  rcases bind_eq_error ran with failed | ⟨value, middle, _, failed⟩
  · exact first console error after failed
  · exact second value middle error after failed

theorem FailsBy.mapM {action : α → Action β} (each : ∀ item, FailsBy kind (action item)) (items : List α) :
    FailsBy kind (items.mapM action) := by
  induction items with
  | nil => exact .pure []
  | cons item rest ih =>
    rw [List.mapM_cons]
    exact (each item).bind fun _ => ih.bind fun _ => .pure _

theorem FailsBy.edit {change : Disk.Edit Unit} {reason : FileError → CommandError}
    (reasons : ∀ cause, kind (reason cause)) : FailsBy kind (edit change reason) := by
  intro console error after ran
  rw [run_edit] at ran
  have failed := congrArg Prod.fst ran
  cases result : (change.run console.disk).1 with
  | ok => simp [result, Except.mapError] at failed
  | error cause =>
    simp only [result, Except.mapError, Except.error.injEq] at failed
    exact failed ▸ reasons cause

/-- An action as a part of a step, which goes on after a failure too. -/
theorem run_then {next : Except CommandError α → StateM Console β} {console after : Console}
    {result : Except CommandError α} (ran : action.run console = (result, after)) :
    (ExceptT.run action >>= next).run console = (next result).run after := by
  change (next (action.run console).1).run (action.run console).2 = _
  rw [ran]

end Action

theorem Console.Tells.failsBy {action : Action Unit} {lines : List String} (tells : Tells action lines)
    {kind : CommandError → Prop} : action.FailsBy kind := by
  intro console error after ran
  cases (tells console).symm.trans ran

/-- What failed is not an extraction. -/
def CommandError.Unextracted (error : CommandError) : Prop := ∀ cause, error ≠ .extraction cause

theorem Action.FailsBy.not_extraction {α : Type} {action : Action α} {console after : Console}
    {error : ExtractError} (fails : action.FailsBy CommandError.Unextracted) :
    action.run console ≠ (.error (.extraction error), after) := by
  intro ran
  exact fails _ _ _ ran error rfl

theorem writeArtifact_failsBy (path : Path) (content : String) :
    (writeArtifact path content).FailsBy CommandError.Unextracted := by
  have write : (edit (Disk.write path (some content)) (.notWritten path)).FailsBy
      CommandError.Unextracted := .edit fun _ _ => nofun
  unfold writeArtifact
  cases path.parent? with
  | none => exact write
  | some folder => exact .bind (.edit fun _ _ => nofun) fun _ => write

namespace WatchSession

variable {session : WatchSession} {console : Console} {error : ExtractError} {output : Path}
  {files : List Path}

theorem writeModel_failsBy (session : WatchSession) (path : Path) (model : Model) :
    (session.writeModel path model).FailsBy CommandError.Unextracted :=
  writeArtifact_failsBy _ _

theorem writeBeside_failsBy (session : WatchSession) (file : Path) (model : Model) :
    (session.writeBeside file model).FailsBy CommandError.Unextracted := by
  unfold writeBeside
  exact .bind (session.writeModel_failsBy _ _) fun _ => .pure _

/-- What is not known yet is extracted before anything is written. -/
theorem writeAll_keeps
    (failed : ((session.writeAll output files).run console).1.1 = .error (.extraction error)) :
    ((session.writeAll output files).run console).2.disk = console.disk := by
  unfold writeAll at failed ⊢
  rw [StateT.run_bind] at failed ⊢
  simp only [StateT.run_get, pure_bind] at failed ⊢
  rw [Action.run_then (tells_reportBrokenOff _ console)] at failed ⊢
  cases refreshed : (session.cache.refresh console.disk.source session.settings.options files).2 with
  | error => rfl
  | ok cache =>
    simp only [refreshed] at failed
    generalize console.told _ = told at failed
    rcases written : ExceptT.run (session.writeModel output cache.model) told with ⟨result, after⟩
    rw [Action.run_then written] at failed
    cases result with
    | ok => cases failed
    | error cause =>
      cases failed
      exact absurd written (session.writeModel_failsBy _ _).not_extraction

theorem writeEach_failsBy (session : WatchSession) (files : List Path) :
    (session.writeEach files).FailsBy CommandError.Unextracted := by
  unfold writeEach
  refine .bind (fun _ _ _ ran => nomatch ran) fun console => ?_
  refine .bind (tells_reportBrokenOff _).failsBy fun _ => ?_
  refine .bind (tells_forM (fun _ => tells_report _) _).failsBy fun _ => ?_
  exact .mapM (fun entry => session.writeBeside_failsBy _ _) _

/-- The file is extracted before its typings are written. -/
theorem writeOne_keeps {file : Path} {after : Console}
    (failed : (session.writeOne file).run console = (.error (.extraction error), after)) :
    after.disk = console.disk := by
  unfold writeOne at failed
  rw [Action.run_bind_ok (Action.run_get console)] at failed
  rw [Action.run_bind_ok (tells_reportBrokenOff _ console)] at failed
  split at failed
  · cases failed
    rfl
  · have fails := Action.FailsBy.mapM (session.writeBeside_failsBy file)
    exact absurd failed (fails _).not_extraction

theorem start_keeps (failed : (session.start.run console).1.1 = .error (.extraction error)) :
    (session.start.run console).2.disk = console.disk := by
  unfold start at failed ⊢
  rw [Action.run_then (run_scanInputs session.settings console)] at failed ⊢
  dsimp only at failed ⊢
  cases separate : session.output with
  | some output =>
    simp only [separate] at failed
    exact writeAll_keeps failed
  | none =>
    simp only [separate] at failed
    generalize console.told _ = told at failed
    rcases written : ExceptT.run (session.writeEach _) told with ⟨result, after⟩
    rw [Action.run_then written] at failed
    cases failed
    exact absurd written (session.writeEach_failsBy _).not_extraction

theorem handleChange_keeps {changed : Path}
    (failed : ((session.handleChange changed).run console).1.1 = .error (.extraction error)) :
    ((session.handleChange changed).run console).2.disk = console.disk := by
  unfold handleChange at failed ⊢
  rw [Action.run_then (run_scanInputs session.settings console)] at failed ⊢
  dsimp only at failed ⊢
  rw [StateT.run_bind] at failed ⊢
  simp only [StateT.run_get, pure_bind, told_disk] at failed ⊢
  split at failed
  · exact writeAll_keeps failed
  · next file _ known =>
    generalize told : console.told _ = before at failed ⊢
    rcases written : ExceptT.run (session.writeOne file) before with ⟨result, after⟩
    rw [Action.run_then written] at failed ⊢
    cases failed
    have same : before.disk = console.disk := by rw [← told, told_disk]
    exact (writeOne_keeps written).trans same
  · cases failed

end WatchSession

namespace Settings

/-- An input fails: it, or a template that it includes, cannot be read or parsed. -/
def Fails (settings : Settings) (disk : Disk) (path : Path) (error : ExtractError) : Prop :=
  Gives disk.source settings.options (settings.files disk) path (.error error)

/-- The inputs that fail, each once and in path order. -/
structure Failures (settings : Settings) (disk : Disk) (failures : List (String × ExtractError)) :
    Prop where
  increasing : failures.Pairwise (·.1 < ·.1)
  mem_iff (path : Path) (error : ExtractError) :
    (path.spelling, error) ∈ failures ↔ settings.Fails disk path error

theorem failures_outcome (settings : Settings) (disk : Disk) :
    settings.Failures disk (settings.outcome disk).errors where
  increasing := errors_increasing (increasing_scan disk _ _ _).nodup_spellings
  mem_iff _ _ := mem_errors_iff

/-- The lines of a run in which inputs fail. -/
def failingLines (settings : Settings) (disk : Disk) (failures : List (String × ExtractError)) :
    List String :=
  settings.openingLines disk ++ (failures.flatMap errorLines ++
    ["✘ " ++ counted failures.length "file" ++ " failed, nothing written"])

end Settings

/-- Failing extractions change no file, in whatever way the typings would have been put out. -/
theorem failed_extractions_write_nothing (console : Console) :
    (∀ arguments format printed folder settings,
      Settings.load console.disk folder arguments = .ok settings →
      (∃ path error, settings.Fails console.disk path error) →
      ∃ failures status after, settings.Failures console.disk failures ∧
        (generate arguments format printed folder).run console = (.ok status, after) ∧
        status.code = 2 ∧ after.disk = console.disk ∧ after.output = console.output ∧
        after.errors = (console.told (settings.failingLines console.disk failures)).errors) ∧
    (∀ settings path error, path ∈ Settings.files settings console.disk →
      Broken console.disk.source path error → settings.Fails console.disk path error) ∧
    (∀ (session : WatchSession) (error : ExtractError),
      (session.start.run console).1.1 = .error (.extraction error) →
      (session.start.run console).2.disk = console.disk) ∧
    (∀ (session : WatchSession) (changed : Path) (error : ExtractError),
      ((session.handleChange changed).run console).1.1 = .error (.extraction error) →
      ((session.handleChange changed).run console).2.disk = console.disk) := by
  refine ⟨?_, ?_, fun _ _ => WatchSession.start_keeps, fun _ _ _ => WatchSession.handleChange_keeps⟩
  · rintro arguments format printed folder settings loaded ⟨path, error, fails⟩
    have failing : (settings.outcome console.disk).errors ≠ [] :=
      List.ne_nil_of_mem (((settings.failures_outcome console.disk).mem_iff path error).2 fails)
    exact ⟨_, _, _, settings.failures_outcome console.disk, generate_failing loaded failing, rfl, rfl,
      rfl, rfl⟩
  · intro settings path error listed broken
    exact broken.gives listed

/-- A folder of two inputs, one of which is not text. -/
def halfReadable : Console where
  disk := {
    entries := [(["p"], .folder), (["p", "a.html"], .file (some "<p id=a>")),
      (["p", "b.html"], .file none)]
    here := ["p"] }

def Settings.ofWorkingFolder : Settings where
  config := { input := ["."], output := some "q.d.ts" }
  base := ⟨"/p"⟩
  output := some ⟨"/p/q.d.ts"⟩
  verbose := false

theorem failed_extractions_write_nothing_halfReadable :
    let arguments : Arguments := { inputs := ["."], output := some "q.d.ts" }
    let settings := Settings.ofWorkingFolder
    let combined : WatchSession := ⟨settings, {}, settings.output⟩
    let separate : WatchSession := ⟨settings, {}, none⟩
    let error := ExtractError.unreadable ⟨"/p/./b.html"⟩ .invalidText
    Settings.load halfReadable.disk ⟨"/p"⟩ arguments = .ok settings ∧
      settings.Fails halfReadable.disk ⟨"/p/./b.html"⟩ error ∧
      ((generate arguments .declarations false ⟨"/p"⟩).run halfReadable).2.disk = halfReadable.disk ∧
      (combined.start.run halfReadable).1.1 = .error (.extraction error) ∧
      (combined.start.run halfReadable).2.disk = halfReadable.disk ∧
      ((separate.handleChange ⟨"/p/b.html"⟩).run halfReadable).1.1 = .error (.extraction error) ∧
      ((separate.handleChange ⟨"/p/b.html"⟩).run halfReadable).2.disk = halfReadable.disk := by
  intro arguments settings combined separate error
  obtain ⟨generated, fails, started, changed⟩ := failed_extractions_write_nothing halfReadable
  have loaded : Settings.load halfReadable.disk ⟨"/p"⟩ arguments = .ok settings := by decide +kernel
  have broken : settings.Fails halfReadable.disk ⟨"/p/./b.html"⟩ error :=
    fails _ _ _ (by decide +kernel) (.unreadable (by decide +kernel))
  have start : (combined.start.run halfReadable).1.1 = .error (.extraction error) := by decide +kernel
  have change : ((separate.handleChange ⟨"/p/b.html"⟩).run halfReadable).1.1 =
      .error (.extraction error) := by decide +kernel
  obtain ⟨_, _, after, _, run, _, kept, _⟩ :=
    generated arguments .declarations false _ _ loaded ⟨_, _, broken⟩
  exact ⟨loaded, broken, by rw [run, kept], start, started _ _ start, change, changed _ _ _ change⟩

end Querymap
