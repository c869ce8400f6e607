import Querymap.Proofs.CommandLine.Actions
import Querymap.Proofs.Results

/-! A run of generating, one case after the other: no settings, no inputs, failing files, and otherwise
the delivery of what was extracted. -/
namespace Querymap

open Console

/-- What is done with the typings once every file has been extracted. -/
def deliver (settings : Settings) (format : OutputFormat) (printed : Bool) (files : List Path)
    (typings : FileTypings) : Action Unit :=
  if printed then print (typings.mergeAll.artifact settings.config.exported format)
  else if settings.config.separate then writeEach settings format typings
  else writeCombined settings format files typings

namespace Settings

def files (settings : Settings) (disk : Disk) : List Path := (settings.scan disk).files

/-- The extraction of all inputs, nothing being known of any. -/
def outcome (settings : Settings) (disk : Disk) : Outcome :=
  extractFiles disk.source settings.options [] (settings.files disk)

/-- The lines of a run in which inputs are found, up to their extraction. -/
def openingLines (settings : Settings) (disk : Disk) : List String :=
  scanLines settings (settings.scan disk) ++ brokenOffLines (settings.outcome disk).brokenOff

end Settings

variable {arguments : Arguments} {format : OutputFormat} {printed : Bool} {folder : Path}
  {settings : Settings} {console : Console}

theorem run_scanInputs (settings : Settings) (console : Console) :
    (scanInputs settings).run console = (.ok (settings.scan console.disk), console.told
      (if settings.verbose then (settings.scan console.disk).warnings.map (·.message) else [])) := by
  have shown := tells_forM (fun warning : ScanWarning => tells_report warning.message)
    (settings.scan console.disk).warnings
  rw [← List.map_eq_flatMap] at shown
  unfold scanInputs
  rw [Action.run_bind_ok (Action.run_get console)]
  dsimp only
  split
  · exact Action.run_bind_ok (shown console)
  · rfl

/-- On the way from the scan to the extraction, what could not be looked at is told once. -/
theorem run_skipped (settings : Settings) (scan : Scan) (next : Unit → Action ExitStatus) :
    (if settings.verbose = true then next () else reportSkipped scan >>= next).run
        (console.told (if settings.verbose then scan.warnings.map (·.message) else [])) =
      (next ()).run (console.told (scanLines settings scan)) := by
  unfold scanLines
  cases settings.verbose with
  | true => rfl
  | false =>
    apply Action.run_bind_ok
    unfold reportSkipped
    by_cases none : scan.skipped = 0
    · simp only [none, if_true]
      rfl
    · simp only [none, if_false]
      exact tells_report _ _

theorem generate_unsettled {error : CommandError}
    (refused : Settings.load console.disk folder arguments = .error error) :
    (generate arguments format printed folder).run console = (.error error, console) := by
  unfold generate
  rw [Action.run_bind_ok (Action.run_get console)]
  exact Action.run_bind_error (by rw [refused]; rfl)

theorem generate_idle (loaded : Settings.load console.disk folder arguments = .ok settings)
    (idle : settings.files console.disk = []) :
    (generate arguments format printed folder).run console = (.ok .failure,
      console.told (scanLines settings (settings.scan console.disk) ++
        ["warning: no input files matched"])) := by
  unfold generate
  rw [Action.run_bind_ok (Action.run_get console)]
  refine (Action.run_bind_ok (by rw [loaded]; rfl)).trans ?_
  refine (Action.run_bind_ok (run_scanInputs settings console)).trans ?_
  refine (run_skipped settings _ _).trans ?_
  rw [if_pos (by rw [← Settings.files, idle]; rfl), told_append]
  exact Action.run_bind_ok (tells_report _ _)

theorem run_deliver (settings : Settings) (files : List Path) (typings : FileTypings) (told : Console) :
    (if printed = true then do
        print (typings.mergeAll.artifact settings.config.exported format)
        return .success
      else if settings.config.separate = true then do
        writeEach settings format typings
        return .success
      else do
        writeCombined settings format files typings
        return .success : Action ExitStatus).run told =
      (deliver settings format printed files typings >>= fun _ => return .success).run told := by
  unfold deliver
  split
  · rfl
  · split <;> rfl

theorem generate_settled (loaded : Settings.load console.disk folder arguments = .ok settings)
    (busy : settings.files console.disk ≠ []) :
    (generate arguments format printed folder).run console =
      (if (settings.outcome console.disk).errors.isEmpty then
          deliver settings format printed (settings.files console.disk)
            (settings.outcome console.disk).typings >>= fun _ => return .success
        else
          reportErrors (settings.outcome console.disk).errors >>= fun _ => return .error :
        Action ExitStatus).run (console.told (settings.openingLines console.disk)) := by
  have outcome : extractFiles console.disk.source settings.options [] (settings.scan console.disk).files =
      settings.outcome console.disk := rfl
  unfold generate
  rw [Action.run_bind_ok (Action.run_get console)]
  refine (Action.run_bind_ok (by rw [loaded]; rfl)).trans ?_
  refine (Action.run_bind_ok (run_scanInputs settings console)).trans ?_
  refine (run_skipped settings _ _).trans ?_
  rw [if_neg (by rw [← Settings.files, List.isEmpty_iff]; exact busy)]
  dsimp only
  rw [Action.run_bind_ok (Action.run_get _)]
  simp only [told_disk, outcome]
  rw [Action.run_bind_ok (tells_reportBrokenOff _ _), ← told_append]
  split
  · exact run_deliver settings _ _ _
  · rfl

/-- If a file fails, the failures are told and nothing else is done. -/
theorem generate_failing (loaded : Settings.load console.disk folder arguments = .ok settings)
    (failing : (settings.outcome console.disk).errors ≠ []) :
    (generate arguments format printed folder).run console = (.ok .error, console.told
      (settings.openingLines console.disk ++ ((settings.outcome console.disk).errors.flatMap errorLines ++
        ["✘ " ++ counted (settings.outcome console.disk).errors.length "file" ++
          " failed, nothing written"]))) := by
  have busy : settings.files console.disk ≠ [] := by
    obtain ⟨⟨path, error⟩, member⟩ := List.exists_mem_of_ne_nil _ failing
    exact List.ne_nil_of_mem (mem_errors_iff.1 member).listed
  rw [generate_settled loaded busy, if_neg (by rwa [List.isEmpty_iff]),
    Action.run_bind_ok (tells_reportErrors _ _), ← told_append]
  rfl

/-- A run succeeds only by delivering what every file gave. -/
theorem generate_succeeds {after : Console}
    (loaded : Settings.load console.disk folder arguments = .ok settings)
    (ran : (generate arguments format printed folder).run console = (.ok .success, after)) :
    (settings.outcome console.disk).errors = [] ∧
      (deliver settings format printed (settings.files console.disk)
        (settings.outcome console.disk).typings).run
          (console.told (settings.openingLines console.disk)) = (.ok (), after) := by
  by_cases idle : settings.files console.disk = []
  · cases (generate_idle loaded idle).symm.trans ran
  · by_cases failing : (settings.outcome console.disk).errors = []
    · rw [generate_settled loaded idle, if_pos (by rw [failing]; rfl)] at ran
      obtain ⟨_, middle, delivered, done⟩ := Action.bind_eq_ok ran
      cases done
      exact ⟨failing, delivered⟩
    · cases (generate_failing loaded failing).symm.trans ran

end Querymap
