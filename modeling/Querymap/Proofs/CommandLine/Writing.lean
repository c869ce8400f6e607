import Querymap.Proofs.CommandLine.Generation
import Querymap.Proofs.Disk.Saving

/-! What a run writes. Whatever else an action of a run does, to the disk it does what saving its files in turn
does, and it succeeds when that does. -/
namespace Querymap

open Console

variable {console after : Console} {path : Path} {content : String}

/-- An action that saves some files in turn and, but for that, leaves the disk as it is. -/
def Action.Saves (files : List (Path × String)) (action : Action Unit) : Prop :=
  ∀ console, (action.run console).2.disk = ((Disk.saveAll files).run console.disk).2 ∧
    ((action.run console).1 = .ok () ↔ ((Disk.saveAll files).run console.disk).1 = .ok ())

namespace Action.Saves

variable {files more : List (Path × String)} {action next : Action Unit}

theorem nothing (quiet : ∀ console, ∃ done, action.run console = (.ok (), done) ∧ done.disk = console.disk) :
    Saves [] action := by
  intro console
  obtain ⟨done, ran, same⟩ := quiet console
  rw [ran]
  exact ⟨same, fun _ => rfl, fun _ => rfl⟩

theorem run_ok (saves : Saves files action) (ran : action.run console = (.ok (), after)) :
    (Disk.saveAll files).run console.disk = (.ok (), after.disk) := by
  obtain ⟨same, success⟩ := saves console
  rw [ran] at same success
  exact Prod.ext (success.1 rfl) same.symm

theorem exists_run (saves : Saves files action) {again : Disk}
    (saved : (Disk.saveAll files).run console.disk = (.ok (), again)) :
    ∃ done, action.run console = (.ok (), done) ∧ done.disk = again := by
  obtain ⟨same, success⟩ := saves console
  rw [saved] at same success
  exact ⟨_, Prod.ext (success.2 rfl) rfl, same⟩

theorem append (first : Saves files action) (second : Saves more next) :
    Saves (files ++ more) (action >>= fun _ => next) := by
  intro console
  obtain ⟨same, success⟩ := first console
  rw [Disk.run_saveAll_append]
  rcases ran : action.run console with ⟨error | ⟨⟩, middle⟩
  · rw [Action.run_bind_error ran]
    rw [ran] at same success
    rcases edited : (Disk.saveAll files).run console.disk with ⟨error | ⟨⟩, last⟩
    · rw [edited] at same
      exact ⟨same, nofun, nofun⟩
    · rw [edited] at success
      cases success.2 rfl
  · rw [Action.run_bind_ok ran, first.run_ok ran]
    exact second middle

theorem forM {α : Type} {items : List α} {files : α → List (Path × String)} {action : α → Action Unit}
    (each : ∀ item, Saves (files item) (action item)) : Saves (items.flatMap files) (items.forM action) := by
  induction items with
  | nil => exact .nothing fun console => ⟨console, rfl, rfl⟩
  | cons item rest ih =>
    rw [List.flatMap_cons]
    exact (each item).append ih

end Action.Saves

theorem Console.Tells.saves {action : Action Unit} {lines : List String} (tells : Tells action lines) :
    action.Saves [] :=
  .nothing fun console => ⟨_, tells console, rfl⟩

theorem saves_print (text : String) : Action.Saves [] (print text) := .nothing fun _ => ⟨_, rfl, rfl⟩

theorem saves_writeArtifact (path : Path) (content : String) :
    (writeArtifact path content).Saves [(path, content)] := by
  intro console
  have wrote (console : Console) : (edit (Disk.write path (some content)) (.notWritten path)).run console =
      (((Disk.write path (some content)).run console.disk).1.mapError (.notWritten path),
        { console with disk := ((Disk.write path (some content)).run console.disk).2 }) :=
    Action.run_edit ..
  have kept {result : Except FileError Unit} :
      result.mapError (CommandError.notWritten path) = .ok () ↔ result = .ok () := by
    cases result <;> simp [Except.mapError]
  rw [Disk.run_saveAll_one, Disk.run_save]
  unfold writeArtifact
  cases path.parent? with
  | none =>
    dsimp only
    rw [wrote]
    exact ⟨rfl, kept⟩
  | some folder =>
    dsimp only
    rcases made : (Disk.makeFolders folder).run console.disk with ⟨error | ⟨⟩, middle⟩
    · rw [Action.run_bind_error (by rw [Action.run_edit, made]; rfl)]
      exact ⟨rfl, nofun, nofun⟩
    · rw [Action.run_bind_ok (by rw [Action.run_edit, made]; rfl), wrote]
      exact ⟨rfl, kept⟩

theorem writeArtifact_ok (tree : console.disk.IsTree)
    (ran : (writeArtifact path content).run console = (.ok (), after)) :
    ∃ place, Disk.Edited (· = place) console.disk after.disk ∧ after.disk.place? path = some place ∧
      after.disk.get? place = some (.file (some content)) := by
  have saved := (saves_writeArtifact path content).run_ok ran
  rw [Disk.run_saveAll_one] at saved
  exact Disk.save_ok tree saved

section

variable {settings : Settings} {format : OutputFormat} {printed : Bool} {files : List Path} {typings : FileTypings}

/-- The files that a run writes beside its inputs. -/
def artifacts (settings : Settings) (format : OutputFormat) (typings : FileTypings) :
    List (Path × String) :=
  typings.mergeEach.entries.map fun entry =>
    ((⟨entry.1⟩ : Path).generated format.suffix, entry.2.artifact settings.config.exported format)

theorem saves_writeEach (settings : Settings) (format : OutputFormat) (typings : FileTypings) :
    (writeEach settings format typings).Saves (artifacts settings format typings) := by
  unfold writeEach artifacts
  rw [List.map_eq_flatMap]
  exact .forM fun entry => (saves_writeArtifact _ _).append (saves_print _)

theorem writeEach_ok (tree : console.disk.IsTree)
    (ran : (writeEach settings format typings).run console = (.ok (), after)) :
    Disk.Written (artifacts settings format typings) console.disk after.disk :=
  Disk.written_saveAll tree ((saves_writeEach settings format typings).run_ok ran)

theorem saves_writeCombined (chosen : settings.combinedOutput files format = .ok path) :
    (writeCombined settings format files typings).Saves
      [(path, typings.mergeAll.artifact settings.config.exported format)] := by
  unfold writeCombined
  rw [chosen]
  refine (saves_writeArtifact path _).append (?_ : Action.Saves [] _)
  split
  · exact (tells_forM (fun file : Path => tells_report ("  --> " ++ file.spelling)) files).saves.append
      (saves_print _)
  · exact saves_print _

theorem exists_combinedOutput (ran : (writeCombined settings format files typings).run console = (.ok (), after)) :
    ∃ path, settings.combinedOutput files format = .ok path := by
  unfold writeCombined at ran
  cases chosen : settings.combinedOutput files format with
  | error =>
    rw [chosen] at ran
    cases ran
  | ok path => exact ⟨path, rfl⟩

/-- Typings that are written together are what the output reads as. -/
theorem writeCombined_ok (tree : console.disk.IsTree)
    (ran : (writeCombined settings format files typings).run console = (.ok (), after)) :
    ∃ path, settings.combinedOutput files format = .ok path ∧ Disk.Written
      [(path, typings.mergeAll.artifact settings.config.exported format)] console.disk after.disk := by
  obtain ⟨path, chosen⟩ := exists_combinedOutput ran
  exact ⟨path, chosen, Disk.written_saveAll tree ((saves_writeCombined chosen).run_ok ran)⟩

/-- Typings are written over an output that is there. -/
theorem writeCombined_over {place : Place} {old : Option String} (tree : console.disk.IsTree)
    (chosen : settings.combinedOutput files format = .ok path)
    (found : console.disk.find true path = .ok (place, .file old)) :
    ∃ done, (writeCombined settings format files typings).run console = (.ok (), done) ∧
      done.disk.read path = .ok (typings.mergeAll.artifact settings.config.exported format) := by
  have saves := @saves_writeCombined _ settings format files typings chosen
  have stand : ∀ file ∈ [(path, typings.mergeAll.artifact settings.config.exported format)],
      ∃ place old, console.disk.find true file.1 = .ok (place, .file old) :=
    List.forall_mem_singleton.2 ⟨place, old, found⟩
  obtain ⟨again, saved⟩ := Disk.exists_run_saveAll tree stand
  obtain ⟨done, ran, rfl⟩ := saves.exists_run saved
  exact ⟨done, ran, @Disk.Written.read_last _ _ [] _ (Disk.written_saveAll tree saved)⟩

/-- All that a run delivers in files. -/
def Settings.deliveries (settings : Settings) (format : OutputFormat) (printed : Bool) (files : List Path)
    (typings : FileTypings) : List (Path × String) :=
  if printed then []
  else if settings.config.separate then artifacts settings format typings
  else match settings.combinedOutput files format with
    | .ok path => [(path, typings.mergeAll.artifact settings.config.exported format)]
    | .error _ => []

/-- A delivery that succeeds once saves its files in every run. -/
theorem saves_deliver (ran : (deliver settings format printed files typings).run console = (.ok (), after)) :
    (deliver settings format printed files typings).Saves
      (settings.deliveries format printed files typings) := by
  unfold deliver at ran ⊢
  unfold Settings.deliveries
  split
  · exact saves_print _
  · next written =>
    rw [if_neg written] at ran
    split
    · exact saves_writeEach settings format typings
    · next together =>
      rw [if_neg together] at ran
      obtain ⟨path, chosen⟩ := exists_combinedOutput ran
      rw [chosen]
      exact saves_writeCombined chosen

end

end Querymap
