import Querymap.Proofs.CommandLine.Generated

/-! Generating twice. Of the files that a run writes, those beside the inputs are no inputs of the next run unless
an input names or matches them. Then the second run finds, extracts and writes what the first one did. -/
namespace Querymap

open Console

section

variable {settings : Settings} {arguments : Arguments} {format : OutputFormat} {printed : Bool} {folder output : Path}
  {console after : Console} {before later : Disk} {spots : Place → Prop} {path : Path}

namespace Settings

/-- The single output of a run, if it has one and uses it. -/
def given (settings : Settings) : Option Path := if settings.config.separate then none else settings.output

/-- What a run on a disk delivers. -/
def delivered (settings : Settings) (format : OutputFormat) (printed : Bool) (disk : Disk) :
    List (Path × String) :=
  settings.deliveries format printed (settings.files disk) (settings.outcome disk).typings

/-- Without an output of its own, a run writes beside its inputs. -/
theorem exists_input_of_delivered (beside : settings.given = none) {file : Path × String}
    (member : file ∈ settings.delivered format printed before) :
    ∃ input ∈ settings.files before, file.1 = input.generated format.suffix := by
  unfold delivered deliveries at member
  split at member
  · contradiction
  · split at member
    · obtain ⟨entry, typings, rfl⟩ := List.mem_map.1 member
      obtain ⟨extracted, gives, _⟩ := (@get?_mergeEach_iff settings before ⟨entry.1⟩ entry.2).1
        (Dict.get?_eq_some_iff.2 typings)
      exact ⟨_, gives.listed, rfl⟩
    · next together =>
      unfold given at beside
      rw [if_neg together] at beside
      unfold combinedOutput at member
      rw [beside] at member
      cases listed : settings.files before with
      | nil =>
        rw [listed] at member
        contradiction
      | cons input rest =>
        rw [listed] at member
        cases rest with
        | nil =>
          rw [List.mem_singleton.1 member]
          exact ⟨input, List.mem_cons_self, rfl⟩
        | cons => contradiction

theorem eq_output_of_delivered (combined : settings.given = some output) {file : Path × String}
    (member : file ∈ settings.delivered format printed before) : file.1 = output ∧ printed = false := by
  unfold given at combined
  unfold delivered deliveries at member
  split at combined
  · contradiction
  · next together =>
    split at member
    · contradiction
    · next unprinted =>
      unfold combinedOutput at member
      rw [combined] at member
      exact ⟨congrArg Prod.fst (List.mem_singleton.1 member), Bool.eq_false_iff.2 unprinted⟩

/-- Files beside inputs stand in folders that were there already, so nothing else is new. -/
theorem generatedBeside_of_saved (beside : settings.given = none) (absolute : settings.base.isAbsolute = true)
    (sound : before.Sound)
    (saved : (Disk.saveAll (settings.delivered format printed before)).run before = (.ok (), later))
    (withheld : ∀ file ∈ settings.delivered format printed before, settings.Withheld later file.1) :
    GeneratedBeside settings format ((settings.delivered format printed before).map (·.1)) before later := by
  have written := Disk.written_saveAll sound.tree saved
  have wrote := Disk.filesAt_saveAll sound (fun file member above parent => by
    obtain ⟨input, listed, equal⟩ := exists_input_of_delivered beside member
    obtain ⟨_, _, _, _, _, _, read⟩ := written.last file member
    obtain ⟨place, found⟩ := Disk.read_eq_ok_iff_exists_find.1 read
    rw [equal] at parent found
    exact .inr (Path.isFolder_of_generated sound.tree (Scan.isAbsolute_of_mem_scan absolute listed)
      (Scan.isFile_of_mem_scan listed) (Disk.accepts_of_find found) parent)) saved
  exact {
    sound, sound' := Disk.sound_saveAll sound saved, absolute
    beside := List.forall_mem_map.2 fun file member => exists_input_of_delivered beside member
    wrote := wrote.congr fun place => by simp
    withheld := List.forall_mem_map.2 withheld }

/-- The same is extracted as before if no file that is opened was rewritten. -/
theorem outcome_eq (files : settings.files later = settings.files before)
    (complete : (settings.outcome before).errors = []) (edited : Disk.Edited spots before later)
    (apart : ∀ path place, before.source.Opens (settings.files before) path →
      later.place? path = some place → ¬spots place) :
    settings.outcome later = settings.outcome before := by
  have agrees : before.source.Agrees later.source (fun _ => True)
      (before.source.Opens (settings.files before)) := by
    refine ⟨fun {path} opens => ?_, .included⟩
    simp only [Disk.source_read]
    cases read : before.read path with
    | error cause => exact .inr ⟨cause, rfl, trivial⟩
    | ok text =>
      exact .inl (edited.toGrows.read_eq read fun place leads stands =>
        edited.same place _ stands (apart path place opens leads))
  rw [outcome, files]
  refine (extractFiles_agrees agrees settings.options fun _ => .input).resolve_right ?_
  rintro ⟨name, error, failed, _⟩
  change (name, error) ∈ (settings.outcome before).errors at failed
  rw [complete] at failed
  contradiction

/-- The output of a run is neither an input of the next one nor included by one, and the folders that were made
for it bring neither an input nor another configuration. -/
structure OutputApart (settings : Settings) (arguments : Arguments) (folder output : Path)
    (before after : Disk) : Prop where
  configured : load after folder arguments = .ok settings
  stood (file : Path) : file ∈ settings.files after → before.isFile file = true
  unopened (path : Path) : after.source.Opens (settings.files after) path → after.place? path ≠ after.place? output

namespace OutputApart

variable (apart : settings.OutputApart arguments folder output before later)
include apart

theorem files_eq (growth : Scan.Growth before later) (absolute : settings.base.isAbsolute = true) :
    settings.files later = settings.files before := by
  have earlier : settings.files before = (settings.files later).filter before.isFile :=
    files_scan_of_growth growth absolute _ _
  rw [earlier, eq_comm, List.filter_eq_self]
  exact apart.stood

/-- What was opened is opened again, as long as nothing but the output was rewritten. -/
theorem opens (files : settings.files later = settings.files before)
    (edited : Disk.Edited (fun place => later.place? output = some place) before later)
    (opened : before.source.Opens (settings.files before) path) :
    later.source.Opens (settings.files later) path := by
  induction opened with
  | input listed =>
    rw [files]
    exact .input listed
  | @included base target content nodes inclusion _ template read parsed member leads ih =>
    have again : later.read base = .ok content := edited.toGrows.read_eq read fun place leads stands =>
      edited.same place _ stands fun written => apart.unopened base ih (leads.trans written.symm)
    exact .included ih template again parsed member leads

end OutputApart

end Settings

theorem saved_of_generate (loaded : Settings.load console.disk folder arguments = .ok settings)
    (ran : (generate arguments format printed folder).run console = (.ok .success, after)) :
    (Disk.saveAll (settings.delivered format printed console.disk)).run console.disk = (.ok (), after.disk) := by
  obtain ⟨_, delivered⟩ := generate_succeeds loaded ran
  have saved := (saves_deliver delivered).run_ok delivered
  rwa [told_disk] at saved

/-- A run with the same settings, inputs and typings as one that succeeded changes nothing more. -/
theorem generate_unchanged (sound : console.disk.Sound)
    (loaded : Settings.load console.disk folder arguments = .ok settings)
    (loaded' : Settings.load after.disk folder arguments = .ok settings)
    (files : settings.files after.disk = settings.files console.disk)
    (outcome : settings.outcome after.disk = settings.outcome console.disk)
    (ran : (generate arguments format printed folder).run console = (.ok .success, after)) :
    ∃ again, (generate arguments format printed folder).run after = (.ok .success, again) ∧
      ∀ place, again.disk.get? place = after.disk.get? place := by
  obtain ⟨complete, delivered⟩ := generate_succeeds loaded ran
  have busy : settings.files console.disk ≠ [] := by
    intro idle
    cases (generate_idle loaded idle).symm.trans ran
  have saves := saves_deliver delivered
  obtain ⟨again, saved, same⟩ := Disk.saveAll_again sound (saved_of_generate loaded ran)
  obtain ⟨done, finished, rfl⟩ :=
    @Action.Saves.exists_run (after.told (settings.openingLines after.disk)) _ _ saves _ saved
  refine ⟨done, ?_, same⟩
  have busy' : settings.files after.disk ≠ [] := by rwa [files]
  rw [generate_settled loaded' busy', outcome, files, if_pos (by rw [complete]; rfl)]
  exact Action.run_bind_ok finished

theorem generate_again_beside (absolute : folder.isAbsolute = true) (sound : console.disk.Sound)
    (loaded : Settings.load console.disk folder arguments = .ok settings)
    (ran : (generate arguments format printed folder).run console = (.ok .success, after))
    (beside : settings.given = none)
    (withheld : ∀ file ∈ settings.delivered format printed console.disk, settings.Withheld after.disk file.1) :
    ∃ again, (generate arguments format printed folder).run after = (.ok .success, again) ∧
      ∀ place, again.disk.get? place = after.disk.get? place := by
  have saved := saved_of_generate loaded ran
  have written := Disk.written_saveAll sound.tree saved
  have generated := Settings.generatedBeside_of_saved beside (Settings.isAbsolute_base absolute loaded) sound
    saved withheld
  refine generate_unchanged sound loaded (generated.load_eq absolute loaded) generated.files_eq ?_ ran
  refine Settings.outcome_eq generated.files_eq (generate_succeeds loaded ran).1 written.edited
    fun path place opens leads spot => ?_
  exact generated.apart_of_opens opens leads (by simpa using spot)

theorem generate_again_over (absolute : folder.isAbsolute = true) (sound : console.disk.Sound)
    (loaded : Settings.load console.disk folder arguments = .ok settings)
    (ran : (generate arguments format printed folder).run console = (.ok .success, after))
    (combined : settings.given = some output)
    (apart : settings.OutputApart arguments folder output console.disk after.disk) :
    ∃ again, (generate arguments format printed folder).run after = (.ok .success, again) ∧
      ∀ place, again.disk.get? place = after.disk.get? place := by
  have saved := saved_of_generate loaded ran
  have sound' := Disk.sound_saveAll sound saved
  have edited : Disk.Edited (fun place => after.disk.place? output = some place) console.disk after.disk :=
    (Disk.written_saveAll sound.tree saved).edited.mono fun place _ _ ⟨file, member, leads⟩ =>
      (Settings.eq_output_of_delivered combined member).1 ▸ leads
  have growth : Scan.Growth console.disk after.disk :=
    { edited.toGrows with
      tree := sound.tree
      tree' := sound'.tree
      named := sound.named
      named' := sound'.named }
  have files := apart.files_eq growth (Settings.isAbsolute_base absolute loaded)
  refine generate_unchanged sound loaded apart.configured files ?_ ran
  refine Settings.outcome_eq files (generate_succeeds loaded ran).1 edited fun path place opens leads spot => ?_
  exact apart.unopened path (apart.opens files edited opens) (leads.trans spot.symm)

/-- A second run succeeds as the first one did and changes nothing. -/
theorem generate_again (absolute : folder.isAbsolute = true) (sound : console.disk.Sound)
    (loaded : Settings.load console.disk folder arguments = .ok settings)
    (ran : (generate arguments format printed folder).run console = (.ok .success, after))
    (withheld : settings.given = none → ∀ file ∈ settings.delivered format printed console.disk,
      settings.Withheld after.disk file.1)
    (apart : ∀ output, settings.given = some output → printed = false →
      settings.OutputApart arguments folder output console.disk after.disk) :
    ∃ again, (generate arguments format printed folder).run after = (.ok .success, again) ∧
      ∀ place, again.disk.get? place = after.disk.get? place := by
  cases combined : settings.given with
  | none => exact generate_again_beside absolute sound loaded ran combined (withheld combined)
  | some output =>
    cases printed with
    | true =>
      have saved := saved_of_generate loaded ran
      have same : after.disk = console.disk := by
        have none : settings.delivered format true console.disk = [] := rfl
        rw [none] at saved
        exact (congrArg Prod.snd saved).symm
      exact generate_unchanged sound loaded (same ▸ loaded) (same ▸ rfl) (same ▸ rfl) ran
    | false => exact generate_again_over absolute sound loaded ran combined (apart output combined rfl)

end

namespace TwoRuns

/-- A folder with a page. -/
def console : Console where
  disk := {
    entries := [(["p"], .folder), (["p", "a.html"], .file (some "<p id=a>"))]
    here := ["p"] }

def arguments (input : String) : Arguments := { inputs := [input], separate := true }

def settings (input : String) : Settings where
  config := { input := [input], separate := true }
  base := ⟨"/p"⟩
  output := none
  verbose := false

def first (input : String) : Except CommandError ExitStatus × Console :=
  (generate (arguments input) .declarations false ⟨"/p"⟩).run console

def second (input : String) : Except CommandError ExitStatus × Console :=
  (generate (arguments input) .declarations false ⟨"/p"⟩).run (first input).2

theorem sound : console.disk.Sound := ⟨⟨by decide, by decide⟩, by decide⟩

/-- A folder is no file, and no wildcard. -/
theorem withheld (path : Path) : (settings ".").Withheld (first ".").2.disk path where
  unmatched file taken := by
    have other : (first ".").2.disk.isFile ((⟨"/p"⟩ : Path).join ⟨"."⟩) = false := by decide +kernel
    cases taken with
    | named listed _ exact =>
      obtain rfl := List.mem_singleton.1 listed
      exact absurd exact (Bool.eq_false_iff.1 other)
    | matched listed wild =>
      obtain rfl := List.mem_singleton.1 listed
      exact absurd wild (by decide)
  unlinked place _ := by
    have plain : ∀ entry ∈ (first ".").2.disk.entries, (entry.2 matches .link _) = false := by decide +kernel
    refine Disk.Linkless.unlinked (fun entry member target link => ?_) place
    have other := plain entry member
    simp only [link] at other
    contradiction

end TwoRuns

theorem generate_again_folder :
    TwoRuns.console.disk.Sound ∧
      Settings.load TwoRuns.console.disk ⟨"/p"⟩ (TwoRuns.arguments ".") = .ok (TwoRuns.settings ".") ∧
      (TwoRuns.first ".").1 = .ok .success ∧
      ∃ again, TwoRuns.second "." = (.ok .success, again) ∧
        ∀ place, again.disk.get? place = (TwoRuns.first ".").2.disk.get? place := by
  open TwoRuns in
  have loaded : Settings.load console.disk ⟨"/p"⟩ (arguments ".") = .ok (settings ".") := by decide
  have success : (first ".").1 = .ok .success := by decide +kernel
  exact ⟨sound, loaded, success, generate_again (by decide) sound loaded (Prod.ext success rfl)
    (fun _ file _ => withheld file.1) nofun⟩

/-- A wildcard matches what the first run wrote. -/
theorem matched_artifact_extracted :
    TwoRuns.console.disk.Sound ∧
      Settings.load TwoRuns.console.disk ⟨"/p"⟩ (TwoRuns.arguments "*") = .ok (TwoRuns.settings "*") ∧
      (TwoRuns.settings "*").output = none ∧ (TwoRuns.first "*").1 = .ok .success ∧
      (TwoRuns.second "*").1 = .ok .success ∧
      (TwoRuns.first "*").2.disk.get? ["p", "a-querymap.d-querymap.d.ts"] = none ∧
      ((TwoRuns.second "*").2.disk.get? ["p", "a-querymap.d-querymap.d.ts"]).isSome = true :=
  ⟨TwoRuns.sound, by decide, rfl, by decide +kernel⟩

end Querymap
