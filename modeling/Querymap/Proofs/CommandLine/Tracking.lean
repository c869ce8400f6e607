import Querymap.Proofs.Cache.Tracked
import Querymap.Proofs.CommandLine.Failures
import Querymap.Proofs.CommandLine.Separate

/-! A watched run with one output, told of every edit of a file. As long as one input at most leads where a file
is edited, its output is what generating afresh would write. Of several inputs that lead to one place only the
first is forgotten, and the others go on contributing what the file was. -/
namespace Querymap

open Console

section

variable {settings : Settings} {disk before : Disk} {output changed : Path} {console after : Console}

theorem read_of_generate {arguments : Arguments} {format : OutputFormat} {folder : Path}
    (tree : console.disk.IsTree) (loaded : Settings.load console.disk folder arguments = .ok settings)
    (together : settings.config.separate = false) (combined : settings.output = some output)
    (ran : (generate arguments format false folder).run console = (.ok .success, after)) :
    after.disk.read output =
      .ok ((settings.outcome console.disk).typings.mergeAll.artifact settings.config.exported format) := by
  obtain ⟨_, delivered⟩ := generate_succeeds loaded ran
  rw [deliver, if_neg Bool.false_ne_true, if_neg (by simp [together])] at delivered
  obtain ⟨path, chosen, written⟩ :=
    @writeCombined_ok (console.told (settings.openingLines console.disk)) _ _ _ _ _ tree delivered
  unfold Settings.combinedOutput at chosen
  rw [combined] at chosen
  cases chosen
  exact @Disk.Written.read_last _ _ [] _ written

/-- The output holds what the inputs give on the disk as it is. -/
structure Exact (settings : Settings) (output : Path) (disk : Disk) : Prop where
  complete : (settings.outcome disk).errors = []
  text : disk.read output =
    .ok ((settings.outcome disk).typings.mergeAll.artifact settings.config.exported .declarations)

/-- Generating afresh changes nothing of an output that is exact. -/
theorem Exact.generate {arguments : Arguments} {folder : Path} (exact : Exact settings output console.disk)
    (tree : console.disk.IsTree) (combined : settings.output = some output)
    (together : settings.config.separate = false)
    (loaded : Settings.load console.disk folder arguments = .ok settings)
    (busy : settings.files console.disk ≠ []) :
    ∃ done, (Querymap.generate arguments .declarations false folder).run console = (.ok .success, done) ∧
      done.disk.read output = console.disk.read output := by
  obtain ⟨complete, text⟩ := exact
  obtain ⟨place, found⟩ := Disk.read_eq_ok_iff_exists_find.1 text
  have chosen : settings.combinedOutput (settings.files console.disk) .declarations = .ok output := by
    unfold Settings.combinedOutput
    rw [combined]
  obtain ⟨done, wrote, read⟩ := @writeCombined_over (console.told (settings.openingLines console.disk)) _
    settings .declarations _ (settings.outcome console.disk).typings _ _ tree chosen found
  refine ⟨done, ?_, read.trans text.symm⟩
  rw [generate_settled loaded busy, if_pos (by rw [complete]; rfl), deliver, if_neg Bool.false_ne_true,
    if_neg (by simp [together])]
  exact Action.run_bind_ok wrote

namespace WatchSession

variable {session next : WatchSession} {result : Except CommandError (List Written)} {files : List Path}

theorem run_writeAll (session : WatchSession) (output : Path) (files : List Path) (console : Console) :
    (session.writeAll output files).run console =
      match session.cache.refresh console.disk.source session.settings.options files with
      | (outcome, .error error) =>
        ((.error (.extraction error), session), console.told (brokenOffLines outcome.brokenOff))
      | (outcome, .ok cache) =>
        let ran := (session.writeModel output cache.model).run (console.told (brokenOffLines outcome.brokenOff))
        ((ran.1.map fun _ => [⟨output, files.length⟩], { session with cache }), ran.2) := by
  unfold writeAll
  simp only [StateT.run_bind, StateT.run_get, pure_bind]
  rcases session.cache.refresh console.disk.source session.settings.options files with ⟨outcome, cache⟩
  have told : StateT.run (reportBrokenOff outcome.brokenOff).run console = _ :=
    tells_reportBrokenOff outcome.brokenOff console
  rw [told]
  cases cache <;> rfl

/-- What is written is the model of the cache afterwards. -/
theorem read_of_writeAll {written : List Written} (tree : console.disk.IsTree)
    (ran : (session.writeAll output files).run console = ((.ok written, next), after)) :
    after.disk.read output =
      .ok (next.cache.model.artifact session.settings.config.exported .declarations) := by
  rw [run_writeAll] at ran
  rcases refreshed : session.cache.refresh console.disk.source session.settings.options files
    with ⟨outcome, error | cache⟩
  · rw [refreshed] at ran
    cases ran
  rw [refreshed] at ran
  dsimp only at ran
  rcases wrote : (session.writeModel output cache.model).run (console.told (brokenOffLines outcome.brokenOff))
    with ⟨error | ⟨⟨⟩⟩, done⟩
  · rw [wrote] at ran
    cases ran
  · rw [wrote] at ran
    cases ran
    obtain ⟨place, _, leads, stands⟩ := @writeArtifact_ok (console.told _) _ _ _ tree wrote
    exact Disk.read_eq_ok_iff.2 ⟨place, leads, stands⟩

theorem run_start (combined : session.output = some output) (console : Console) :
    ∃ lines, session.start.run console =
      (session.writeAll output (session.settings.files console.disk)).run (console.told lines) := by
  obtain ⟨lines, scanned⟩ : ∃ lines, (scanInputs session.settings).run console =
      (.ok (session.settings.scan console.disk), console.told lines) := ⟨_, run_scanInputs _ _⟩
  unfold start
  obtain ⟨settings, cache, _⟩ := session
  cases combined
  exact ⟨lines, Action.run_then scanned⟩

theorem run_handleChange (combined : session.output = some output) (changed : Path) (console : Console) :
    ∃ lines, (session.handleChange changed).run console =
      ({ session with
        cache := session.cache.forget
          ((input? console.disk (session.settings.files console.disk) changed).getD changed) }.writeAll
        output (session.settings.files console.disk)).run (console.told lines) := by
  obtain ⟨lines, scanned⟩ : ∃ lines, (scanInputs session.settings).run console =
      (.ok (session.settings.scan console.disk), console.told lines) := ⟨_, run_scanInputs _ _⟩
  unfold handleChange
  refine ⟨lines, (Action.run_then scanned).trans ?_⟩
  dsimp only
  rw [StateT.run_bind, StateT.run_get, pure_bind]
  dsimp only
  rw [told_disk, Settings.files]
  obtain ⟨settings, cache, _⟩ := session
  cases combined
  rfl

theorem read_of_handleChange {written : List Written} (combined : session.output = some output)
    (tree : console.disk.IsTree)
    (ran : (session.handleChange changed).run console = ((.ok written, next), after)) :
    after.disk.read output =
      .ok (next.cache.model.artifact session.settings.config.exported .declarations) := by
  obtain ⟨lines, handled⟩ := run_handleChange combined changed console
  rw [ran, eq_comm] at handled
  have read := read_of_writeAll (by exact tree) handled
  exact read

/-- An input that alone leads where a path does is the input of that path. -/
theorem input?_eq {file : Path} {place : Place} (tree : disk.IsTree) (listed : file ∈ settings.files disk)
    (leads : disk.place? file = some place) (led : disk.place? changed = some place)
    (alone : ∀ other ∈ settings.files disk, disk.place? other = some place → other = file) :
    input? disk (settings.files disk) changed = some file := by
  unfold input?
  cases spelled : (settings.files disk).find? (·.same changed) with
  | some other =>
    have same := List.find?_some spelled
    have member := List.mem_of_find?_eq_some spelled
    -- A path that is spelled otherwise leads to the same file, which stands at the place.
    obtain ⟨_, text, found, reached⟩ := Settings.exists_find_of_mem listed
    cases reached.symm.trans leads
    obtain ⟨_, text', found', reached'⟩ := Settings.exists_find_of_mem member
    obtain ⟨located, _⟩ := Disk.place?_eq_some_iff.1 led
    have known := Disk.find_eq_ok_iff.2 ⟨located, (Disk.find_eq_ok_iff.1 found).2⟩
    cases known.symm.trans (Disk.find_of_same tree tree same found' known)
    rw [alone other member reached']
    rfl
  | none =>
    rw [Option.none_or, led]
    change (settings.files disk).find? (fun file => disk.place? file == some place) = some file
    cases reached : (settings.files disk).find? (fun file => disk.place? file == some place) with
    | some other =>
      have same := List.find?_some reached
      rw [alone other (List.mem_of_find?_eq_some reached) (beq_iff_eq.1 same)]
    | none => exact absurd (beq_iff_eq.2 leads) (List.find?_eq_none.1 reached file listed)

/-- A run over files without includes that neither made nor wrote an input. -/
structure Undisturbed (settings : Settings) (output : Path) (before after : Disk) : Prop where
  includeless : ∀ file ∈ settings.files before, before.source.Includeless file
  apart : ∀ file ∈ settings.files after, before.isFile file = true ∧ after.place? file ≠ after.place? output

/-- What is known when the typings are written is known afterwards, and they can be read. -/
theorem tracked_of_write {cache : Cache} {content : String} {lines : List String} {result : Except CommandError Unit}
    (tracked : Tracked settings console.disk cache) (absolute : settings.base.isAbsolute = true)
    (known : ∀ file, cache.Knows file ↔ file ∈ settings.files console.disk)
    (ran : (writeArtifact output content).run (console.told lines) = (result, after))
    (undisturbed : Undisturbed settings output console.disk after.disk) :
    Tracked settings after.disk cache ∧ (result = .ok () → after.disk.read output = .ok content ∧
      ∀ file, cache.Knows file ↔ file ∈ settings.files after.disk) := by
  have saved : after.disk = ((Disk.save output (some content)).run console.disk).2 := by
    have same := (saves_writeArtifact output content (console.told lines)).1
    rwa [ran, told_disk, Disk.run_saveAll_one] at same
  have later := tracked.save absolute saved fun file listed _ => (undisturbed.apart file listed).2
  refine ⟨later, ?_⟩
  rintro rfl
  obtain ⟨place, edited, leads, stands⟩ := @writeArtifact_ok (console.told lines) _ _ _ tracked.sound.tree ran
  refine ⟨Disk.read_eq_ok_iff.2 ⟨place, leads, stands⟩, fun file => ?_⟩
  have growth : Scan.Growth console.disk after.disk :=
    ⟨edited.toGrows, tracked.sound.tree, later.sound.tree, tracked.sound.named, later.sound.named⟩
  rw [known]
  constructor
  · intro listed
    exact (Settings.mem_files_iff_of_growth growth absolute (Scan.isFile_of_mem_scan listed)).1 listed
  · intro listed
    exact (Settings.mem_files_iff_of_growth growth absolute (undisturbed.apart file listed).1).2 listed

/-- A session of some settings whose cache holds what the inputs give. -/
structure Keeps (settings : Settings) (output : Path) (session : WatchSession) (disk : Disk) : Prop where
  same : session.settings = settings
  combined : session.output = some output
  tracked : Tracked settings disk session.cache

theorem Keeps.writeAll {lines : List String} (keeps : Keeps settings output session console.disk)
    (absolute : settings.base.isAbsolute = true)
    (ran : (session.writeAll output files).run (console.told lines) = ((result, next), after))
    (listed : files = settings.files console.disk)
    (undisturbed : Undisturbed settings output console.disk after.disk) :
    Keeps settings output next after.disk ∧
      ∀ written, result = .ok written → Exact settings output after.disk := by
  obtain ⟨same, combined, tracked⟩ := keeps
  subst listed
  rw [run_writeAll, told_disk] at ran
  rcases refreshed : session.cache.refresh console.disk.source session.settings.options
    (settings.files console.disk) with ⟨outcome, error | renewed⟩
  · rw [refreshed] at ran
    cases ran
    exact ⟨⟨same, combined, tracked⟩, nofun⟩
  rw [refreshed] at ran
  rw [same] at refreshed
  obtain ⟨tracked, known⟩ := tracked.refresh undisturbed.includeless (by rw [refreshed])
  dsimp only at ran
  rw [← told_append] at ran
  generalize lines ++ brokenOffLines outcome.brokenOff = lines at ran
  rcases wrote : (session.writeModel output renewed.model).run (console.told lines) with ⟨answer, done⟩
  rw [wrote] at ran
  cases ran
  obtain ⟨tracked, success⟩ := tracked_of_write tracked absolute known wrote undisturbed
  refine ⟨⟨same, combined, tracked⟩, fun written done => ?_⟩
  cases answer with
  | error => cases done
  | ok =>
    obtain ⟨read, known⟩ := success rfl
    obtain ⟨complete, model⟩ := tracked.model_eq known
    exact ⟨complete, by rw [read, same, model]⟩

/-- One input at most leads where a path does. -/
def LedToOnce (settings : Settings) (disk : Disk) (path : Path) : Prop :=
  ∀ a ∈ settings.files disk, ∀ b ∈ settings.files disk, disk.place? a = disk.place? path →
    disk.place? b = disk.place? path → a = b

/-- The input whose file was edited is forgotten. -/
theorem Keeps.forget (keeps : Keeps settings output session before) (absolute : settings.base.isAbsolute = true)
    (edit : before.FileEdit changed disk) (once : LedToOnce settings disk changed) :
    Keeps settings output { session with
      cache := session.cache.forget ((input? disk (session.settings.files disk) changed).getD changed) } disk := by
  obtain ⟨same, combined, tracked⟩ := keeps
  have sound : disk.Sound := by
    refine (Tracked.fileEdit (Tracked.empty tracked.sound) absolute edit ?_).sound
    exact fun _ _ ⟨_, known⟩ => (nomatch known)
  refine ⟨same, combined, (tracked.forget _).fileEdit absolute edit fun file listed knows leads => ?_⟩
  obtain ⟨place, text, found, led⟩ := Settings.exists_find_of_mem listed
  have input := input?_eq sound.tree listed led (leads.symm.trans led) fun other among there =>
    once other among file listed (there.trans (led.symm.trans leads)) leads
  refine knows.of_forget.2 ?_
  rw [same, input, Option.getD_some]

/-- The sessions that a first run and edits, each with word of it, lead to, with the answer of the last run. -/
inductive Watched (settings : Settings) (output : Path) :
    Except CommandError (List Written) → WatchSession → Console → Prop
  | start {session next : WatchSession} {console after : Console} {result : Except CommandError (List Written)} :
      console.disk.IsTree → console.disk.Named → ofSettings settings = .ok session →
      session.output = some output → session.start.run console = ((result, next), after) →
      Undisturbed settings output console.disk after.disk → Watched settings output result next after
  | change {session next : WatchSession} {console after : Console} {disk : Disk} {changed : Path}
      {last result : Except CommandError (List Written)} :
      Watched settings output last session console → console.disk.FileEdit changed disk →
      LedToOnce settings disk changed →
      (session.handleChange changed).run { console with disk } = ((result, next), after) →
      Undisturbed settings output disk after.disk → Watched settings output result next after

theorem ofSettings_ok (made : ofSettings settings = .ok session) (combined : session.output = some output) :
    session.settings = settings ∧ session.cache = {} ∧ settings.output = some output ∧
      settings.config.separate = false := by
  unfold ofSettings at made
  split at made
  · cases made
    cases combined
  · next together =>
    split at made
    · next found =>
      cases made
      exact ⟨rfl, rfl, found.trans combined, Bool.eq_false_iff.2 together⟩
    · cases made

theorem Watched.together (watched : Watched settings output result session console) :
    settings.output = some output ∧ settings.config.separate = false := by
  induction watched with
  | start _ _ made combined => exact (ofSettings_ok made combined).2.2
  | change _ _ _ _ _ ih => exact ih

theorem Watched.keeps (watched : Watched settings output result session console)
    (absolute : settings.base.isAbsolute = true) : Keeps settings output session console.disk ∧
      ∀ written, result = .ok written → Exact settings output console.disk := by
  induction watched with
  | @start session _ console _ _ tree named made combined ran undisturbed =>
    obtain ⟨same, fresh, _⟩ := ofSettings_ok made combined
    have empty : Keeps settings output session console.disk :=
      ⟨same, combined, fresh ▸ Tracked.empty ⟨tree, named⟩⟩
    obtain ⟨lines, started⟩ := run_start combined console
    rw [started] at ran
    exact empty.writeAll absolute ran (by rw [same]) undisturbed
  | @change session _ console _ disk changed _ _ _ edit once ran undisturbed ih =>
    obtain ⟨lines, handled⟩ := run_handleChange ih.1.combined changed { console with disk }
    rw [handled] at ran
    exact (ih.1.forget absolute edit once).writeAll absolute ran (by rw [ih.1.same]) undisturbed

/-- Whatever failed before, a run that succeeds leaves the output that generating afresh would write. -/
theorem exact_of_watched {written : List Written}
    (watched : Watched settings output (.ok written) session console)
    (absolute : settings.base.isAbsolute = true) :
    Exact settings output console.disk ∧ ∀ (arguments : Arguments) (folder : Path),
      Settings.load console.disk folder arguments = .ok settings → settings.files console.disk ≠ [] →
      ∃ done, (generate arguments .declarations false folder).run console = (.ok .success, done) ∧
        done.disk.read output = console.disk.read output := by
  obtain ⟨keeps, exact⟩ := watched.keeps absolute
  obtain ⟨combined, together⟩ := watched.together
  have exact := exact written rfl
  exact ⟨exact, fun arguments folder loaded busy =>
    exact.generate keeps.tracked.sound.tree combined together loaded busy⟩

end WatchSession

end

open WatchSession

namespace EditedPage

/-- A page beside a folder. -/
def console : Console where
  disk := {
    entries := [(["p"], .folder), (["p", "a.html"], .file (some "<p id=x>")), (["p", "q"], .folder)]
    here := ["p"] }

def arguments (inputs : List String) : Arguments := { inputs, output := some "t.d.ts" }

def settings (inputs : List String) : Settings where
  config := { input := inputs, output := some "t.d.ts" }
  base := ⟨"/p"⟩
  output := some ⟨"/p/t.d.ts"⟩
  verbose := false

def started (inputs : List String) : (Except CommandError (List Written) × WatchSession) × Console :=
  (WatchSession.start ⟨settings inputs, {}, some ⟨"/p/t.d.ts"⟩⟩).run console

/-- The page is written again after the first run. -/
def edited (inputs : List String) : Disk :=
  ((Disk.save ⟨"/p/a.html"⟩ (some "<b id=x>")).run (started inputs).2.disk).2

def changed (inputs : List String) : (Except CommandError (List Written) × WatchSession) × Console :=
  ((started inputs).1.2.handleChange ⟨"/p/a.html"⟩).run { (started inputs).2 with disk := edited inputs }

theorem isTree : console.disk.IsTree := ⟨by decide, by decide⟩

theorem named : console.disk.Named := by decide

theorem undisturbed {inputs : List String} {before after : Disk} (file : Path)
    (listed : (settings inputs).files before = [file]) (markup : FileType.ofPath file ≠ .pug)
    (later : (settings inputs).files after = [file] ∧ before.isFile file = true ∧
      after.place? file ≠ after.place? ⟨"/p/t.d.ts"⟩) :
    Undisturbed (settings inputs) ⟨"/p/t.d.ts"⟩ before after where
  includeless other member := by
    rw [listed, List.mem_singleton] at member
    exact member ▸ fun content _ => includeless_of_ne markup content
  apart other member := by
    rw [later.1, List.mem_singleton] at member
    exact member ▸ later.2

theorem watched : Watched (settings ["a.html"]) ⟨"/p/t.d.ts"⟩ (changed ["a.html"]).1.1 (changed ["a.html"]).1.2
    (changed ["a.html"]).2 := by
  have alone : (settings ["a.html"]).files (edited ["a.html"]) = [⟨"/p/a.html"⟩] := by decide +kernel
  have first := @undisturbed ["a.html"] console.disk (started ["a.html"]).2.disk ⟨"/p/a.html"⟩ (by decide)
    (by decide) (by decide +kernel)
  have second := @undisturbed ["a.html"] (edited ["a.html"]) (changed ["a.html"]).2.disk ⟨"/p/a.html"⟩ alone
    (by decide) (by decide +kernel)
  have begun : Watched (settings ["a.html"]) ⟨"/p/t.d.ts"⟩ (started ["a.html"]).1.1 (started ["a.html"]).1.2
      (started ["a.html"]).2 := .start isTree named rfl rfl rfl first
  have edit : (started ["a.html"]).2.disk.FileEdit ⟨"/p/a.html"⟩ (edited ["a.html"]) := .save _
  have once : LedToOnce (settings ["a.html"]) (edited ["a.html"]) ⟨"/p/a.html"⟩ := by
    intro a one b other _ _
    rw [alone, List.mem_singleton] at one other
    rw [one, other]
  exact .change begun edit once rfl second

/-- The model of a single element with an id. -/
def modelOf (type : String) : Model where
  ids := Dict.ofList [("x", type)]
  selectors := Dict.ofList [("#x", type)]

theorem stale : (edited ["a.html", "q/../a.html"]).IsTree ∧
    (started ["a.html", "q/../a.html"]).1.2.settings = settings ["a.html", "q/../a.html"] ∧
    (started ["a.html", "q/../a.html"]).1.2.output = some ⟨"/p/t.d.ts"⟩ ∧
    (changed ["a.html", "q/../a.html"]).1.1 = .ok [⟨⟨"/p/t.d.ts"⟩, 2⟩] ∧
    (changed ["a.html", "q/../a.html"]).1.2.cache.model = modelOf "HTMLParagraphElement" := by
  refine ⟨⟨?_, ?_⟩, ?_⟩
  all_goals decide +kernel

theorem read_stale : (changed ["a.html", "q/../a.html"]).2.disk.read ⟨"/p/t.d.ts"⟩ =
    .ok ((modelOf "HTMLParagraphElement").declaration false) := by
  obtain ⟨tree, same, combined, success, model⟩ := stale
  have read := read_of_handleChange combined tree (Prod.ext (Prod.ext success rfl) rfl)
  rw [same] at read
  exact read.trans (model ▸ rfl)

end EditedPage

theorem exact_of_watched_editedPage :
    Watched (EditedPage.settings ["a.html"]) ⟨"/p/t.d.ts"⟩ (.ok [⟨⟨"/p/t.d.ts"⟩, 1⟩])
        (EditedPage.changed ["a.html"]).1.2 (EditedPage.changed ["a.html"]).2 ∧
      (EditedPage.settings ["a.html"]).base.isAbsolute = true ∧
      Exact (EditedPage.settings ["a.html"]) ⟨"/p/t.d.ts"⟩ (EditedPage.changed ["a.html"]).2.disk := by
  open EditedPage in
  have success : (changed ["a.html"]).1.1 = .ok [⟨⟨"/p/t.d.ts"⟩, 1⟩] := by decide +kernel
  have absolute : (settings ["a.html"]).base.isAbsolute = true := by decide
  have watched := success ▸ watched
  exact ⟨watched, absolute, (exact_of_watched watched absolute).1⟩

/-- Of a page that is an input by two paths, the one that was not named in the word of an edit goes on
contributing what the page was. -/
theorem alias_unnoticed : (EditedPage.changed ["a.html", "q/../a.html"]).1.1 = .ok [⟨⟨"/p/t.d.ts"⟩, 2⟩] ∧
    ∃ done, (generate (EditedPage.arguments ["a.html", "q/../a.html"]) .declarations false ⟨"/p"⟩).run
        (EditedPage.changed ["a.html", "q/../a.html"]).2 = (.ok .success, done) ∧
      done.disk.read ⟨"/p/t.d.ts"⟩ ≠ (EditedPage.changed ["a.html", "q/../a.html"]).2.disk.read ⟨"/p/t.d.ts"⟩ := by
  open EditedPage in
  have loaded : Settings.load (changed ["a.html", "q/../a.html"]).2.disk ⟨"/p"⟩
      (arguments ["a.html", "q/../a.html"]) = .ok (settings ["a.html", "q/../a.html"]) := by decide +kernel
  have tree : (changed ["a.html", "q/../a.html"]).2.disk.IsTree := by
    refine ⟨?_, ?_⟩
    all_goals decide +kernel
  have fresh : ((settings ["a.html", "q/../a.html"]).outcome
      (changed ["a.html", "q/../a.html"]).2.disk).typings.mergeAll = modelOf "HTMLElement" := by decide +kernel
  have generated : ((generate (arguments ["a.html", "q/../a.html"]) .declarations false ⟨"/p"⟩).run
      (changed ["a.html", "q/../a.html"]).2).1 = .ok .success := by decide +kernel
  refine ⟨stale.2.2.2.1, _, Prod.ext generated rfl, ?_⟩
  rw [read_of_generate tree loaded rfl rfl (Prod.ext generated rfl), fresh, read_stale]
  intro same
  have plain : (modelOf "HTMLElement").HasOneLineTypes := by constructor <;> decide +kernel
  have plain' : (modelOf "HTMLParagraphElement").HasOneLineTypes := by constructor <;> decide +kernel
  have back := Declaration.read?_declaration plain false
  rw [show (modelOf "HTMLElement").declaration false = _ from Except.ok.inj same,
    Declaration.read?_declaration plain' false] at back
  exact absurd (Option.some.inj back) (by decide)

end Querymap
