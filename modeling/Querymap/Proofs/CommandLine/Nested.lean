import Querymap.Proofs.CommandLine.Separate
import Querymap.Proofs.Disk.Here
import Querymap.Proofs.Pug.Sources
import Querymap.Proofs.Scan.Mirror

/-! A configured project is generated alike from all of its folders. Its configuration is found from each of
them, all paths of a run start from the folder of the configuration, and absolute paths do not depend on
the working folder. -/
namespace Querymap

namespace Scan

variable {disk : Disk} {base path file : Path} {here : Place} {withCompiled : Bool}

theorem image_id (found : Found) : found.image id = found := by
  have same : ScanWarning.image id = id := by
    funext warning
    cases warning <;> rfl
  simp [Found.image, same]

/-- From every working folder, the same is found at absolute paths. -/
theorem mirror_seenFrom (disk : Disk) (here : Place) :
    Mirror disk (disk.seenFrom here) id fun _ path => path.isAbsolute = true where
  absolute absolute := ⟨absolute, absolute⟩
  alike absolute := ⟨Disk.status_seenFrom here absolute, Disk.ownStatus_seenFrom here absolute⟩
  list absolute _ := Disk.list_seenFrom here absolute
  literal absolute _ := ⟨Glob.isAbsolute_join absolute _, rfl⟩
  special absolute _ _ := ⟨Glob.isAbsolute_join absolute _, rfl⟩
  named absolute _ _ _ := ⟨Glob.isAbsolute_join absolute _, rfl⟩
  skip absolute _ := absolute
  deeper absolute _ _ _ := ⟨Glob.isAbsolute_join absolute _, rfl⟩
  below absolute _ _ := ⟨Glob.isAbsolute_join absolute _, rfl⟩
  fileName _ _ _ := rfl

theorem absolute_ofPath {glob : Glob} (absolute : path.isAbsolute = true) (read : Glob.ofPath path = .ok glob) :
    glob.absolute = true := by
  obtain ⟨text, spelled⟩ := List.head?_eq_some_iff.1 (beq_iff_eq.1 absolute)
  exact (Glob.reads_of_ofPath spelled read).1

theorem expand_seenFrom {glob : Glob} (absolute : path.isAbsolute = true)
    (read : Glob.ofPath path = .ok glob) (here : Place) :
    Mirrored id (fun _ path => path.isAbsolute = true) (glob.expand (disk.seenFrom here))
      (glob.expand disk) := by
  have start : (⟨if glob.absolute then "/" else "."⟩ : Path).isAbsolute = true := by
    rw [absolute_ofPath absolute read]
    decide
  exact (mirror_seenFrom disk here).expandWithin start _

theorem input_seenFrom (absolute : base.isAbsolute = true) (text : String) :
    input (disk.seenFrom here) base withCompiled text = input disk base withCompiled text := by
  have joined := Glob.isAbsolute_join absolute ⟨text⟩
  have collected {path : Path} (absolute : path.isAbsolute = true) :
      collect (disk.seenFrom here) withCompiled path = collect disk withCompiled path := by
    simpa [image_id] using (mirror_seenFrom disk here).collect_image rfl absolute withCompiled
  unfold input
  simp only [collected joined, Disk.exists?_seenFrom here joined]
  split
  · split
    · next glob read =>
      have found := @expand_seenFrom disk _ _ joined read here
      rw [found.map, List.map_id]
      exact congrArg concat (List.map_congr_left fun path member => collected (found.along path member))
    · rfl
  · rfl

theorem scan_seenFrom (absolute : base.isAbsolute = true) (inputs : List String) :
    scan (disk.seenFrom here) base inputs withCompiled = scan disk base inputs withCompiled := by
  have same : input (disk.seenFrom here) base withCompiled = input disk base withCompiled :=
    funext fun text => input_seenFrom absolute text
  rw [scan, scan, same]

/-- The files found from an absolute path are absolute. -/
theorem isAbsolute_of_mem_scan (absolute : base.isAbsolute = true) {inputs : List String}
    (found : file ∈ (scan disk base inputs withCompiled).files) : file.isAbsolute = true := by
  have mirror := mirror_seenFrom disk []
  obtain ⟨part, listed, inside⟩ := mem_files_concat.1 (mem_of_mem_sortPaths found)
  obtain ⟨text, _, rfl⟩ := List.mem_map.1 listed
  have joined := Glob.isAbsolute_join absolute ⟨text⟩
  unfold input at inside
  dsimp only at inside
  split at inside
  · split at inside
    · next glob read =>
      obtain ⟨_, part, collected⟩ := mem_files_concat.1 inside
      obtain ⟨path, expanded, rfl⟩ := List.mem_map.1 part
      exact mirror.along_of_mem_collect ((expand_seenFrom joined read []).along path expanded) collected
    · contradiction
  · split at inside
    · exact mirror.along_of_mem_collect joined inside
    · contradiction

end Scan

namespace Path

variable {path folder : Path}

theorem isAbsolute_withFileName (absolute : path.isAbsolute = true) (name : String) :
    (path.withFileName name).isAbsolute = true := by
  unfold withFileName
  cases named : path.fileName? with
  | none => exact Glob.isAbsolute_join absolute _
  | some own =>
    obtain ⟨folder, parent⟩ := exists_parent?_of_fileName? named
    rw [parent]
    exact Glob.isAbsolute_join (isAbsolute_of_parent? parent absolute) _

theorem isAbsolute_addExtension (absolute : path.isAbsolute = true) {extension : String}
    (plain : '/' ∉ extension.toList) (filled : extension.toList ≠ []) :
    (path.addExtension extension).isAbsolute = true := by
  rw [← root_mem_components_iff] at absolute ⊢
  rw [components_addExtension path plain filled, extended]
  split
  · next text last =>
    obtain ⟨before, split⟩ := List.getLast?_eq_some_iff.1 last
    rw [split] at absolute ⊢
    simpa using absolute
  · exact absolute

theorem isAbsolute_resolve (absolute : path.isAbsolute = true) (template : Pug.isTemplate path = true)
    (name : String) : (Pug.resolve path name).isAbsolute = true := by
  have named : path.fileName? ≠ none := by
    intro none
    simp [Pug.isTemplate, extension?, none] at template
  obtain ⟨own, named⟩ := Option.ne_none_iff_exists'.1 named
  obtain ⟨folder, parent⟩ := exists_parent?_of_fileName? named
  have joined := Glob.isAbsolute_join (isAbsolute_of_parent? parent absolute) ⟨name⟩
  unfold Pug.resolve
  rw [parent]
  dsimp only
  split
  · exact isAbsolute_addExtension joined (by decide) (by decide)
  · exact joined

end Path

/-- Absolute templates include absolute ones. -/
theorem Disk.agrees_seenFrom (disk : Disk) (here : Place) :
    disk.source.Agrees (disk.seenFrom here).source (fun _ => False) fun path => path.isAbsolute = true where
  read absolute := .inl (Disk.read_seenFrom here absolute)
  closed absolute template _ _ _ leads := leads.resolved ▸ Path.isAbsolute_resolve absolute template _

namespace Settings

variable {settings : Settings} {disk : Disk} (absolute : settings.base.isAbsolute = true) (here : Place)
include absolute

theorem scan_seenFrom : settings.scan (disk.seenFrom here) = settings.scan disk :=
  Scan.scan_seenFrom absolute _

theorem files_seenFrom : settings.files (disk.seenFrom here) = settings.files disk := by
  rw [files, files, scan_seenFrom absolute]

theorem outcome_seenFrom : settings.outcome (disk.seenFrom here) = settings.outcome disk := by
  rw [outcome, outcome, files_seenFrom absolute]
  rcases extractFiles_agrees (disk.agrees_seenFrom here) _ fun _ =>
    Scan.isAbsolute_of_mem_scan absolute with same | ⟨_, _, _, never⟩
  · exact same
  · exact never.elim

end Settings

/-- A console seen from another working folder. -/
def Console.seenFrom (console : Console) (here : Place) : Console :=
  { console with disk := console.disk.seenFrom here }

/-- An action that does the same from every working folder. -/
def Action.Anywhere {α : Type} (action : Action α) : Prop :=
  ∀ (console : Console) (here : Place), action.run (console.seenFrom here) =
    ((action.run console).1, (action.run console).2.seenFrom here)

namespace Action.Anywhere

variable {α β : Type} {action : Action α}

theorem pure (value : α) : Anywhere (pure value) := fun _ _ => rfl

theorem bind {next : α → Action β} (first : Anywhere action) (second : ∀ value, Anywhere (next value)) :
    Anywhere (action >>= next) := by
  intro console here
  change ExceptT.bindCont next (action.run (console.seenFrom here)).1 (action.run (console.seenFrom here)).2 =
    ((ExceptT.bindCont next (action.run console).1 (action.run console).2).1,
      (ExceptT.bindCont next (action.run console).1 (action.run console).2).2.seenFrom here)
  rw [first]
  cases (action.run console).1 with
  | error => rfl
  | ok value => exact second value _ here

theorem forM {items : List α} {action : α → Action Unit} (each : ∀ item ∈ items, Anywhere (action item)) :
    Anywhere (items.forM action) := by
  induction items with
  | nil => exact .pure ()
  | cons item rest ih =>
    obtain ⟨first, others⟩ := List.forall_mem_cons.1 each
    exact first.bind fun _ => ih others

theorem edit {change : Disk.Edit Unit} (anywhere : change.Anywhere) (reason : FileError → CommandError) :
    Anywhere (Console.edit change reason) := by
  intro console here
  have same := anywhere console.disk here
  simp only [run_edit, Console.seenFrom, same]

end Action.Anywhere

open Console

theorem anywhere_print (text : String) : Action.Anywhere (print text) := fun _ _ => rfl

theorem Console.Tells.anywhere {action : Action Unit} {lines : List String} (tells : Tells action lines) :
    action.Anywhere := by
  intro console here
  rw [tells, tells]
  rfl

theorem anywhere_writeArtifact {path : Path} (absolute : path.isAbsolute = true) (content : String) :
    Action.Anywhere (writeArtifact path content) := by
  have wrote := Action.Anywhere.edit (Disk.anywhere_write absolute (some content)) (.notWritten path)
  unfold writeArtifact
  dsimp only
  split
  · exact wrote
  · next folder parent =>
    exact .bind (.edit (Disk.anywhere_makeFolders (Path.isAbsolute_of_parent? parent absolute)) _)
      fun _ => wrote

section

variable {settings : Settings} {disk : Disk} {format : OutputFormat}

/-- A combined file goes to an absolute path, be it given or be it beside an absolute input. -/
theorem isAbsolute_combinedOutput {files : List Path} {path : Path}
    (given : ∀ output, settings.output = some output → output.isAbsolute = true)
    (found : ∀ file ∈ files, file.isAbsolute = true)
    (combined : settings.combinedOutput files format = .ok path) : path.isAbsolute = true := by
  unfold Settings.combinedOutput at combined
  split at combined
  · next output => 
    cases combined
    exact given _ ‹_›
  · cases combined
    exact Path.isAbsolute_withFileName (found _ (by simp)) _
  · contradiction

theorem isAbsolute_of_mem_mergeEach (absolute : settings.base.isAbsolute = true) {entry : String × Model}
    (member : entry ∈ (settings.outcome disk).typings.mergeEach.entries) :
    (⟨entry.1⟩ : Path).isAbsolute = true := by
  have found : (settings.outcome disk).typings.mergeEach.get? (⟨entry.1⟩ : Path).spelling = some entry.2 :=
    Dict.get?_eq_some_iff.2 member
  obtain ⟨extracted, gives, _⟩ := get?_mergeEach_iff.1 found
  exact Scan.isAbsolute_of_mem_scan absolute gives.listed

/-- What is delivered goes to absolute paths. -/
theorem anywhere_deliver (absolute : settings.base.isAbsolute = true)
    (given : ∀ output, settings.output = some output → output.isAbsolute = true) (printed : Bool) :
    Action.Anywhere (deliver settings format printed (settings.files disk)
      (settings.outcome disk).typings) := by
  unfold deliver
  split
  · exact anywhere_print _
  split
  · refine .forM fun entry member => ?_
    have artifact := Path.isAbsolute_withFileName (isAbsolute_of_mem_mergeEach absolute member)
    exact (anywhere_writeArtifact (artifact _) _).bind fun _ => anywhere_print _
  · unfold writeCombined
    cases combined : settings.combinedOutput (settings.files disk) format with
    | error error => exact fun _ _ => rfl
    | ok path =>
      have output := isAbsolute_combinedOutput given
        (fun _ => Scan.isAbsolute_of_mem_scan absolute) combined
      refine (?_ : Action.Anywhere (writeArtifact path _ >>= _))
      refine (anywhere_writeArtifact output _).bind fun _ => ?_
      split
      · exact .bind (.forM fun file _ => (tells_report _).anywhere) fun _ => anywhere_print _
      · exact anywhere_print _

end

namespace Config

variable {disk : Disk} {root folder : Path}

/-- The folders of a project: its root, and those below with neither a configuration nor a repository in
them or on the way to the root. -/
inductive Within (disk : Disk) (root : Path) : Path → Prop
  | root : Within disk root root
  | nested {folder parent : Path} : folder.parent? = some parent →
      disk.exists? (folder.join ⟨fileName⟩) = false → disk.exists? (folder.join ⟨".git"⟩) = false →
      Within disk root parent → Within disk root folder

theorem Within.isAbsolute (within : Within disk root folder) (absolute : folder.isAbsolute = true) :
    root.isAbsolute = true := by
  induction within with
  | root => exact absolute
  | nested parent _ _ _ ih => exact ih (Path.isAbsolute_of_parent? parent absolute)

theorem Within.seenFrom (within : Within disk root folder) (absolute : folder.isAbsolute = true)
    (here : Place) : Within (disk.seenFrom here) root folder := by
  induction within with
  | root => exact .root
  | nested parent unconfigured noRepository _ ih =>
    refine .nested parent ?_ ?_ (ih (Path.isAbsolute_of_parent? parent absolute))
    · rw [Disk.exists?_seenFrom here (Glob.isAbsolute_join absolute _), unconfigured]
    · rw [Disk.exists?_seenFrom here (Glob.isAbsolute_join absolute _), noRepository]

/-- From every folder of a project, its configuration is found. -/
theorem find?_of_within (within : Within disk root folder)
    (configured : disk.exists? (root.join ⟨fileName⟩) = true) :
    find? disk folder = some (root.join ⟨fileName⟩) := by
  have search : ∀ depth, folder.components.length < depth →
      findWithin disk depth folder = some (root.join ⟨fileName⟩) := by
    induction within with
    | root =>
      intro depth deep
      obtain ⟨depth, rfl⟩ := Nat.exists_eq_succ_of_ne_zero (Nat.ne_zero_of_lt deep)
      rw [findWithin, if_pos configured]
    | nested parent unconfigured noRepository _ ih =>
      intro depth deep
      obtain ⟨depth, rfl⟩ := Nat.exists_eq_succ_of_ne_zero (Nat.ne_zero_of_lt deep)
      obtain ⟨last, split, _⟩ := Path.components_eq_of_parent? parent
      rw [split, List.length_append, List.length_singleton] at deep
      rw [findWithin, unconfigured, noRepository, parent]
      exact ih depth (by omega)
  exact search _ (Nat.lt_succ_self _)

theorem load_of_within (within : Within disk root folder)
    (configured : disk.exists? (root.join ⟨fileName⟩) = true) : load disk folder = load disk root := by
  rw [load, load, find?_of_within within configured, find?_of_within .root configured]

theorem load_seenFrom (absolute : root.isAbsolute = true)
    (configured : disk.exists? (root.join ⟨fileName⟩) = true) (here : Place) :
    load (disk.seenFrom here) root = load disk root := by
  have joined := Glob.isAbsolute_join absolute ⟨fileName⟩
  have configured' : (disk.seenFrom here).exists? (root.join ⟨fileName⟩) = true := by
    rw [Disk.exists?_seenFrom here joined, configured]
  rw [load, load, find?_of_within .root configured, find?_of_within .root configured']
  simp only [Disk.read_seenFrom here joined]

theorem root_of_load {loaded : LoadedConfig} {path : Path} (found : find? disk folder = some path)
    (read : load disk folder = .ok loaded) : loaded.root = path.parent? := by
  rw [load, found] at read
  dsimp only at read
  split at read
  · contradiction
  · split at read
    · contradiction
    · next config _ =>
      dsimp only [bind, Except.bind] at read
      split at read
      · contradiction
      · cases read
        rfl

theorem properName_fileName : Disk.ProperName fileName := by decide

/-- The paths of a configuration that was found start from an absolute path. -/
theorem exists_root_of_load {loaded : LoadedConfig} (absolute : root.isAbsolute = true)
    (configured : disk.exists? (root.join ⟨fileName⟩) = true) (read : load disk root = .ok loaded) :
    ∃ start, loaded.root = some start ∧ start.isAbsolute = true := by
  have named : (root.join ⟨fileName⟩).fileName? = some fileName := by
    rw [← Glob.child_eq_join absolute]
    exact Glob.fileName?_child properName_fileName root
  obtain ⟨start, parent⟩ := Path.exists_parent?_of_fileName? named
  exact ⟨start, (root_of_load (find?_of_within .root configured) read).trans parent,
    Path.isAbsolute_of_parent? parent (Glob.isAbsolute_join absolute _)⟩

end Config

section

variable {disk : Disk} {root folder : Path} {arguments : Arguments} {settings : Settings}

namespace Settings

theorem combine_of_load (loaded : load disk folder arguments = .ok settings) :
    ∃ config, Config.load disk folder = .ok config ∧ settings = combine folder arguments config := by
  unfold load at loaded
  cases read : Config.load disk folder with
  | error error =>
    rw [read] at loaded
    cases loaded
  | ok config =>
    refine ⟨config, rfl, ?_⟩
    rw [read] at loaded
    simp only [Except.mapError, bind, Except.bind] at loaded
    split at loaded
    · contradiction
    · split at loaded
      · contradiction
      · cases loaded
        rfl

variable (configured : disk.exists? (root.join ⟨Config.fileName⟩) = true)
  (noInputs : arguments.inputs = []) (noOutput : arguments.output = none)
include configured noInputs noOutput

theorem load_of_within (within : Config.Within disk root folder) (absolute : folder.isAbsolute = true) :
    load disk folder arguments = load disk root arguments := by
  unfold load
  rw [Config.load_of_within within configured]
  cases read : Config.load disk root with
  | error error => rfl
  | ok loaded =>
    obtain ⟨start, found, _⟩ := Config.exists_root_of_load (within.isAbsolute absolute) configured read
    have same : combine folder arguments loaded = combine root arguments loaded := by
      simp [combine, noInputs, noOutput, found]
    simp only [Except.mapError, bind, Except.bind, same]

/-- All that a configuration leads to is absolute. -/
theorem absolute_of_load (absolute : root.isAbsolute = true)
    (loaded : load disk root arguments = .ok settings) :
    settings.base.isAbsolute = true ∧
      ∀ output, settings.output = some output → output.isAbsolute = true := by
  obtain ⟨config, read, rfl⟩ := combine_of_load loaded
  obtain ⟨start, found, starts⟩ := Config.exists_root_of_load absolute configured read
  refine ⟨by simpa [combine, noInputs, found] using starts, fun output given => ?_⟩
  simp only [combine, noOutput, found, Option.map_none, Option.none_or, Option.getD_some,
    Option.map_eq_some_iff] at given
  obtain ⟨name, _, rfl⟩ := given
  exact Glob.isAbsolute_join starts _

end Settings

/-- A run with absolute paths does the same from every working folder that leads to the same settings. -/
theorem run_generate_seenFrom {console : Console} {here : Place}
    (same : Settings.load (console.disk.seenFrom here) folder arguments =
      Settings.load console.disk root arguments)
    (absolute : ∀ settings, Settings.load console.disk root arguments = .ok settings →
      settings.base.isAbsolute = true ∧ ∀ output, settings.output = some output → output.isAbsolute = true)
    (format : OutputFormat) (printed : Bool) :
    (generate arguments format printed folder).run (console.seenFrom here) =
      (((generate arguments format printed root).run console).1,
        ((generate arguments format printed root).run console).2.seenFrom here) := by
  cases loaded : Settings.load console.disk root arguments with
  | error error =>
    have refused : Settings.load (console.seenFrom here).disk folder arguments = .error error :=
      same.trans loaded
    rw [generate_unsettled loaded, generate_unsettled refused]
  | ok settings =>
    have loaded' : Settings.load (console.seenFrom here).disk folder arguments = .ok settings :=
      same.trans loaded
    obtain ⟨base, output⟩ := absolute settings loaded
    have files : settings.files (console.seenFrom here).disk = settings.files console.disk :=
      Settings.files_seenFrom base here
    have scan : settings.scan (console.seenFrom here).disk = settings.scan console.disk :=
      Settings.scan_seenFrom base here
    have outcome : settings.outcome (console.seenFrom here).disk = settings.outcome console.disk :=
      Settings.outcome_seenFrom base here
    by_cases idle : settings.files console.disk = []
    · rw [generate_idle loaded idle, generate_idle loaded' (files.trans idle), scan]
      rfl
    · have opening : settings.openingLines (console.seenFrom here).disk = settings.openingLines console.disk := by
        rw [Settings.openingLines, Settings.openingLines, scan, outcome]
      have idle' : settings.files (console.seenFrom here).disk ≠ [] := by rwa [files]
      rw [generate_settled loaded idle, generate_settled loaded' idle', opening, files, outcome]
      split
      · have delivers : Action.Anywhere (deliver settings format printed (settings.files console.disk)
            (settings.outcome console.disk).typings >>= fun _ => return ExitStatus.success) :=
          (anywhere_deliver base output printed).bind fun _ => .pure _
        exact delivers (console.told _) here
      · have reports : Action.Anywhere (reportErrors (settings.outcome console.disk).errors >>= fun _ =>
            return ExitStatus.error) :=
          (tells_reportErrors _).anywhere.bind fun _ => .pure _
        exact reports (console.told _) here

/-- From a working folder of a project, a run without inputs and output of its own is the run from the root
of the project: in its settings, its status, what it prints and what it writes. -/
theorem generate_within {console : Console} (absolute : folder.isAbsolute = true)
    (configured : console.disk.exists? (root.join ⟨Config.fileName⟩) = true)
    (within : Config.Within console.disk root folder) (noInputs : arguments.inputs = [])
    (noOutput : arguments.output = none) (format : OutputFormat) (printed : Bool) (here : Place) :
    Settings.load (console.disk.seenFrom here) folder arguments =
        Settings.load console.disk root arguments ∧
      (generate arguments format printed folder).run (console.seenFrom here) =
        (((generate arguments format printed root).run console).1,
          ((generate arguments format printed root).run console).2.seenFrom here) := by
  have start := within.isAbsolute absolute
  have configured' : (console.disk.seenFrom here).exists? (root.join ⟨Config.fileName⟩) = true := by
    rw [Disk.exists?_seenFrom here (Glob.isAbsolute_join start _), configured]
  have same : Settings.load (console.disk.seenFrom here) folder arguments =
      Settings.load console.disk root arguments := by
    rw [Settings.load_of_within configured' noInputs noOutput (within.seenFrom absolute here) absolute,
      Settings.load, Config.load_seenFrom start configured]
    rfl
  exact ⟨same, run_generate_seenFrom same
    (fun _ loaded => Settings.absolute_of_load configured noInputs noOutput start loaded) format printed⟩

end

/-- A project with a page, and a folder in it. -/
def nestedProject : Console where
  disk := {
    entries := [(["p"], .folder), (["p", ".git"], .folder),
      (["p", ".htmltypingsrc.json"], .file (some "\x7b\"input\": [\"*.html\"]\x7d")),
      (["p", "a.html"], .file (some "<p id=a>")), (["p", "views"], .folder)]
    here := ["p"] }

theorem generate_within_views : Settings.load (nestedProject.disk.seenFrom ["p", "views"]) ⟨"/p/views"⟩ {} =
      Settings.load nestedProject.disk ⟨"/p"⟩ {} ∧
    (generate {} .declarations false ⟨"/p/views"⟩).run (nestedProject.seenFrom ["p", "views"]) =
      (((generate {} .declarations false ⟨"/p"⟩).run nestedProject).1,
        ((generate {} .declarations false ⟨"/p"⟩).run nestedProject).2.seenFrom ["p", "views"]) := by
  have parent : (⟨"/p/views"⟩ : Path).parent? = some ⟨"/p"⟩ := by decide
  have within : Config.Within nestedProject.disk ⟨"/p"⟩ ⟨"/p/views"⟩ :=
    .nested parent (by decide) (by decide) .root
  exact generate_within (by decide) (by decide) within rfl rfl .declarations false ["p", "views"]

end Querymap
