import Querymap.Proofs.CommandLine.Nested
import Querymap.Proofs.Scan.Growth

/-! Files that were generated beside the inputs. Folders are not searched for their extensions, templates and
configurations have other names, and an input that names or matches one of them is excluded. So they change
nothing of what a run looks up, unless links lead to them. -/
namespace Querymap

/-- The extension of generated files. -/
def OutputFormat.extension : OutputFormat → String
  | .declarations => "ts"
  | .json => "json"

namespace Path

variable {path : Path} {stem : String} {format : OutputFormat}

theorem properName_generated (whole : '/' ∉ stem.toList) (format : OutputFormat) :
    Disk.ProperName (stem ++ format.suffix) := by
  have long : 2 < (stem ++ format.suffix).toList.length := by
    cases format <;> simp [OutputFormat.suffix, declarationSuffix]
  refine ⟨?_, ?_, ?_, ?_⟩
  · intro same
    simp [same] at long
  · intro same
    simp [same] at long
  · intro same
    simp [same] at long
  · cases format <;> simpa [OutputFormat.suffix, declarationSuffix] using whole

theorem extension?_generated (named : path.fileName? = some (stem ++ format.suffix)) :
    path.extension? = some format.extension := by
  rw [extension?, named]
  cases format <;>
    simp [splitName, OutputFormat.suffix, declarationSuffix, OutputFormat.extension]

theorem isSupported_generated (generated : path.extension? = some format.extension) (withCompiled : Bool) :
    FileType.isSupported path withCompiled = false := by
  rw [FileType.isSupported, generated]
  cases format <;> rfl

theorem isTemplate_generated (generated : path.extension? = some format.extension) :
    Pug.isTemplate path = false := by
  rw [Pug.isTemplate, generated]
  cases format <;> rfl

theorem mem_of_mem_splitName {c : Char} {name : List Char} (member : c ∈ (splitName name).1) : c ∈ name := by
  unfold splitName at member
  dsimp only at member
  split at member
  · exact member
  · exact member
  · next dot before split =>
    have inside : c ∈ name.reverse.dropWhile (· != '.') := by
      rw [split]
      exact List.mem_cons_of_mem _ (List.mem_reverse.1 member)
    exact List.mem_reverse.1 ((List.dropWhile_sublist _).subset inside)

/-- A file is generated in the folder of its input. -/
theorem exists_generated {disk : Disk} (tree : disk.IsTree) {input : Path} (absolute : input.isAbsolute = true)
    (exact : disk.isFile input = true) :
    ∃ folder stem, disk.isFolder folder = true ∧ folder.isAbsolute = true ∧ '/' ∉ stem.toList ∧
      ∀ suffix, input.generated suffix = folder.join ⟨stem ++ suffix⟩ := by
  obtain ⟨place, text, found⟩ := Disk.isFile_iff.1 exact
  obtain ⟨folder, name, parent, named, inside⟩ := Disk.exists_fileName?_of_find tree found
  have above := isAbsolute_of_parent? parent absolute
  refine ⟨folder, String.ofList (splitName name.toList).1,
    inside.resolve_left (filled_of_isAbsolute above), above, ?_, fun suffix => ?_⟩
  · rw [String.toList_ofList]
    exact fun separated => (properName_of_fileName? named).1.whole (mem_of_mem_splitName separated)
  · rw [generated, withFileName, stem?, named, parent]
    rfl

/-- The folder of a generated file is that of its input. -/
theorem isFolder_of_generated {disk : Disk} (tree : disk.IsTree) {input folder : Path}
    (absolute : input.isAbsolute = true) (exact : disk.isFile input = true)
    (accepts : Disk.Accepts (input.generated format.suffix))
    (parent : (input.generated format.suffix).parent? = some folder) : disk.isFolder folder = true := by
  obtain ⟨own, stem, inside, above, whole, equal⟩ := exists_generated tree absolute exact
  rw [equal] at accepts parent
  have joined := (properName_generated whole format).components_join above
  obtain ⟨last, split, _⟩ := components_eq_of_parent? parent
  obtain ⟨same, _⟩ := List.append_inj' (joined.symm.trans split) rfl
  have start : folder.isAbsolute = true := isAbsolute_of_parent? parent (Glob.isAbsolute_join above _)
  refine Disk.isFolder_of_leading_route tree ?_ ?_ ?_ inside
  · exact accepts.of_sublist (filled_of_isAbsolute start) (Path.parent?_prefix parent).sublist
  · rw [Disk.start, Disk.start, start, above]
  · simp only [route, same, List.prefix_refl]

end Path

/-- A configuration that is found lies in an absolute folder. -/
theorem Config.exists_of_find? {disk : Disk} {folder path : Path} (absolute : folder.isAbsolute = true)
    (found : find? disk folder = some path) :
    ∃ above : Path, above.isAbsolute = true ∧ path = above.join ⟨fileName⟩ := by
  have search : ∀ depth (folder : Path), folder.isAbsolute = true → findWithin disk depth folder = some path →
      ∃ above : Path, above.isAbsolute = true ∧ path = above.join ⟨fileName⟩ := by
    intro depth
    induction depth with
    | zero => exact nofun
    | succ depth ih =>
      intro folder absolute found
      rw [findWithin] at found
      split at found
      · exact ⟨folder, absolute, (Option.some.inj found).symm⟩
      · split at found
        · contradiction
        · obtain ⟨above, parent, later⟩ := Option.bind_eq_some_iff.1 found
          exact ih above (Path.isAbsolute_of_parent? parent absolute) later
  exact search _ folder absolute found

/-- All settings of a run start from an absolute folder. -/
theorem Settings.isAbsolute_base {disk : Disk} {folder : Path} {arguments : Arguments} {settings : Settings}
    (absolute : folder.isAbsolute = true) (loaded : load disk folder arguments = .ok settings) :
    settings.base.isAbsolute = true := by
  obtain ⟨config, read, rfl⟩ := combine_of_load loaded
  have root : (config.root.getD folder).isAbsolute = true := by
    cases found : Config.find? disk folder with
    | none =>
      rw [Config.load, found] at read
      cases read
      exact absolute
    | some path =>
      obtain ⟨above, start, rfl⟩ := Config.exists_of_find? absolute found
      rw [Config.root_of_load found read]
      cases parent : (above.join ⟨Config.fileName⟩).parent? with
      | none => exact absolute
      | some root => exact Path.isAbsolute_of_parent? parent (Glob.isAbsolute_join start _)
  unfold combine
  dsimp only
  split
  · exact root
  · exact absolute

/-- The names on the way to a configuration do not end as those of generated files do. -/
theorem Config.ne_generated (stem : String) (format : OutputFormat) :
    stem ++ format.suffix ≠ fileName ∧ stem ++ format.suffix ≠ ".git" := by
  constructor
  all_goals
    intro same
    have backwards := congrArg (List.reverse ∘ String.toList) same
    cases format <;> simp [OutputFormat.suffix, declarationSuffix, fileName] at backwards

/-- No input names or matches the file at a path, and no link leads to it. -/
structure Settings.Withheld (settings : Settings) (disk : Disk) (path : Path) : Prop where
  unmatched (file : Path) : Scan.TakenAsIs disk settings.base settings.config.input file →
    disk.place? file ≠ disk.place? path
  unlinked (place : Place) : disk.place? path = some place → disk.Unlinked place

/-- Files were generated beside inputs and withheld from them, and nothing else was done. -/
structure GeneratedBeside (settings : Settings) (format : OutputFormat) (paths : List Path)
    (before after : Disk) : Prop where
  sound : before.Sound
  sound' : after.Sound
  absolute : settings.base.isAbsolute = true
  beside : ∀ path ∈ paths, ∃ input ∈ settings.files before, path = input.generated format.suffix
  wrote : Disk.FilesAt (fun place => ∃ path ∈ paths, after.place? path = some place) before after
  withheld : ∀ path ∈ paths, settings.Withheld after path

namespace GeneratedBeside

variable {settings : Settings} {format : OutputFormat} {paths : List Path} {before after : Disk} {place : Place}
  {path folder file : Path} {name : String} {text : Option String}
  (generated : GeneratedBeside settings format paths before after)
include generated

/-- Whatever path leads to a generated file has the name of such a file. -/
theorem exists_stem (spot : ∃ path ∈ paths, after.place? path = some place)
    (found : after.find true file = .ok (place, .file text)) :
    ∃ stem, '/' ∉ stem.toList ∧ file.fileName? = some (stem ++ format.suffix) := by
  obtain ⟨sound, sound', absolute, beside, wrote, withheld⟩ := generated
  obtain ⟨path, member, leads⟩ := spot
  obtain ⟨input, listed, rfl⟩ := beside path member
  obtain ⟨folder, stem, _, above, whole, equal⟩ := Path.exists_generated sound.tree
    (Scan.isAbsolute_of_mem_scan absolute listed) (Scan.isFile_of_mem_scan listed)
  have unlinked := (withheld _ member).unlinked place leads
  rw [equal] at leads
  have proper := Path.properName_generated whole format
  have own : (folder.join ⟨stem ++ format.suffix⟩).fileName? = some (stem ++ format.suffix) := by
    rw [← Glob.child_eq_join above]
    exact Glob.fileName?_child proper folder
  obtain ⟨located, _⟩ := Disk.place?_eq_some_iff.1 leads
  have known := Disk.find_eq_ok_iff.2 ⟨located, (Disk.find_eq_ok_iff.1 found).2⟩
  obtain ⟨_, name, _, named, _⟩ := Disk.exists_fileName?_of_find sound'.tree found
  refine ⟨stem, whole, named.trans ?_⟩
  rw [← Disk.getLast?_of_unlinked sound'.tree unlinked found named,
    Disk.getLast?_of_unlinked sound'.tree unlinked known own]

theorem extension?_eq (spot : ∃ path ∈ paths, after.place? path = some place)
    (found : after.find true file = .ok (place, .file text)) : file.extension? = some format.extension := by
  obtain ⟨stem, _, named⟩ := generated.exists_stem spot found
  exact Path.extension?_generated named

/-- No generated file comes back as an input. -/
theorem apart_of_mem (listed : file ∈ settings.files after)
    (found : after.find true file = .ok (place, .file text)) :
    ¬∃ path ∈ paths, after.place? path = some place := by
  intro spot
  rcases Scan.takenAsIs_or_isSupported listed with taken | supported
  · obtain ⟨path, member, leads⟩ := spot
    obtain ⟨located, stands⟩ := Disk.find_eq_ok_iff.1 found
    refine (generated.withheld path member).unmatched file taken (Eq.trans ?_ leads.symm)
    exact Disk.place?_eq_some_iff.2 ⟨located, _, stands⟩
  · rw [Path.isSupported_generated (generated.extension?_eq spot found)] at supported
    contradiction

theorem growth : Scan.Growth before after :=
  { generated.wrote.toGrows with
    tree := generated.sound.tree
    tree' := generated.sound'.tree
    named := generated.sound.named
    named' := generated.sound'.named }

theorem files_eq : settings.files after = settings.files before := by
  have earlier : settings.files before = (settings.files after).filter before.isFile :=
    files_scan_of_growth generated.growth generated.absolute _ _
  rw [earlier, eq_comm, List.filter_eq_self]
  intro file listed
  obtain ⟨place, text, found⟩ := Disk.isFile_iff.1 (Scan.isFile_of_mem_scan listed)
  exact Disk.isFile_iff.2
    ⟨place, text, generated.wrote.find_back found (generated.apart_of_mem listed found)⟩

/-- Nor is one included by a template. -/
theorem apart_of_opens {source : Source} (opens : source.Opens (settings.files before) path)
    (leads : after.place? path = some place) : ¬∃ path ∈ paths, after.place? path = some place := by
  intro spot
  obtain ⟨text, stands⟩ := generated.wrote.files place spot
  have found : after.find true path = .ok (place, .file text) :=
    Disk.find_eq_ok_iff.2 ⟨(Disk.place?_eq_some_iff.1 leads).1, stands⟩
  cases opens with
  | input listed => exact generated.apart_of_mem (generated.files_eq ▸ listed) found spot
  | included _ _ _ _ _ leads =>
    have template := leads.template
    rw [Path.isTemplate_generated (generated.extension?_eq spot found)] at template
    contradiction

/-- Nor does one have a name that is looked for on the way to a configuration. -/
theorem exists?_join (absolute : folder.isAbsolute = true) (proper : Disk.ProperName name)
    (other : ∀ stem : String, stem ++ format.suffix ≠ name) :
    after.exists? (folder.join ⟨name⟩) = before.exists? (folder.join ⟨name⟩) := by
  rw [Bool.eq_iff_iff, Disk.exists?_iff, Disk.exists?_iff]
  constructor
  · rintro ⟨place, entry, found⟩
    refine ⟨place, entry, generated.wrote.find_back found fun spot => ?_⟩
    obtain ⟨text, stands⟩ := generated.wrote.files place spot
    cases (Disk.find_eq_ok_iff.1 found).2.symm.trans stands
    obtain ⟨stem, _, named⟩ := generated.exists_stem spot found
    have own : (folder.join ⟨name⟩).fileName? = some name := by
      rw [← Glob.child_eq_join absolute]
      exact Glob.fileName?_child proper folder
    exact other stem (Option.some.inj (named.symm.trans own))
  · rintro ⟨place, entry, found⟩
    obtain ⟨now, found, _⟩ := generated.wrote.toGrows.find found
    exact ⟨place, now, found⟩

theorem find?_eq (absolute : folder.isAbsolute = true) :
    Config.find? after folder = Config.find? before folder := by
  have repository : Disk.ProperName ".git" := by decide
  have search : ∀ depth (folder : Path), folder.isAbsolute = true →
      Config.findWithin after depth folder = Config.findWithin before depth folder := by
    intro depth
    induction depth with
    | zero => exact fun _ _ => rfl
    | succ depth ih =>
      intro folder absolute
      rw [Config.findWithin, Config.findWithin,
        generated.exists?_join absolute Config.properName_fileName fun stem => (Config.ne_generated stem _).1,
        generated.exists?_join absolute repository fun stem => (Config.ne_generated stem _).2]
      cases parent : folder.parent? with
      | none => rfl
      | some above =>
        rw [Option.bind_some, Option.bind_some, ih above (Path.isAbsolute_of_parent? parent absolute)]
  exact search _ folder absolute

/-- The configuration is what it was. -/
theorem load_eq {arguments : Arguments} {loaded : Settings} (absolute : folder.isAbsolute = true)
    (read : Settings.load before folder arguments = .ok loaded) :
    Settings.load after folder arguments = .ok loaded := by
  have same : Config.load after folder = Config.load before folder := by
    obtain ⟨config, known, _⟩ := Settings.combine_of_load read
    rw [Config.load, Config.load, generated.find?_eq absolute]
    cases found : Config.find? before folder with
    | none => rfl
    | some path =>
      rw [Config.load, found] at known
      dsimp only at known ⊢
      cases given : before.read path with
      | error cause =>
        rw [given] at known
        cases known
      | ok content =>
        have kept : after.read path = .ok content := by
          refine generated.wrote.toGrows.read_eq given fun place leads stands => ?_
          rw [generated.wrote.others place, stands]
          intro spot
          obtain ⟨text, stands⟩ := generated.wrote.files place spot
          obtain ⟨stem, _, named⟩ := generated.exists_stem spot
            (Disk.find_eq_ok_iff.2 ⟨(Disk.place?_eq_some_iff.1 leads).1, stands⟩)
          obtain ⟨above, start, rfl⟩ := Config.exists_of_find? absolute found
          have own : (above.join ⟨Config.fileName⟩).fileName? = some Config.fileName := by
            rw [← Glob.child_eq_join start]
            exact Glob.fileName?_child Config.properName_fileName above
          exact (Config.ne_generated stem format).1 (Option.some.inj (named.symm.trans own))
        rw [kept]
  rw [Settings.load, same]
  exact read

end GeneratedBeside

end Querymap
