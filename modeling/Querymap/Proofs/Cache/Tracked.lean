import Mathlib.Data.Prod.Basic
import Querymap.Proofs.Cache.Includers
import Querymap.Proofs.CommandLine.Generation
import Querymap.Proofs.Disk.Changes
import Querymap.Proofs.Scan.Growth

/-! What a cache knows of the files of a scan, while a file system changes entry by entry. A change elsewhere
leaves a file as it is and takes none into a scan or out of it, so only the entry of a changed file has to go. -/
namespace Querymap

namespace Cache

/-- What a file contributes is known. -/
def Knows (cache : Cache) (path : Path) : Prop := ∃ map, cache.get? path = some map

theorem Knows.of_forget {cache : Cache} {path other : Path} (knows : (cache.forget path).Knows other) :
    cache.Knows other ∧ other ≠ path := by
  obtain ⟨map, known⟩ := knows
  rw [get?_forget] at known
  split at known
  · contradiction
  · next apart => exact ⟨⟨map, known⟩, apart⟩

/-- All that is known of a file is what it gives. -/
def Fits (cache : Cache) (source : Source) (options : Options) (path : Path) : Prop :=
  ∀ map, cache.get? path = some map →
    ∃ extracted, extractAlone source options path = .ok extracted ∧ extracted.map = map

variable {cache renewed : Cache} {source : Source} {options : Options} {paths : List Path}

/-- If what is known of some files fits, they are what is known after they are refreshed, and it fits too. -/
theorem refresh_of_fits (free : ∀ path ∈ paths, source.Includeless path)
    (fits : ∀ path ∈ paths, cache.Fits source options path)
    (done : (cache.refresh source options paths).2 = .ok renewed) :
    ∀ path, (renewed.Knows path ↔ path ∈ paths) ∧ renewed.Fits source options path := by
  have outcome : extractFiles source options cache.entries.keys paths =
      .ofFunction (extractAlone source options) (cache.unknown paths) :=
    extractFiles_of_includeless options free _
  simp only [refresh, outcome] at done
  split at done
  · contradiction
  next complete =>
  cases done
  have entry : ∀ (outcome : Outcome) path, get? ⟨cache.renewed outcome paths, cache.computations + 1⟩ path =
      if path ∈ paths then (cache.get? path).or (outcome.typings.get? path.spelling) else none := by
    intro outcome path
    rw [get?, get?_renewed]
    split
    · rw [Option.map_or, Option.map_map]
      exact congrArg _ Option.map_id'
    · rfl
  intro path
  unfold Knows Fits
  rw [entry]
  by_cases listed : path ∈ paths
  · rw [if_pos listed, iff_true_right listed]
    cases known : cache.get? path with
    | none =>
      have unknown : path ∈ cache.unknown paths := mem_unknown.2 ⟨listed, get?_eq_none.1 known⟩
      obtain ⟨extracted, gives⟩ := Outcome.errors_eq_nil_iff.1 complete path unknown
      simp only [Option.none_or, Outcome.get?_typings_ofFunction]
      exact ⟨⟨_, unknown, extracted, gives, rfl⟩, fun map given => given.2⟩
    | some map =>
      rw [Option.some_or]
      exact ⟨⟨map, rfl⟩, fun other same => fits path listed other (known.trans same)⟩
  · simp [listed]

end Cache

section

variable {settings : Settings} {disk before after : Disk} {cache renewed : Cache} {path file : Path}
  {place spot : Place}

namespace Settings

theorem exists_find_of_mem (listed : file ∈ settings.files disk) :
    ∃ place text, disk.find true file = .ok (place, .file text) ∧ disk.place? file = some place := by
  obtain ⟨place, text, found⟩ := Disk.isFile_iff.1 (Scan.isFile_of_mem_scan listed)
  obtain ⟨located, stands⟩ := Disk.find_eq_ok_iff.1 found
  exact ⟨place, text, found, Disk.place?_eq_some_iff.2 ⟨located, _, stands⟩⟩

theorem mem_files_iff_of_growth (growth : Scan.Growth before after) (absolute : settings.base.isAbsolute = true)
    (exact : before.isFile file = true) : file ∈ settings.files before ↔ file ∈ settings.files after := by
  unfold files scan
  rw [files_scan_of_growth growth absolute, List.mem_filter, and_iff_left exact]

/-- A change elsewhere brings no file into a scan and takes none out of it. -/
theorem mem_files_iff_of_changed (changed : Disk.Changed spot before after) (sound : before.Sound)
    (sound' : after.Sound) (absolute : settings.base.isAbsolute = true) (one : before.isFile file = true)
    (two : after.isFile file = true) : file ∈ settings.files before ↔ file ∈ settings.files after := by
  obtain ⟨tree, named⟩ := sound
  obtain ⟨tree', named'⟩ := sound'
  by_cases gone : after.get? spot = none
  · exact (mem_files_iff_of_growth ⟨changed.grows_of_removal gone, tree', tree, named', named⟩ absolute two).symm
  · exact mem_files_iff_of_growth ⟨changed.grows gone, tree, tree', named, named'⟩ absolute one

end Settings

/-- None of the known files of a scan leads to a place. -/
def Avoids (settings : Settings) (disk : Disk) (cache : Cache) (place : Option Place) : Prop :=
  ∀ file ∈ settings.files disk, cache.Knows file → disk.place? file ≠ place

theorem avoids_of_get? (other : ∀ text, disk.get? spot ≠ some (.file text)) :
    Avoids settings disk cache (some spot) := by
  intro file listed _ leads
  obtain ⟨place, text, found, same⟩ := Settings.exists_find_of_mem listed
  cases same.symm.trans leads
  exact other text (Disk.find_eq_ok_iff.1 found).2

/-- What a cache knows of the files of a scan is what they give. All that it knows were files once. -/
structure Tracked (settings : Settings) (disk : Disk) (cache : Cache) : Prop where
  sound : disk.Sound
  once : ∀ path, cache.Knows path → ∃ place, disk.Ends path place
  includeless : ∀ path ∈ settings.files disk, cache.Knows path → disk.source.Includeless path
  fits : ∀ path ∈ settings.files disk, cache.Fits disk.source settings.options path

namespace Tracked

theorem empty (sound : disk.Sound) : Tracked settings disk {} where
  sound := sound
  once := fun _ ⟨_, known⟩ => (nomatch known)
  includeless := fun _ _ ⟨_, known⟩ => (nomatch known)
  fits := fun _ _ _ known => (nomatch known)

theorem forget (tracked : Tracked settings disk cache) (path : Path) :
    Tracked settings disk (cache.forget path) where
  sound := tracked.sound
  once other knows := tracked.once other knows.of_forget.1
  includeless other listed knows := tracked.includeless other listed knows.of_forget.1
  fits other listed map known := by
    rw [Cache.get?_forget] at known
    split at known
    · contradiction
    · exact tracked.fits other listed map known

section

variable (tracked : Tracked settings before cache) (absolute : settings.base.isAbsolute = true)
include tracked absolute

/-- After a change to which no known file of the scan leads, all that is known still fits. -/
theorem changed (changed : Disk.Changed spot before after) (sound : after.Sound)
    (avoids : Avoids settings after cache (some spot)) : Tracked settings after cache := by
  have stood : ∀ path ∈ settings.files after, cache.Knows path →
      path ∈ settings.files before ∧ before.source.read path = after.source.read path := by
    intro path listed knows
    obtain ⟨place, text, found, leads⟩ := Settings.exists_find_of_mem listed
    obtain ⟨_, ends⟩ := tracked.once path knows
    have earlier := ends.find_eq tracked.sound.tree changed found fun same =>
      avoids path listed knows (same ▸ leads)
    have exact : ∀ {disk : Disk}, disk.find true path = .ok (place, .file text) → disk.isFile path = true :=
      fun found => Disk.isFile_iff.2 ⟨_, _, found⟩
    refine ⟨(Settings.mem_files_iff_of_changed changed tracked.sound sound absolute (exact earlier)
      (exact found)).2 listed, ?_⟩
    rw [Disk.source_read, Disk.source_read, Disk.read, Disk.read, Disk.status, Disk.status, earlier, found]
  refine ⟨sound, fun path knows => ?_, fun path listed knows => ?_, fun path listed map known => ?_⟩
  · obtain ⟨place, ends⟩ := tracked.once path knows
    exact ⟨place, ends.changed changed⟩
  · obtain ⟨listed, same⟩ := stood path listed knows
    exact fun content read => tracked.includeless path listed knows content (same.trans read)
  · obtain ⟨listed, same⟩ := stood path listed ⟨map, known⟩
    rw [← extractAlone_congr settings.options (tracked.includeless path listed ⟨map, known⟩) same]
    exact tracked.fits path listed map known

theorem makeFolders (folder : Path) :
    Tracked settings ((Disk.makeFolders folder).run before).2 cache := by
  suffices keeps : Disk.Edit.Preserves (Tracked settings · cache) (Disk.makeFolders folder) from
    keeps before tracked
  refine Disk.preserves_makeFolders (fun middle path place tracked located => ?_) folder
  obtain ⟨changed, sound, stands⟩ := Disk.changed_folder tracked.sound located
  exact tracked.changed absolute changed sound (avoids_of_get? (by simp [stands]))

theorem write {content : Option String} {result : Except FileError Unit}
    (ran : (Disk.write path content).run before = (result, after))
    (avoids : Avoids settings after cache (after.place? path)) : Tracked settings after cache := by
  cases result with
  | error error =>
    rw [Disk.write_error ran]
    exact tracked
  | ok =>
    obtain ⟨place, changed, sound, leads, _⟩ := Disk.changed_write tracked.sound ran
    rw [leads] at avoids
    exact tracked.changed absolute changed sound avoids

theorem save {content : Option String} (ran : after = ((Disk.save path content).run before).2)
    (avoids : Avoids settings after cache (after.place? path)) : Tracked settings after cache := by
  rw [Disk.run_save] at ran
  split at ran
  · exact tracked.write absolute (Prod.snd_eq_iff.1 ran.symm) avoids
  · next folder _ =>
    have middle := tracked.makeFolders absolute folder
    split at ran
    · next made =>
      rw [made] at middle
      exact middle.write absolute (Prod.snd_eq_iff.1 ran.symm) avoids
    · next made =>
      rw [made] at middle
      rwa [ran]

/-- An edit of a file to which no known file of the scan leads is no news. -/
theorem fileEdit (edit : before.FileEdit path after) (avoids : Avoids settings after cache (after.place? path)) :
    Tracked settings after cache := by
  cases edit with
  | save content => exact tracked.save absolute rfl avoids
  | remove found =>
    obtain ⟨changed, sound, gone⟩ := Disk.changed_remove tracked.sound found
    exact tracked.changed absolute changed sound (avoids_of_get? (by simp [gone]))

end

/-- A refresh knows what the files of a scan give, and no others. -/
theorem refresh (tracked : Tracked settings disk cache)
    (free : ∀ file ∈ settings.files disk, disk.source.Includeless file)
    (done : (cache.refresh disk.source settings.options (settings.files disk)).2 = .ok renewed) :
    Tracked settings disk renewed ∧ ∀ file, renewed.Knows file ↔ file ∈ settings.files disk := by
  have known := Cache.refresh_of_fits free tracked.fits done
  refine ⟨⟨tracked.sound, fun file knows => ?_, fun file listed _ => free file listed, fun file _ => (known file).2⟩,
    fun file => (known file).1⟩
  obtain ⟨place, text, found, _⟩ := Settings.exists_find_of_mem ((known file).1.1 knows)
  exact ⟨place, Disk.ends_of_find found⟩

/-- If a cache knows the files of a scan, its model is what the scan gives. -/
theorem model_eq (tracked : Tracked settings disk cache)
    (known : ∀ file, cache.Knows file ↔ file ∈ settings.files disk) :
    (settings.outcome disk).errors = [] ∧ cache.model = (settings.outcome disk).typings.mergeAll := by
  have outcome : settings.outcome disk =
      .ofFunction (extractAlone disk.source settings.options) (settings.files disk) :=
    (extractFiles_of_includeless settings.options (fun file listed =>
      tracked.includeless file listed ((known file).2 listed)) []).trans
        (congrArg _ (List.filter_eq_self.2 fun _ _ => rfl))
  rw [outcome, Outcome.errors_eq_nil_iff, Cache.model]
  refine ⟨fun file listed => ?_, congrArg FileTypings.mergeAll (Dict.ext_get? fun name => Option.ext fun map => ?_)⟩
  · obtain ⟨map, found⟩ := (known file).2 listed
    obtain ⟨extracted, gives, _⟩ := tracked.fits file listed map found
    exact ⟨extracted, gives⟩
  · rw [Dict.get?_mapValues, @Outcome.get?_typings_ofFunction _ _ ⟨name⟩ map]
    change cache.get? ⟨name⟩ = some map ↔ _
    constructor
    · intro found
      have listed := (known ⟨name⟩).1 ⟨map, found⟩
      exact ⟨listed, tracked.fits _ listed map found⟩
    · rintro ⟨listed, extracted, gives, rfl⟩
      obtain ⟨map, found⟩ := (known ⟨name⟩).2 listed
      obtain ⟨other, gives', rfl⟩ := tracked.fits _ listed map found
      cases gives.symm.trans gives'
      exact found

end Tracked

end

end Querymap
