import Querymap.Proofs.Glob.Matches
import Querymap.Proofs.Scan.Inputs

/-! Scans of two file systems that answer alike about every path a scan looks at and the image of that
path. Such scans find images of the same files in the same order and warn of images of the same paths. -/
namespace Querymap

namespace Disk

/-- The same is told of a path and of its image. -/
structure Alike (disk other : Disk) (path image : Path) : Prop where
  status : other.status image = disk.status path
  ownStatus : other.ownStatus image = disk.ownStatus path

namespace Alike

variable {disk other : Disk} {path image : Path} (alike : Alike disk other path image)
include alike

theorem isFile : other.isFile image = disk.isFile path := by rw [Disk.isFile, alike.status]; rfl

theorem isFolder : other.isFolder image = disk.isFolder path := by rw [Disk.isFolder, alike.status]; rfl

end Alike

end Disk

namespace Scan

open Glob (Pattern)

section

variable {disk other : Disk} {image : Path → Path} {Along : List Pattern → Path → Prop}

/-- A name takes a search further, and its image too. -/
structure Goes (image : Path → Path) (Along : List Pattern → Path → Prop) (rest : List Pattern)
    (folder : Path) (name : String) : Prop where
  along : Along rest (folder.join ⟨name⟩)
  join : image (folder.join ⟨name⟩) = (image folder).join ⟨name⟩

/-- A property `Along` of the patterns that are ahead of a search and of the path where it stands. It goes on
as the search does, and what holds of a path holds of its image. -/
structure Mirror (disk other : Disk) (image : Path → Path) (Along : List Pattern → Path → Prop) : Prop where
  absolute {patterns : List Pattern} {path : Path} : Along patterns path →
    path.isAbsolute = true ∧ (image path).isAbsolute = true
  alike {patterns : List Pattern} {path : Path} : Along patterns path → disk.Alike other path (image path)
  list {patterns : List Pattern} {path : Path} : Along patterns path →
    (∀ pattern ∈ patterns.head?, pattern.literal? = none) → other.list (image path) = disk.list path
  literal {pattern : Pattern} {rest : List Pattern} {folder : Path} {name : List Char} :
    Along (pattern :: rest) folder → pattern.literal? = some name →
      Goes image Along rest folder (String.ofList name)
  special {pattern : Pattern} {rest : List Pattern} {folder : Path} {name : String} :
    Along (pattern :: rest) folder → name = ".." ∨ name = "." → pattern.standsFor name = true →
      Goes image Along rest folder name
  named {pattern : Pattern} {rest : List Pattern} {folder : Path} {names : List String} {name : String} :
    Along (pattern :: rest) folder → disk.list folder = .ok names → name ∈ names →
      (∀ last ∈ (folder.join ⟨name⟩).fileName?, pattern.isMatch last.toList = true) →
        Goes image Along rest folder name
  skip {pattern : Pattern} {rest : List Pattern} {folder : Path} :
    Along (pattern :: rest) folder → pattern.isFolders = true → Along rest folder
  deeper {pattern : Pattern} {rest : List Pattern} {folder : Path} {names : List String} {name : String} :
    Along (pattern :: rest) folder → pattern.isFolders = true → disk.list folder = .ok names →
      name ∈ names → Goes image Along (pattern :: rest) folder name
  below {folder : Path} {names : List String} {name : String} : Along [] folder →
    disk.list folder = .ok names → name ∈ names → Goes image Along [] folder name
  fileName {patterns : List Pattern} {folder : Path} {names : List String} {name : String} :
    Along patterns folder → disk.list folder = .ok names → name ∈ names →
      ((image folder).join ⟨name⟩).fileName? = (folder.join ⟨name⟩).fileName?

/-- The images of some paths, at which a search may end. -/
structure Mirrored (image : Path → Path) (Along : List Pattern → Path → Prop) (images paths : List Path) :
    Prop where
  map : images = paths.map image
  along : ∀ path ∈ paths, Along [] path

namespace Mirrored

theorem nil : Mirrored image Along [] [] := ⟨rfl, by simp⟩

theorem one {path : Path} (along : Along [] path) : Mirrored image Along [image path] [path] :=
  ⟨rfl, by simpa using along⟩

theorem append {images paths images' paths' : List Path} (first : Mirrored image Along images paths)
    (second : Mirrored image Along images' paths') :
    Mirrored image Along (images ++ images') (paths ++ paths') :=
  ⟨by rw [first.map, second.map, List.map_append], List.forall_mem_append.2 ⟨first.along, second.along⟩⟩

theorem onlyIf {images paths : List Path} (condition : Prop) [Decidable condition]
    (mirrored : Mirrored image Along images paths) :
    Mirrored image Along (if condition then images else []) (if condition then paths else []) := by
  split
  · exact mirrored
  · exact .nil

theorem flatMap {α : Type} {items : List α} {images paths : α → List Path}
    (each : ∀ item ∈ items, Mirrored image Along (images item) (paths item)) :
    Mirrored image Along (items.flatMap images) (items.flatMap paths) := by
  induction items with
  | nil => exact .nil
  | cons item rest ih =>
    obtain ⟨first, others⟩ := List.forall_mem_cons.1 each
    exact first.append (ih others)

end Mirrored

variable (mirror : Mirror disk other image Along)

namespace Mirror

variable {onlyFolders : Bool} {expand expand' : List Pattern → Path → List Path} {pattern : Pattern}
  {rest : List Pattern} {folder path : Path} {names : List String} {name : String}
include mirror

/-- Several patterns for folders count as one of them. -/
theorem skips {front : List Pattern} (along : Along (front ++ rest) folder)
    (folders : ∀ pattern ∈ front, pattern.isFolders = true) : Along rest folder := by
  induction front with
  | nil => exact along
  | cons first front ih =>
    obtain ⟨wide, others⟩ := List.forall_mem_cons.1 folders
    exact ih (mirror.skip along wide) others

theorem contract {front : List Pattern} (along : Along (pattern :: (front ++ rest)) folder)
    (wide : pattern.isFolders = true) (folders : ∀ pattern ∈ front, pattern.isFolders = true) :
    Along (pattern :: rest) folder := by
  rcases front.eq_nil_or_concat with rfl | ⟨before, last, rfl⟩
  · exact along
  · have same : last = pattern := by
      have := folders last (by simp)
      simp only [Pattern.isFolders, beq_iff_eq] at this wide
      rw [this, wide]
    subst same
    have along : Along ((last :: before) ++ last :: rest) folder := by simpa using along
    refine mirror.skips along fun pattern member => ?_
    rcases List.mem_cons.1 member with rfl | member
    · exact wide
    · exact folders pattern (by simp [member])

section

variable (each : ∀ {patterns : List Pattern} {path : Path}, Along patterns path →
  Mirrored image Along (expand' patterns (image path)) (expand patterns path))
include each

theorem onward (along : Along rest path) :
    Mirrored image Along (Glob.onward other onlyFolders expand' rest (image path))
      (Glob.onward disk onlyFolders expand rest path) := by
  unfold Glob.onward
  rw [(mirror.alike along).isFolder]
  cases rest with
  | cons => exact each along
  | nil =>
    simp only [List.isEmpty_nil, Bool.not_true, Bool.false_eq_true, ↓reduceIte]
    exact .onlyIf _ (.one along)

theorem ifMatched (along : Along (pattern :: rest) folder) (listed : disk.list folder = .ok names)
    (member : name ∈ names) :
    Mirrored image Along
      (Glob.ifMatched other onlyFolders expand' pattern rest ((image folder).join ⟨name⟩))
      (Glob.ifMatched disk onlyFolders expand pattern rest (folder.join ⟨name⟩)) := by
  unfold Glob.ifMatched
  rw [mirror.fileName along listed member]
  cases named : (folder.join ⟨name⟩).fileName? with
  | none => exact .nil
  | some last =>
    by_cases matched : pattern.isMatch last.toList = true
    · obtain ⟨further, join⟩ := mirror.named along listed member fun other same => by
        rw [named] at same
        exact Option.some.inj same ▸ matched
      simp only [if_pos matched, ← join]
      exact mirror.onward each further
    · simp only [if_neg matched]
      exact .nil

theorem visit (along : Along (pattern :: rest) folder) (listed : disk.list folder = .ok names)
    (member : name ∈ names) :
    Mirrored image Along
      (Glob.visit other onlyFolders expand' pattern rest ((image folder).join ⟨name⟩))
      (Glob.visit disk onlyFolders expand pattern rest (folder.join ⟨name⟩)) := by
  unfold Glob.visit
  cases wide : pattern.isFolders with
  | false => exact mirror.ifMatched each along listed member
  | true =>
    obtain ⟨further, join⟩ := mirror.deeper along wide listed member
    have folders : ∀ pattern ∈ rest.takeWhile Pattern.isFolders, pattern.isFolders = true :=
      List.all_eq_true.1 List.all_takeWhile
    have cut := @List.takeWhile_append_dropWhile _ Pattern.isFolders rest
    have below {later : List Pattern} (ahead : Along later (folder.join ⟨name⟩)) :
        Mirrored image Along
          (if other.isFolder ((image folder).join ⟨name⟩) then expand' later ((image folder).join ⟨name⟩)
            else [])
          (if disk.isFolder (folder.join ⟨name⟩) then expand later (folder.join ⟨name⟩) else []) := by
      rw [← join, (mirror.alike further).isFolder]
      exact .onlyIf _ (each ahead)
    rw [if_pos rfl, if_pos rfl]
    cases ahead : rest.dropWhile Pattern.isFolders with
    | nil =>
      rw [ahead] at cut
      have alone := mirror.contract (cut.symm ▸ further) wide folders
      have later := below alone
      rw [← join, (mirror.alike further).isFolder] at later ⊢
      exact .onlyIf _ ((Mirrored.one (mirror.skip alone wide)).append later)
    | cons next later =>
      rw [ahead] at cut
      have onwards := mirror.skips (cut.symm ▸ mirror.skip along wide) folders
      exact (mirror.ifMatched each onwards listed member).append
        (below (mirror.contract (cut.symm ▸ further) wide folders))

theorem expandName (along : Along (pattern :: rest) folder) :
    Mirrored image Along (Glob.expandName other onlyFolders expand' pattern rest (image folder))
      (Glob.expandName disk onlyFolders expand pattern rest folder) := by
  obtain ⟨absolute, absolute'⟩ := mirror.absolute along
  have alike := mirror.alike along
  unfold Glob.expandName
  split
  · next name exact =>
    obtain ⟨further, join⟩ := mirror.literal along exact
    simp only [Glob.child_eq_join absolute, Glob.child_eq_join absolute', ← join, alike.isFolder,
      (mirror.alike further).ownStatus]
    exact .onlyIf _ (mirror.onward each further)
  · next wild =>
    have listed := mirror.list along fun _ same => Option.some.inj same ▸ wild
    rw [alike.isFolder, listed]
    split
    · next names _ listed =>
      simp only [Glob.child_eq_join absolute, Glob.child_eq_join absolute']
      refine .append (.flatMap fun name which => ?_) (.flatMap fun name member =>
        mirror.visit each along listed member)
      obtain ⟨which, stands⟩ := List.mem_filter.1 which
      have ⟨dot, named⟩ : pattern.head? = some (.char '.') ∧ (name = ".." ∨ name = ".") := by
        split at which
        · next dot => exact ⟨beq_iff_eq.1 dot, by simpa using which⟩
        · cases which
      obtain ⟨further, join⟩ := mirror.special along named (by simp [Pattern.standsFor, dot, stands])
      rw [← join]
      exact mirror.onward each further
    · exact .nil

end

theorem expandWithin (along : Along rest folder) (depth : Nat) :
    Mirrored image Along (Glob.expandWithin other onlyFolders depth rest (image folder))
      (Glob.expandWithin disk onlyFolders depth rest folder) := by
  induction depth generalizing rest folder with
  | zero => exact .nil
  | succ depth ih =>
    cases rest with
    | nil => exact .nil
    | cons pattern rest => exact mirror.expandName ih along

end Mirror

end

end Scan

/-- A warning about the image of a path. -/
def ScanWarning.image (image : Path → Path) : ScanWarning → ScanWarning
  | .inaccessible path cause => .inaccessible (image path) cause
  | .invalidPattern input error => .invalidPattern input error
  | .missing path => .missing (image path)

namespace Scan

def Found.image (image : Path → Path) (found : Found) : Found :=
  ⟨found.files.map image, found.warnings.map (.image image)⟩

theorem image_concat (image : Path → Path) (parts : List Found) :
    (concat parts).image image = concat (parts.map (·.image image)) := by
  simp [concat, Found.image, List.map_flatMap, List.flatMap_map]

namespace Mirror

open Glob (Pattern)

variable {disk other : Disk} {image : Path → Path} {Along : List Pattern → Path → Prop}
  {folder path : Path} (mirror : Mirror disk other image Along)
include mirror

theorem isSupported {names : List String} {name : String} (along : Along [] folder)
    (listed : disk.list folder = .ok names) (member : name ∈ names) (withCompiled : Bool) :
    FileType.isSupported (image (folder.join ⟨name⟩)) withCompiled =
      FileType.isSupported (folder.join ⟨name⟩) withCompiled := by
  simp only [FileType.isSupported, Path.extension?, (mirror.below along listed member).join,
    mirror.fileName along listed member]

theorem below_image (along : Along [] folder) (withCompiled : Bool) (depth : Nat) :
    Scan.below other withCompiled depth (image folder) =
      (Scan.below disk withCompiled depth folder).image image := by
  induction depth generalizing folder with
  | zero => rfl
  | succ depth ih =>
    rw [below_succ, below_succ, mirror.list along (by simp)]
    cases listed : disk.list folder with
    | error cause => rfl
    | ok names =>
      dsimp only
      rw [image_concat, List.map_map]
      refine congrArg concat (List.map_congr_left fun name member => ?_)
      obtain ⟨further, join⟩ := mirror.below along listed member
      dsimp only [Function.comp_apply]
      rw [← join, (mirror.alike further).isFile, (mirror.alike further).ownStatus,
        mirror.isSupported along listed member]
      split
      · split <;> rfl
      · split
        · exact ih further
        · rfl

theorem collect_image (size : other.entries.length = disk.entries.length) (along : Along [] path)
    (withCompiled : Bool) :
    collect other withCompiled (image path) = (collect disk withCompiled path).image image := by
  unfold collect
  rw [(mirror.alike along).isFile, (mirror.alike along).status, size]
  split
  · rfl
  · cases disk.status path with
    | error cause => rfl
    | ok entry => exact mirror.below_image along withCompiled _

theorem along_of_mem_below {withCompiled : Bool} {depth : Nat} {file : Path} (along : Along [] folder)
    (found : file ∈ (Scan.below disk withCompiled depth folder).files) : Along [] file := by
  induction depth generalizing folder with
  | zero => contradiction
  | succ depth ih =>
    obtain ⟨names, name, listed, member, inside⟩ := exists_of_mem_below found
    have further := (mirror.below along listed member).along
    rcases mem_ofEntry.1 inside with ⟨_, _, rfl⟩ | ⟨_, _, later⟩
    · exact further
    · exact ih further later

theorem along_of_mem_collect {withCompiled : Bool} {file : Path} (along : Along [] path)
    (found : file ∈ (collect disk withCompiled path).files) : Along [] file := by
  unfold collect at found
  split at found
  · exact List.mem_singleton.1 found ▸ along
  · split at found
    · contradiction
    · exact mirror.along_of_mem_below along found

end Mirror

end Scan

end Querymap
