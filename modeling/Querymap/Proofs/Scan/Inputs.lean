import Querymap.CommandLine.WatchSession
import Querymap.Proofs.CommandLine.Generation
import Querymap.Proofs.Path
import Querymap.Proofs.ScanOrder

/-! Where the files of a scan come from, and which of them a watched run listens to. What is found in a
folder has a supported extension; a file that is named itself, or that matches a pattern, is an input
whatever its extension, and is listened to only if that one is supported. -/
namespace Querymap

section

variable {disk : Disk} {base path file : Path} {inputs : List String} {withCompiled : Bool}

theorem FileType.isSupported_of_same (same : file.same path = true) (withCompiled : Bool) :
    isSupported file withCompiled = isSupported path withCompiled := by
  simp only [isSupported, Path.extension?, Path.fileName?, Path.same_iff.1 same]

namespace Scan

theorem mem_files_concat {parts : List Found} :
    file ∈ (concat parts).files ↔ ∃ part ∈ parts, file ∈ part.files :=
  List.mem_flatMap

/-- A file that is an input itself: an input names it, or is a pattern that it matches. -/
inductive TakenAsIs (disk : Disk) (base : Path) (inputs : List String) : Path → Prop
  | named {text : String} : text ∈ inputs → Glob.isGlob text = false →
      disk.isFile (base.join ⟨text⟩) = true → TakenAsIs disk base inputs (base.join ⟨text⟩)
  | matched {text : String} {glob : Glob} {file : Path} : text ∈ inputs → Glob.isGlob text = true →
      Glob.ofPath (base.join ⟨text⟩) = .ok glob → file ∈ glob.expand disk → disk.isFile file = true →
      TakenAsIs disk base inputs file

/-- The files that an entry of a folder adds. -/
def ofEntry (disk : Disk) (withCompiled : Bool) (depth : Nat) (path : Path) : List Path :=
  if disk.isFile path then if FileType.isSupported path withCompiled then [path] else []
  else if disk.ownStatus path = .ok .folder then (below disk withCompiled depth path).files else []

theorem below_succ (disk : Disk) (withCompiled : Bool) (depth : Nat) (folder : Path) :
    below disk withCompiled (depth + 1) folder = match disk.list folder with
      | .error cause => inaccessible folder cause
      | .ok names => concat <| names.map fun name =>
        let path := folder.join ⟨name⟩
        if disk.isFile path then { files := if FileType.isSupported path withCompiled then [path] else [] }
        else match disk.ownStatus path with
          | .ok .folder => below disk withCompiled depth path
          | _ => {} :=
  rfl

theorem files_below_succ (disk : Disk) (withCompiled : Bool) (depth : Nat) (folder : Path) :
    (below disk withCompiled (depth + 1) folder).files = match disk.list folder with
      | .error _ => []
      | .ok names => names.flatMap fun name => ofEntry disk withCompiled depth (folder.join ⟨name⟩) := by
  rw [below_succ]
  cases disk.list folder with
  | error => rfl
  | ok names =>
    change List.flatMap _ (names.map _) = _
    rw [List.flatMap_map]
    refine congrArg (List.flatMap · names) (funext fun name => ?_)
    dsimp only [Function.comp_apply, ofEntry]
    split
    · rfl
    · split
      · next own => rw [if_pos own]
      · next other => rw [if_neg other]

theorem exists_of_mem_below {depth : Nat} {folder : Path}
    (found : file ∈ (below disk withCompiled (depth + 1) folder).files) :
    ∃ names name, disk.list folder = .ok names ∧ name ∈ names ∧
      file ∈ ofEntry disk withCompiled depth (folder.join ⟨name⟩) := by
  rw [files_below_succ] at found
  split at found
  · contradiction
  · next names listed =>
    obtain ⟨name, member, inside⟩ := List.mem_flatMap.1 found
    exact ⟨names, name, listed, member, inside⟩

/-- What an entry adds is itself, or lies below it. -/
theorem mem_ofEntry {depth : Nat} : file ∈ ofEntry disk withCompiled depth path ↔
    (disk.isFile path = true ∧ FileType.isSupported path withCompiled = true ∧ file = path) ∨
      (disk.isFile path = false ∧ disk.ownStatus path = .ok .folder ∧
        file ∈ (below disk withCompiled depth path).files) := by
  unfold ofEntry
  split
  · next exact => split <;> simp_all
  · next other => split <;> simp_all

theorem isSupported_of_mem_below {depth : Nat} {folder : Path}
    (found : file ∈ (below disk withCompiled depth folder).files) :
    FileType.isSupported file withCompiled = true := by
  induction depth generalizing folder with
  | zero => contradiction
  | succ depth ih =>
    obtain ⟨_, name, _, _, inside⟩ := exists_of_mem_below found
    rcases mem_ofEntry.1 inside with ⟨_, supported, rfl⟩ | ⟨_, _, later⟩
    · exact supported
    · exact ih later

theorem isFile_of_mem_below {depth : Nat} {folder : Path}
    (found : file ∈ (below disk withCompiled depth folder).files) : disk.isFile file = true := by
  induction depth generalizing folder with
  | zero => contradiction
  | succ depth ih =>
    obtain ⟨_, name, _, _, inside⟩ := exists_of_mem_below found
    rcases mem_ofEntry.1 inside with ⟨exact, _, rfl⟩ | ⟨_, _, later⟩
    · exact exact
    · exact ih later

theorem isFile_of_mem_collect (found : file ∈ (collect disk withCompiled path).files) :
    disk.isFile file = true := by
  unfold collect at found
  split at found
  · next exact => exact List.mem_singleton.1 found ▸ exact
  · split at found
    · contradiction
    · exact isFile_of_mem_below found

theorem collect_of_isFile (exact : disk.isFile path = true) :
    (collect disk withCompiled path).files = [path] := by
  rw [collect, if_pos exact]

/-- Below a folder, only supported files are collected. -/
theorem mem_collect (found : file ∈ (collect disk withCompiled path).files) :
    (file = path ∧ disk.isFile path = true) ∨ FileType.isSupported file withCompiled = true := by
  unfold collect at found
  split at found
  · next exact => exact .inl ⟨List.mem_singleton.1 found, exact⟩
  · split at found
    · contradiction
    · exact .inr (isSupported_of_mem_below found)

/-- A file of a scan is there for an input. -/
theorem files_scan (disk : Disk) (base : Path) (inputs : List String) (withCompiled : Bool) :
    (scan disk base inputs withCompiled).files =
      sortPaths (inputs.flatMap fun text => (input disk base withCompiled text).files) :=
  congrArg sortPaths (List.flatMap_map ..)

theorem exists_input_of_mem_scan (found : file ∈ (scan disk base inputs withCompiled).files) :
    ∃ text ∈ inputs, file ∈ (input disk base withCompiled text).files := by
  obtain ⟨_, part, inside⟩ := mem_files_concat.1 (mem_of_mem_sortPaths found)
  obtain ⟨text, listed, rfl⟩ := List.mem_map.1 part
  exact ⟨text, listed, inside⟩

theorem exists_mem_scan {text : String} (listed : text ∈ inputs)
    (inside : path ∈ (input disk base withCompiled text).files) :
    ∃ file ∈ (scan disk base inputs withCompiled).files, file.same path = true := by
  obtain ⟨file, kept, equal⟩ :=
    exists_mem_sortPaths (mem_files_concat.2 ⟨_, List.mem_map_of_mem listed, inside⟩)
  exact ⟨file, kept, Path.same_iff.2 (Path.compare_eq_eq_iff.1 equal)⟩

theorem takenAsIs_or_isSupported (found : file ∈ (scan disk base inputs withCompiled).files) :
    TakenAsIs disk base inputs file ∨ FileType.isSupported file withCompiled = true := by
  obtain ⟨text, listed, inside⟩ := exists_input_of_mem_scan found
  unfold input at inside
  dsimp only at inside
  split at inside
  · next wild =>
    split at inside
    · next glob pattern =>
      obtain ⟨_, part, inside⟩ := mem_files_concat.1 inside
      obtain ⟨matched, expanded, rfl⟩ := List.mem_map.1 part
      refine (mem_collect inside).imp_left ?_
      rintro ⟨rfl, exact⟩
      exact .matched listed wild pattern expanded exact
    · contradiction
  · next plain =>
    split at inside
    · refine (mem_collect inside).imp_left ?_
      rintro ⟨rfl, exact⟩
      exact .named listed (Bool.eq_false_iff.2 plain) exact
    · contradiction

/-- Whatever its extension, a file that is an input itself is in the scan. -/
theorem TakenAsIs.exists_mem (taken : TakenAsIs disk base inputs path) (withCompiled : Bool) :
    ∃ file ∈ (scan disk base inputs withCompiled).files, file.same path = true := by
  cases taken with
  | @named text listed plain exact =>
    apply exists_mem_scan listed
    have there : disk.exists? (base.join ⟨text⟩) = true := by
      unfold Disk.isFile at exact
      unfold Disk.exists?
      split at exact
      · next stands => rw [stands]; rfl
      · contradiction
    simp [input, plain, there, collect_of_isFile exact]
  | @matched text glob _ listed wild pattern expanded exact =>
    apply exists_mem_scan listed
    simp only [input, wild, if_true, pattern]
    exact mem_files_concat.2 ⟨_, List.mem_map_of_mem expanded, by simp [collect_of_isFile exact]⟩

end Scan

namespace WatchSession

/-- The inputs whose changes go unnoticed are the unsupported ones that are named or matched themselves. -/
theorem unnoticed_iff (session : WatchSession) (disk : Disk) (path : Path) :
    (∃ file ∈ session.settings.files disk, file.same path = true ∧ session.isRelevant file = false) ↔
      session.isRelevant path = false ∧
        ∃ file, Scan.TakenAsIs disk session.settings.base session.settings.config.input file ∧
          file.same path = true := by
  have relevant : ∀ {file : Path}, file.same path = true →
      session.isRelevant file = session.isRelevant path := fun same =>
    FileType.isSupported_of_same same _
  constructor
  · rintro ⟨file, found, same, unnoticed⟩
    refine ⟨relevant same ▸ unnoticed, file, ?_, same⟩
    rcases Scan.takenAsIs_or_isSupported found with taken | supported
    · exact taken
    · exact absurd supported (Bool.eq_false_iff.1 unnoticed)
  · rintro ⟨unnoticed, taken, asIs, same⟩
    obtain ⟨file, found, equal⟩ := asIs.exists_mem session.settings.config.factory.isSome
    have same := Files.same_trans equal same
    exact ⟨file, found, same, (relevant same).trans unnoticed⟩

end WatchSession

end

namespace NamedPage

/-- A page that is the only input, with an extension that folders are not searched for. -/
def disk : Disk where
  entries := [(["p"], .folder), (["p", "page.txt"], .file (some "<p id=a>"))]
  here := ["p"]

def settings : Settings where
  config := { input := ["page.txt"], output := some "q.d.ts" }
  base := ⟨"/p"⟩
  output := some ⟨"/p/q.d.ts"⟩
  verbose := false

end NamedPage

/-- A session scans the page and does not listen to it. -/
theorem named_page_unnoticed :
    ∃ session, WatchSession.ofSettings NamedPage.settings = .ok session ∧
      ⟨"/p/page.txt"⟩ ∈ session.settings.files NamedPage.disk ∧
      session.isRelevant ⟨"/p/page.txt"⟩ = false :=
  ⟨_, rfl, by decide +kernel, by decide +kernel⟩

end Querymap
