import Querymap.Proofs.Glob.Based
import Querymap.Proofs.Scan.Growth
import Querymap.Proofs.Scan.Mirror

/-! Scans from a folder that is called by another name. As long as no wildcard stands in its path, the same files
are found from it; a wildcard in its path is taken for a part of the pattern. -/
namespace Querymap

/-- Paths into a folder are in the same order wherever it stands. -/
theorem Place.compare_path {place place' : Place} (named : place ≠ []) (named' : place' ≠ [])
    {tail other : List Char} (begins : ∀ c ∈ tail.head?, c = '/') (begins' : ∀ c ∈ other.head?, c = '/') :
    (place'.path tail).compare (place'.path other) = (place.path tail).compare (place.path other) := by
  simp only [Path.compare, Place.components_path named begins, Place.components_path named begins',
    Place.components_path named' begins, Place.components_path named' begins', Path.compareComponents_append_left]

namespace Scan

open Disk
open Glob (Pattern)

/-- Behind the path of a folder without wildcards a pattern is taken as it is alone. -/
theorem files_input_wild {disk : Disk} {place : Place} (direct : disk.Direct place)
    (fixed : ∀ name ∈ place, Glob.isGlob name = false)
    {text : String} (relative : (⟨text⟩ : Path).isAbsolute = false) (wild : Glob.isGlob text = true)
    (withCompiled : Bool) : (input disk (place.path []) withCompiled text).files =
      match Glob.ofPath ⟨text⟩ with
      | .ok glob => collected disk withCompiled ((Glob.based place glob).expand disk)
      | .error _ => [] := by
  have read := Glob.toOption_ofPath direct.whole fixed direct.named relative (Glob.filled_of_isGlob wild)
  have start : (place.path []).join ⟨text⟩ = place.path ('/' :: text.toList) := direct.join_path relative
  rw [files_input, if_pos wild, start]
  cases alone : Glob.ofPath ⟨text⟩ with
  | error error =>
    rw [alone] at read
    cases whole : Glob.ofPath (place.path ('/' :: text.toList)) with
    | error error => rfl
    | ok glob => rw [whole] at read; contradiction
  | ok glob =>
    rw [alone] at read
    cases whole : Glob.ofPath (place.path ('/' :: text.toList)) with
    | error error => rw [whole] at read; contradiction
    | ok found =>
      rw [whole] at read
      obtain rfl := Option.some.inj read
      rfl

/-- What a scan comes to: paths, with the patterns that are still ahead there. -/
inductive Visits (disk : Disk) (base : Path) (inputs : List String) : List Pattern → Path → Prop
  | input {text : String} : text ∈ inputs → Glob.isGlob text = false →
      Visits disk base inputs [] (base.join ⟨text⟩)
  | pattern {text : String} {glob : Glob} : text ∈ inputs → Glob.isGlob text = true →
      Glob.ofPath ⟨text⟩ = .ok glob → Visits disk base inputs glob.names base
  | literal {pattern : Pattern} {rest : List Pattern} {folder : Path} {name : List Char} :
      Visits disk base inputs (pattern :: rest) folder → pattern.literal? = some name →
        Visits disk base inputs rest (folder.join ⟨String.ofList name⟩)
  | special {pattern : Pattern} {rest : List Pattern} {folder : Path} {name : String} :
      Visits disk base inputs (pattern :: rest) folder → name = ".." ∨ name = "." →
        pattern.standsFor name = true → Visits disk base inputs rest (folder.join ⟨name⟩)
  | named {pattern : Pattern} {rest : List Pattern} {folder : Path} {names : List String} {name : String} :
      Visits disk base inputs (pattern :: rest) folder → disk.list folder = .ok names → name ∈ names →
        pattern.isMatch name.toList = true → Visits disk base inputs rest (folder.join ⟨name⟩)
  | skip {pattern : Pattern} {rest : List Pattern} {folder : Path} :
      Visits disk base inputs (pattern :: rest) folder → pattern.isFolders = true →
        Visits disk base inputs rest folder
  | deeper {pattern : Pattern} {rest : List Pattern} {folder : Path} {names : List String} {name : String} :
      Visits disk base inputs (pattern :: rest) folder → pattern.isFolders = true →
        disk.list folder = .ok names → name ∈ names →
          Visits disk base inputs (pattern :: rest) (folder.join ⟨name⟩)
  | inside {folder : Path} {names : List String} {name : String} : Visits disk base inputs [] folder →
      disk.list folder = .ok names → name ∈ names → Visits disk base inputs [] (folder.join ⟨name⟩)

/-- A scan from a folder, which is then called by another name: the inputs are relative, no pattern is joined to
a path with a wildcard in it, and the scan does not come to the folder by its name, nor look into the folder that
it stands in. -/
structure RenamesBase (disk other : Disk) (folder folder' : Place) (inputs : List String) : Prop extends
    disk.RenamesFolder other folder folder' where
  tree : disk.IsTree
  tree' : other.IsTree
  named : disk.Named
  named' : other.Named
  relative : ∀ text ∈ inputs, (⟨text⟩ : Path).isAbsolute = false
  fixed : (∃ text ∈ inputs, Glob.isGlob text = true) →
    ∀ name ∈ folder ++ folder', Glob.isGlob name = false
  within : ∀ patterns tail, Visits disk (folder.path []) inputs patterns (folder.path tail) →
    disk.Within folder folder' tail
  aside : ∀ patterns tail, Visits disk (folder.path []) inputs patterns (folder.path tail) →
    (∀ pattern ∈ patterns.head?, pattern.literal? = none) →
      ∀ entry, disk.find true (folder.path tail) ≠ .ok (folder.dropLast, entry)

/-- A path from one folder, moved to another one. -/
def moved (place place' : Place) (path : Path) : Path :=
  place'.path (path.spelling.toList.drop place.spelled.length)

theorem moved_path (place place' : Place) (tail : List Char) :
    moved place place' (place.path tail) = place'.path tail := by
  rw [moved, Place.toList_path, List.drop_left]

/-- What a path says behind the path of a folder. -/
def behind (place : Place) (path : Path) : Path :=
  ⟨String.ofList (path.spelling.toList.drop (place.spelled.length + 1))⟩

theorem behind_path (place : Place) (c : Char) (rest : List Char) :
    behind place (place.path (c :: rest)) = ⟨String.ofList rest⟩ := by
  rw [behind, Place.toList_path, List.drop_append]
  simp

section

variable {disk other : Disk} {place place' : Place} {inputs : List String} {patterns : List Pattern}
  {path : Path}

/-- A tail without a second separator in front. -/
def Tail (tail : List Char) : Prop := tail = [] ∨ ∃ rest, tail = '/' :: rest ∧ rest.head? ≠ some '/'

theorem Tail.joined {tail name : List Char} (good : Tail tail) (relative : name.head? ≠ some '/') :
    Tail (Disk.joined tail name) := by
  rw [Disk.joined]
  rcases good with rfl | ⟨rest, rfl, single⟩
  · exact .inr ⟨name, rfl, relative⟩
  · split
    · next ends =>
      cases rest with
      | nil => exact .inr ⟨name, rfl, relative⟩
      | cons c rest => exact .inr ⟨c :: rest ++ name, rfl, by simpa using single⟩
    · cases rest with
      | nil => contradiction
      | cons c rest => exact .inr ⟨c :: rest ++ '/' :: name, rfl, by simpa using single⟩

theorem head?_ne_of_relative {text : String} (relative : (⟨text⟩ : Path).isAbsolute = false) :
    text.toList.head? ≠ some '/' := by
  simpa [Path.isAbsolute] using relative

theorem Visits.exists_tail (direct : disk.Direct place) (named : disk.Named)
    (relative : ∀ text ∈ inputs, (⟨text⟩ : Path).isAbsolute = false)
    (visits : Visits disk (place.path []) inputs patterns path) :
    (∃ tail, path = place.path tail ∧ Tail tail) ∧ ∀ pattern ∈ patterns, .char '/' ∉ pattern := by
  have further {folder : Path} {name : String} (known : ∃ tail, folder = place.path tail ∧ Tail tail)
      (relative : (⟨name⟩ : Path).isAbsolute = false) :
      ∃ tail, folder.join ⟨name⟩ = place.path tail ∧ Tail tail := by
    obtain ⟨tail, rfl, good⟩ := known
    exact ⟨_, direct.join_path relative, good.joined (head?_ne_of_relative relative)⟩
  induction visits with
  | @input text listed plain => exact ⟨further ⟨[], rfl, .inl rfl⟩ (relative text listed), by simp⟩
  | @pattern text glob listed wild read =>
    exact ⟨⟨[], rfl, .inl rfl⟩, Glob.notMem_of_reads (Glob.reads_of_relative (relative text listed) read)
      Glob.notMem_of_mem_pieces⟩
  | @literal pattern rest folder name _ exact ih =>
    obtain ⟨known, whole⟩ := ih
    obtain ⟨own, others⟩ := List.forall_mem_cons.1 whole
    refine ⟨further known (Disk.isAbsolute_of_whole ?_), others⟩
    rw [String.toList_ofList]
    exact fun member => own (Glob.Pattern.eq_map_of_literal exact ▸ List.mem_map_of_mem member)
  | special _ which _ ih =>
    obtain ⟨known, whole⟩ := ih
    refine ⟨further known ?_, (List.forall_mem_cons.1 whole).2⟩
    rcases which with rfl | rfl <;> decide
  | named _ listed member _ ih =>
    obtain ⟨known, whole⟩ := ih
    exact ⟨further known (Disk.isAbsolute_of_whole (named.of_mem_list listed member).whole),
      (List.forall_mem_cons.1 whole).2⟩
  | skip _ _ ih => exact ⟨ih.1, (List.forall_mem_cons.1 ih.2).2⟩
  | deeper _ _ listed member ih =>
    exact ⟨further ih.1 (Disk.isAbsolute_of_whole (named.of_mem_list listed member).whole), ih.2⟩
  | inside _ listed member ih =>
    exact ⟨further ih.1 (Disk.isAbsolute_of_whole (named.of_mem_list listed member).whole), by simp⟩

end

theorem fileName?_join {folder : Path} {name : String} (absolute : folder.isAbsolute = true)
    (proper : Disk.ProperName name) : (folder.join ⟨name⟩).fileName? = some name := by
  rw [← Glob.child_eq_join absolute, Glob.fileName?_child proper]

namespace RenamesBase

variable {disk other : Disk} {place place' : Place} {inputs : List String} {patterns : List Pattern}
  {path : Path} (renames : RenamesBase disk other place place' inputs)
include renames

theorem exists_within (visits : Visits disk (place.path []) inputs patterns path) :
    ∃ tail, path = place.path tail ∧ Tail tail ∧ disk.Within place place' tail := by
  obtain ⟨⟨tail, rfl, good⟩, _⟩ :=
    visits.exists_tail renames.direct renames.named renames.relative
  exact ⟨tail, rfl, good, renames.within _ _ visits⟩

theorem goes {rest : List Pattern} {name : String} (visits : Visits disk (place.path []) inputs patterns path)
    (relative : (⟨name⟩ : Path).isAbsolute = false)
    (further : Visits disk (place.path []) inputs rest (path.join ⟨name⟩)) :
    Goes (moved place place') (Visits disk (place.path []) inputs) rest path name := by
  obtain ⟨tail, rfl, _, _⟩ := renames.exists_within visits
  refine ⟨further, ?_⟩
  rw [renames.direct.join_path relative, moved_path, moved_path, renames.direct'.join_path relative]

theorem absolute (visits : Visits disk (place.path []) inputs patterns path) : path.isAbsolute = true := by
  obtain ⟨tail, rfl, _, _⟩ := renames.exists_within visits
  exact Place.isAbsolute_path renames.direct.named _

theorem proper {folder : Path} {names : List String} {name : String} (listed : disk.list folder = .ok names)
    (member : name ∈ names) : Disk.ProperName name :=
  renames.named.of_mem_list listed member

/-- What is told of a path that the scan comes to is told of the moved path. -/
theorem mirror : Mirror disk other (moved place place') (Visits disk (place.path []) inputs) where
  absolute visits := by
    obtain ⟨tail, rfl, _, _⟩ := renames.exists_within visits
    rw [moved_path]
    exact ⟨Place.isAbsolute_path renames.direct.named _, Place.isAbsolute_path renames.direct'.named _⟩
  alike visits := by
    obtain ⟨tail, rfl, _, within⟩ := renames.exists_within visits
    rw [moved_path]
    exact ⟨renames.status within, renames.ownStatus within⟩
  list visits looks := by
    obtain ⟨tail, rfl, _, within⟩ := renames.exists_within visits
    rw [moved_path]
    exact renames.list within (renames.aside _ _ visits looks)
  literal visits exact := by
    obtain ⟨_, whole⟩ := visits.exists_tail renames.direct renames.named renames.relative
    refine renames.goes visits (Disk.isAbsolute_of_whole ?_) (.literal visits exact)
    rw [String.toList_ofList]
    exact fun member => (List.forall_mem_cons.1 whole).1
      (Glob.Pattern.eq_map_of_literal exact ▸ List.mem_map_of_mem member)
  special visits which stands := by
    refine renames.goes visits ?_ (.special visits which stands)
    rcases which with rfl | rfl <;> decide
  named visits listed member matched := by
    have proper := renames.proper listed member
    exact renames.goes visits (Disk.isAbsolute_of_whole proper.whole)
      (.named visits listed member (matched _ (fileName?_join (renames.absolute visits) proper)))
  skip visits wide := .skip visits wide
  deeper visits wide listed member :=
    renames.goes visits (Disk.isAbsolute_of_whole (renames.proper listed member).whole)
      (.deeper visits wide listed member)
  below visits listed member :=
    renames.goes visits (Disk.isAbsolute_of_whole (renames.proper listed member).whole)
      (.inside visits listed member)
  fileName visits listed member := by
    have proper := renames.proper listed member
    obtain ⟨tail, rfl, _, _⟩ := renames.exists_within visits
    rw [moved_path, fileName?_join (renames.absolute visits) proper,
      fileName?_join (Place.isAbsolute_path renames.direct'.named _) proper]

/-- What is collected at a path is collected at the moved one. -/
theorem mirrored_collect (visits : Visits disk (place.path []) inputs [] path) (withCompiled : Bool) :
    Mirrored (moved place place') (Visits disk (place.path []) inputs)
      (collect other withCompiled (moved place place' path)).files (collect disk withCompiled path).files where
  along file found := renames.mirror.along_of_mem_collect visits found
  map := by
    obtain ⟨absolute, absolute'⟩ := renames.mirror.absolute visits
    have alike := renames.mirror.alike visits
    rw [files_collect, files_collect, alike.isFile]
    split
    · rfl
    by_cases inside : disk.isFolder path = true
    · obtain ⟨root, reached⟩ := isFolder_iff.1 inside
      obtain ⟨root', reached'⟩ := isFolder_iff.1 (alike.isFolder.trans inside)
      have deep := disk.weight_le root
      have deep' := other.weight_le root'
      -- The disks may differ in size, so both searches are compared at a depth that is enough for either.
      have later := @files_below_eq withCompiled _ _ _ renames.tree' renames.named' absolute'
        (other.entries.length + 1) (disk.entries.length + other.entries.length + 1) reached' (by omega)
        (by omega)
      have earlier := @files_below_eq withCompiled _ _ _ renames.tree renames.named absolute
        (disk.entries.length + 1) (disk.entries.length + other.entries.length + 1) reached (by omega)
        (by omega)
      rw [later, earlier, renames.mirror.below_image visits]
      rfl
    · rw [files_below_of_not_isFolder inside, files_below_of_not_isFolder (alike.isFolder ▸ inside), List.map_nil]

theorem mirrored_collected {images paths : List Path}
    (each : Mirrored (moved place place') (Visits disk (place.path []) inputs) images paths)
    (withCompiled : Bool) : Mirrored (moved place place') (Visits disk (place.path []) inputs)
      (collected other withCompiled images) (collected disk withCompiled paths) := by
  rw [each.map, collected, collected, List.flatMap_map]
  exact .flatMap fun path member => renames.mirrored_collect (each.along path member) withCompiled

/-- The files that an input stands for are those that it stands for in the other place. -/
theorem mirrored_input {text : String} (listed : text ∈ inputs) (withCompiled : Bool) :
    Mirrored (moved place place') (Visits disk (place.path []) inputs)
      (input other (place'.path []) withCompiled text).files
      (input disk (place.path []) withCompiled text).files := by
  have relative := renames.relative text listed
  cases wild : Glob.isGlob text with
  | false =>
    have start : Visits disk (place.path []) inputs [] ((place.path []).join ⟨text⟩) := .input listed wild
    have image : moved place place' ((place.path []).join ⟨text⟩) = (place'.path []).join ⟨text⟩ := by
      rw [renames.direct.join_path relative, renames.direct'.join_path relative, moved_path]
    rw [files_input, files_input, if_neg (by simp [wild]), if_neg (by simp [wild]), ← image]
    exact renames.mirrored_collected (.one start) withCompiled
  | true =>
    obtain ⟨fixed, fixed'⟩ := List.forall_mem_append.1 (renames.fixed ⟨text, listed, wild⟩)
    rw [files_input_wild renames.direct fixed relative wild,
      files_input_wild renames.direct' fixed' relative wild]
    cases read : Glob.ofPath ⟨text⟩ with
    | error error => exact .nil
    | ok glob =>
      have start : Visits disk (place.path []) inputs glob.names (place.path []) := .pattern listed wild read
      obtain ⟨_, _, fits, fits'⟩ := renames.within _ [] start
      rw [List.append_nil] at fits fits'
      have more := Glob.names_ne_nil relative wild read
      have image : moved place place' (place.path []) = place'.path [] := moved_path place place' []
      dsimp only
      rw [Glob.expand_based renames.direct fits more, Glob.expand_based renames.direct' fits' more, ← image]
      exact renames.mirrored_collected (renames.mirror.expandWithin start _) withCompiled

/-- A file is no folder, so its path has a name behind the one of the folder. -/
theorem join_behind {file : Path} (visits : Visits disk (place.path []) inputs [] file)
    (exact : disk.isFile file = true) : (behind place file).isAbsolute = false ∧
      (place.path []).join (behind place file) = file ∧
      (place'.path []).join (behind place file) = moved place place' file := by
  obtain ⟨tail, rfl, good, within⟩ := renames.exists_within visits
  rcases good with rfl | ⟨rest, rfl, single⟩
  · have inside := isFolder_of_ownStatus (renames.direct.ownStatus (by simpa using within.fits))
    exact absurd exact (by simp [isFile_eq_false_of_isFolder inside])
  · have relative : (⟨String.ofList rest⟩ : Path).isAbsolute = false := by
      simpa [Path.isAbsolute] using single
    rw [behind_path, moved_path, renames.direct.join_path relative, renames.direct'.join_path relative,
      String.toList_ofList]
    exact ⟨relative, rfl, rfl⟩

theorem mirrored_found (withCompiled : Bool) :
    Mirrored (moved place place') (Visits disk (place.path []) inputs)
      (inputs.flatMap fun text => (input other (place'.path []) withCompiled text).files)
      (inputs.flatMap fun text => (input disk (place.path []) withCompiled text).files) :=
  .flatMap fun _ listed => renames.mirrored_input listed withCompiled

theorem keepsOrder {paths : List Path} (visits : ∀ path ∈ paths, Visits disk (place.path []) inputs [] path) :
    KeepsOrder (moved place place') paths := by
  intro a inside b inside'
  obtain ⟨tail, rfl, _, within⟩ := renames.exists_within (visits a inside)
  obtain ⟨other, rfl, _, within'⟩ := renames.exists_within (visits b inside')
  rw [moved_path, moved_path]
  exact Place.compare_path renames.direct.named renames.direct'.named within.begins within'.begins

theorem files_scan_moved (withCompiled : Bool) : (scan other (place'.path []) inputs withCompiled).files =
    (scan disk (place.path []) inputs withCompiled).files.map (moved place place') := by
  have mirrored := renames.mirrored_found withCompiled
  rw [files_scan, files_scan, mirrored.map, sortPaths_map (renames.keepsOrder mirrored.along)]

end RenamesBase

end Scan

/-- From a folder that is called by another name the same files are found, as long as no pattern stands behind a
wildcard in its path. -/
theorem same_files_of_renamesBase {disk other : Disk} {place place' : Place} {inputs : List String}
    (renames : Scan.RenamesBase disk other place place' inputs) (withCompiled : Bool) :
    ∃ files : List Path, (∀ file ∈ files, file.isAbsolute = false) ∧
      (scan disk (place.path []) inputs withCompiled).files = files.map (place.path []).join ∧
      (scan other (place'.path []) inputs withCompiled).files = files.map (place'.path []).join := by
  have known : ∀ file ∈ (scan disk (place.path []) inputs withCompiled).files,
      (Scan.behind place file).isAbsolute = false ∧
        (place.path []).join (Scan.behind place file) = file ∧
        (place'.path []).join (Scan.behind place file) = Scan.moved place place' file := by
    intro file found
    refine renames.join_behind ?_ (Scan.isFile_of_mem_scan found)
    rw [Scan.files_scan] at found
    exact (renames.mirrored_found withCompiled).along file (mem_of_mem_sortPaths found)
  refine ⟨(scan disk (place.path []) inputs withCompiled).files.map (Scan.behind place), ?_, ?_, ?_⟩
  · intro rest member
    obtain ⟨file, found, rfl⟩ := List.mem_map.1 member
    exact (known file found).1
  · rw [List.map_map]
    refine ((List.map_congr_left fun file found => ?_).trans (List.map_id _)).symm
    exact (known file found).2.1
  · rw [renames.files_scan_moved, List.map_map]
    exact List.map_congr_left fun file found => (known file found).2.2.symm

namespace PagesFolder

/-- Pages in a folder of this name, and one beside it. -/
def disk (name : String) : Disk where
  entries := [
    (["site"], .folder), (["site", "nav.html"], .file (some "<i id=c>")),
    (["site", name], .folder), (["site", name, "a.html"], .file (some "<p id=a>")),
    (["site", name, "sub"], .folder), (["site", name, "sub", "b.html"], .file (some "<b id=b>"))]
  here := ["site", name]

def inputs : List String := ["*.html", "sub", "../nav.html"]

theorem get?_inside {name : String} (apart : name ≠ "nav.html") (below : Place) :
    (disk name).get? (["site", name] ++ below) =
      List.lookup below [([], .folder), (["a.html"], .file (some "<p id=a>")), (["sub"], .folder),
        (["sub", "b.html"], .file (some "<b id=b>"))] := by
  simp [Disk.get?, disk, List.lookup_cons, beq_false_of_ne apart]

theorem get?_outside {name : String} {place : Place} (outside : ¬["site", name] <+: place) :
    (disk name).get? place = if place.isEmpty then some .folder else
      List.lookup place [(["site"], .folder), (["site", "nav.html"], .file (some "<i id=c>"))] := by
  have apart (below : Place) : (place == "site" :: name :: below) = false :=
    beq_false_of_ne fun same => outside ⟨below, same.symm⟩
  simp only [Disk.get?, disk, List.lookup_cons, apart, List.lookup_nil]

structure PlainName (name : String) : Prop where
  proper : Disk.ProperName name
  short : Text.byteLength name.toList ≤ Disk.nameLimit
  valid : '\x00' ∉ name.toList
  apart : name ≠ "nav.html"

theorem direct {name : String} (plain : PlainName name) : (disk name).Direct ["site", name] where
  named := List.cons_ne_nil _ _
  folder above leads := by
    rcases List.prefix_cons_iff.1 leads with rfl | ⟨rest, rfl, further⟩
    · rfl
    rcases List.prefix_cons_iff.1 further with rfl | ⟨rest, rfl, none⟩
    · rfl
    · rw [List.prefix_nil.1 none]
      exact get?_inside plain.apart []
  proper := by
    have site : Disk.ProperName "site" := by decide
    simpa using ⟨site, plain.proper⟩
  short := by
    have site : Text.byteLength "site".toList ≤ Disk.nameLimit := by decide
    simpa using ⟨site, plain.short⟩
  valid := by simpa using plain.valid

theorem renamesFolder {name name' : String} (plain : PlainName name) (plain' : PlainName name')
    (apart : name' ≠ name) : (disk name).RenamesFolder (disk name') ["site", name] ["site", name'] where
  nonempty := List.cons_ne_nil _ _
  nonempty' := List.cons_ne_nil _ _
  sibling := rfl
  apart := by simpa using apart
  entry place clear := by
    by_cases inside : ["site", name] <+: place
    · obtain ⟨below, rfl⟩ := inside
      rw [Place.renamed_append, get?_inside plain.apart, get?_inside plain'.apart]
    · rw [Place.renamed_of_outside inside, get?_outside clear, get?_outside inside]
  direct := direct plain
  direct' := direct plain'

theorem isTree {name : String} (apart : name ≠ "nav.html") : (disk name).IsTree where
  here := get?_inside apart []
  parents entry member := by
    simp only [disk, List.mem_cons, List.not_mem_nil, or_false] at member
    rcases member with rfl | rfl | rfl | rfl | rfl | rfl
    · rfl
    · rfl
    · rfl
    · exact get?_inside apart []
    · exact get?_inside apart []
    · exact get?_inside apart ["sub"]

theorem named {name : String} (proper : Disk.ProperName name) : (disk name).Named := by
  have others : ∀ other ∈ ["site", "nav.html", "a.html", "sub", "b.html"], Disk.ProperName other := by decide
  have plain : ∀ entry ∈ (disk name).entries,
      entry.1 ⊆ name :: ["site", "nav.html", "a.html", "sub", "b.html"] := by
    simp [disk]
  intro entry member other inside
  rcases List.mem_cons.1 (plain entry member inside) with rfl | listed
  · exact proper
  · exact others other listed

/-- Any name with this extension. -/
def anyPage : Glob.Pattern := [.sequence, .char '.', .char 'h', .char 't', .char 'm', .char 'l']

/-- All that the scan comes to. -/
def reached : List (List Glob.Pattern × Path) :=
  [([anyPage], ⟨"/site/x"⟩), ([], ⟨"/site/x/a.html"⟩), ([], ⟨"/site/x/sub"⟩),
    ([], ⟨"/site/x/sub/b.html"⟩), ([], ⟨"/site/x/../nav.html"⟩)]

theorem eq_of_mem_reached {pattern : Glob.Pattern} {rest : List Glob.Pattern} {folder : Path}
    (member : (pattern :: rest, folder) ∈ reached) :
    pattern = anyPage ∧ rest = [] ∧ folder = ⟨"/site/x"⟩ := by
  simpa [reached, and_assoc] using member

theorem mem_reached {patterns : List Glob.Pattern} {path : Path}
    (visits : Scan.Visits (disk "x") (Place.path ["site", "x"] []) inputs patterns path) :
    (patterns, path) ∈ reached := by
  have pages : (disk "x").list ⟨"/site/x"⟩ = .ok ["a.html", "sub"] := by decide
  have below : (disk "x").list ⟨"/site/x/sub"⟩ = .ok ["b.html"] := by decide
  have page (path : Path)
      (exact : path ∈ [⟨"/site/x/a.html"⟩, ⟨"/site/x/sub/b.html"⟩, ⟨"/site/x/../nav.html"⟩]) :
      (disk "x").list path = .error .notDirectory := by
    revert path
    decide
  induction visits with
  | @input text listed plain =>
    have which : text = "*.html" ∨ text = "sub" ∨ text = "../nav.html" := by simpa [inputs] using listed
    rcases which with rfl | rfl | rfl
    · contradiction
    · decide
    · decide
  | @pattern text _ listed wild read =>
    have which : text = "*.html" ∨ text = "sub" ∨ text = "../nav.html" := by simpa [inputs] using listed
    rcases which with rfl | rfl | rfl
    · have own : Glob.ofPath ⟨"*.html"⟩ = .ok ⟨false, [anyPage], false⟩ := by rfl
      cases own.symm.trans read
      decide
    · contradiction
    · contradiction
  | literal _ exact ih =>
    obtain ⟨rfl, _, _⟩ := eq_of_mem_reached ih
    contradiction
  | special _ which stands ih =>
    obtain ⟨rfl, _, _⟩ := eq_of_mem_reached ih
    rcases which with rfl | rfl <;> contradiction
  | named _ listed member matched ih =>
    obtain ⟨rfl, rfl, rfl⟩ := eq_of_mem_reached ih
    cases pages.symm.trans listed
    rcases List.mem_cons.1 member with rfl | member
    · decide
    · rw [List.mem_singleton.1 member] at matched
      contradiction
  | skip _ wide ih =>
    obtain ⟨rfl, _, _⟩ := eq_of_mem_reached ih
    contradiction
  | deeper _ wide _ _ ih =>
    obtain ⟨rfl, _, _⟩ := eq_of_mem_reached ih
    contradiction
  | @inside folder _ _ _ listed member ih =>
    have which : folder = ⟨"/site/x/a.html"⟩ ∨ folder = ⟨"/site/x/sub"⟩ ∨
        folder = ⟨"/site/x/sub/b.html"⟩ ∨ folder = ⟨"/site/x/../nav.html"⟩ := by
      simpa [reached] using ih
    rcases which with rfl | rfl | rfl | rfl
    · cases (page _ (by simp)).symm.trans listed
    · cases below.symm.trans listed
      rw [List.mem_singleton.1 member]
      decide
    · cases (page _ (by simp)).symm.trans listed
    · cases (page _ (by simp)).symm.trans listed

/-- What a path of the scan says behind the one of the folder. -/
def tail (path : Path) : List Char := path.spelling.toList.drop 7

theorem within : ∀ pair ∈ reached,
    (disk "x").Within ["site", "x"] ["site", "y z"] (tail pair.2) := by
  have each : ∀ pair ∈ reached, (tail pair.2).head?.all (· == '/') = true ∧
      (disk "x").walksPast ["site", "x"] ["site", "y z"] Disk.linkLimit ["site", "x"]
        (Disk.onward (tail pair.2)) = true ∧
      Text.byteLength (Place.spelled ["site", "x"] ++ tail pair.2) < Disk.pathLimit ∧
      Text.byteLength (Place.spelled ["site", "y z"] ++ tail pair.2) < Disk.pathLimit := by
    decide +kernel
  intro pair member
  obtain ⟨begins, past, fits, fits'⟩ := each pair member
  refine ⟨fun c head => ?_, past, fits, fits'⟩
  rw [Option.mem_def.1 head] at begins
  exact beq_iff_eq.1 begins

theorem tail_path (rest : List Char) : tail (Place.path ["site", "x"] rest) = rest := by
  rw [tail, Place.toList_path]
  rfl

theorem within_of_visits {patterns : List Glob.Pattern} {rest : List Char}
    (visits : Scan.Visits (disk "x") (Place.path ["site", "x"] []) inputs patterns
      (Place.path ["site", "x"] rest)) : (disk "x").Within ["site", "x"] ["site", "y z"] rest := by
  have reaches := within _ (mem_reached visits)
  rwa [tail_path] at reaches

theorem aside {patterns : List Glob.Pattern} {path : Path} {entry : Entry}
    (visits : Scan.Visits (disk "x") (Place.path ["site", "x"] []) inputs patterns path) :
    (disk "x").find true path ≠ .ok (["site"], entry) := by
  have each : ∀ pair ∈ reached, (disk "x").place? pair.2 ≠ some ["site"] := by decide
  intro found
  refine each _ (mem_reached visits) ?_
  rw [Disk.place?, found]
  rfl

theorem plain : PlainName "x" := ⟨by decide, by decide, by decide, by decide⟩

theorem renamesBase : Scan.RenamesBase (disk "x") (disk "y z") ["site", "x"] ["site", "y z"] inputs := by
  have spaced : PlainName "y z" := ⟨by decide, by decide, by decide, by decide⟩
  exact ⟨renamesFolder plain spaced (by decide), isTree plain.apart, isTree spaced.apart,
    named plain.proper, named spaced.proper, by decide, fun _ => by decide, fun _ _ => within_of_visits,
    fun _ _ visits _ _ => aside visits⟩

end PagesFolder

/-- The pages of a folder, whatever it is called. -/
theorem same_files_of_renamesBase_pagesFolder :
    Scan.RenamesBase (PagesFolder.disk "x") (PagesFolder.disk "y z") ["site", "x"] ["site", "y z"]
        ["*.html", "sub", "../nav.html"] ∧
      ∃ files : List Path, (∀ file ∈ files, file.isAbsolute = false) ∧
        (scan (PagesFolder.disk "x") (Place.path ["site", "x"] []) ["*.html", "sub", "../nav.html"] false).files =
          files.map (Place.path ["site", "x"] []).join ∧
        (scan (PagesFolder.disk "y z") (Place.path ["site", "y z"] []) ["*.html", "sub", "../nav.html"]
            false).files = files.map (Place.path ["site", "y z"] []).join :=
  ⟨PagesFolder.renamesBase, same_files_of_renamesBase PagesFolder.renamesBase false⟩

/-- A bracket in the path of a folder is taken for a part of the pattern, which matches no page in it. -/
theorem bracketed_folder_unmatched :
    (PagesFolder.disk "x").RenamesFolder (PagesFolder.disk "[x]") ["site", "x"] ["site", "[x]"] ∧
      (scan (PagesFolder.disk "x") (Place.path ["site", "x"] []) ["*.html"] false).files =
        [⟨"/site/x/a.html"⟩] ∧
      (scan (PagesFolder.disk "[x]") (Place.path ["site", "[x]"] []) ["*.html"] false).files = [] := by
  have bracketed : PagesFolder.PlainName "[x]" := ⟨by decide, by decide, by decide, by decide⟩
  exact ⟨PagesFolder.renamesFolder PagesFolder.plain bracketed (by decide), by decide +kernel, by decide +kernel⟩

end Querymap
