import Querymap.Proofs.Disk.Growth
import Querymap.Proofs.Glob.Matches
import Querymap.Proofs.Scan.Inputs

/-! Scans of a file system that grows. The files of the earlier scan are those files of the later one that
were there before, in the same order and spelled in the same way. -/
namespace Querymap

open Disk

namespace Scan

variable {before after : Disk} {withCompiled : Bool} {folder file path : Path} {place : Place}

theorem files_below_of_not_isFolder {disk : Disk} {depth : Nat} (outside : ¬disk.isFolder folder = true) :
    (below disk withCompiled depth folder).files = [] := by
  cases depth with
  | zero => rfl
  | succ depth =>
    refine List.eq_nil_iff_forall_not_mem.2 fun file found => ?_
    obtain ⟨names, _, listed, _⟩ := exists_of_mem_below found
    obtain ⟨place, found, _⟩ := list_eq_ok_iff.1 listed
    exact outside (isFolder_iff.2 ⟨place, found⟩)

theorem ofEntry_of_not_exists {disk : Disk} {depth : Nat}
    (none : ∀ place entry, disk.find true path ≠ .ok (place, entry)) :
    ofEntry disk withCompiled depth path = [] := by
  refine List.eq_nil_iff_forall_not_mem.2 fun file member => ?_
  rcases mem_ofEntry.1 member with ⟨exact, _⟩ | ⟨_, own, _⟩
  · obtain ⟨place, text, found⟩ := isFile_iff.1 exact
    exact none _ _ found
  · obtain ⟨place, found⟩ := isFolder_iff.1 (isFolder_of_ownStatus own)
    exact none _ _ found

/-- Names that are left out would have added nothing. -/
theorem flatMap_filter {α β : Type} {items : List α} {some all : α → List β} {keep : α → Bool} {kept : β → Bool}
    (own : ∀ item ∈ items, some item = (all item).filter kept)
    (none : ∀ item ∈ items, keep item = false → some item = []) :
    (items.filter keep).flatMap some = (items.flatMap all).filter kept := by
  induction items with
  | nil => rfl
  | cons first rest ih =>
    obtain ⟨same, own⟩ := List.forall_mem_cons.1 own
    obtain ⟨drops, none⟩ := List.forall_mem_cons.1 none
    rw [List.flatMap_cons, List.filter_append, ← ih own none, ← same]
    cases kept : keep first with
    | true => rw [List.filter_cons_of_pos kept, List.flatMap_cons]
    | false => rw [List.filter_cons_of_neg (by simp [kept]), drops kept, List.nil_append]

section

variable (tree : before.IsTree) (named : after.Named)
include tree named

/-- A file below a folder is reached by way of it. -/
theorem isFolder_of_isFile_below {depth : Nat} (absolute : folder.isAbsolute = true)
    (found : file ∈ (below after withCompiled depth folder).files) (exact : before.isFile file = true) :
    before.isFolder folder = true := by
  induction depth generalizing folder with
  | zero => contradiction
  | succ depth ih =>
    obtain ⟨names, name, listed, member, inside⟩ := exists_of_mem_below found
    have proper := named.of_mem_list listed member
    obtain ⟨place, entry, reached⟩ :
        ∃ place entry, before.find true (folder.join ⟨name⟩) = .ok (place, entry) := by
      rcases mem_ofEntry.1 inside with ⟨_, _, rfl⟩ | ⟨_, _, later⟩
      · obtain ⟨place, text, reached⟩ := isFile_iff.1 exact
        exact ⟨place, _, reached⟩
      · obtain ⟨place, reached⟩ := isFolder_iff.1 (ih (Glob.isAbsolute_join absolute _) later)
        exact ⟨place, _, reached⟩
    obtain ⟨parent, known, _⟩ := find_child tree (Path.filled_of_isAbsolute absolute) proper reached
    exact isFolder_iff.2 ⟨parent, known⟩

theorem ofEntry_filter (grows : Grows before after) {depth : Nat} (absolute : path.isAbsolute = true)
    (deeper : (below before withCompiled depth path).files =
      (below after withCompiled depth path).files.filter before.isFile) :
    ofEntry before withCompiled depth path = (ofEntry after withCompiled depth path).filter before.isFile := by
  unfold ofEntry
  by_cases exact : before.isFile path = true
  · rw [if_pos exact, if_pos (grows.isFile exact)]
    split
    · rw [List.filter_cons_of_pos exact, List.filter_nil]
    · rfl
  rw [if_neg exact]
  by_cases own : before.ownStatus path = .ok .folder
  · have apart := isFile_eq_false_of_isFolder (isFolder_of_ownStatus (grows.ownStatus_folder own))
    rw [if_pos own, if_neg (by simp [apart]), if_pos (grows.ownStatus_folder own), deeper]
  rw [if_neg own, eq_comm, List.filter_eq_nil_iff]
  intro file member stands
  split at member
  · split at member
    · exact exact (List.mem_singleton.1 member ▸ stands)
    · contradiction
  · split at member
    · next inside =>
      obtain ⟨_, found⟩ := isFolder_iff.1 (isFolder_of_isFile_below tree named absolute member stands)
      obtain ⟨entry, known⟩ := exists_ownStatus tree found
      exact own (grows.ownStatus_eq known inside ▸ known)
    · contradiction

theorem files_below_filter (grows : Grows before after) (absolute : folder.isAbsolute = true) (depth : Nat) :
    (below before withCompiled depth folder).files =
      (below after withCompiled depth folder).files.filter before.isFile := by
  induction depth generalizing folder with
  | zero => rfl
  | succ depth ih =>
    by_cases inside : before.isFolder folder = true
    · obtain ⟨place, found⟩ := isFolder_iff.1 inside
      rw [files_below_succ, files_below_succ, list_eq_ok_iff.2 ⟨place, found, rfl⟩,
        list_eq_ok_iff.2 ⟨place, grows.find_folder found, rfl⟩]
      dsimp only
      rw [grows.namesBelow]
      refine flatMap_filter (fun name _ => ?_) fun name listed absent => ?_
      · exact ofEntry_filter tree named grows (Glob.isAbsolute_join absolute _)
          (ih (Glob.isAbsolute_join absolute _))
      · have proper := named.of_mem_namesBelow listed
        refine ofEntry_of_not_exists fun place entry reached => ?_
        obtain ⟨parent, known, stands, _⟩ :=
          find_child tree (Path.filled_of_isAbsolute absolute) proper reached
        cases found.symm.trans known
        exact Bool.eq_false_iff.1 absent stands
    · rw [files_below_of_not_isFolder inside, eq_comm, List.filter_eq_nil_iff]
      exact fun file member exact => inside (isFolder_of_isFile_below tree named absolute member exact)

end

/-- A search ends before its depth does. -/
theorem files_below_eq {disk : Disk} (tree : disk.IsTree) (named : disk.Named)
    (absolute : folder.isAbsolute = true) {depth other : Nat}
    (reached : disk.find true folder = .ok (place, .folder)) (deep : disk.weight place < depth)
    (deep' : disk.weight place < other) :
    (below disk withCompiled depth folder).files = (below disk withCompiled other folder).files := by
  induction depth generalizing folder place other with
  | zero => contradiction
  | succ depth ih =>
    obtain ⟨other, rfl⟩ := Nat.exists_eq_succ_of_ne_zero (Nat.ne_zero_of_lt deep')
    rw [files_below_succ, files_below_succ, list_eq_ok_iff.2 ⟨place, reached, rfl⟩]
    refine List.flatMap_congr fun name listed => ?_
    have proper := named.of_mem_namesBelow listed
    unfold ofEntry
    split
    · rfl
    split
    · next own =>
      obtain ⟨inner, found⟩ := ownStatus_eq_ok_iff.1 own
      obtain ⟨parent, known, _, leads⟩ :=
        find_child tree (Path.filled_of_isAbsolute absolute) proper found
      cases reached.symm.trans known
      obtain rfl := leads rfl
      have less := weight_concat_lt (find_eq_ok_iff.1 found).2
      exact ih (Glob.isAbsolute_join absolute _) (find_folder found) (by omega) (by omega)
    · rfl

theorem files_collect (disk : Disk) (withCompiled : Bool) (path : Path) :
    (collect disk withCompiled path).files =
      if disk.isFile path then [path] else (below disk withCompiled (disk.entries.length + 1) path).files := by
  unfold collect
  split
  · rfl
  · split
    · next unread =>
      refine (files_below_of_not_isFolder fun inside => ?_).symm
      obtain ⟨place, found⟩ := isFolder_iff.1 inside
      cases unread.symm.trans (status_eq_ok_iff.2 ⟨place, found⟩)
    · rfl

/-- A file found at a path is that path, or the path leads to a folder. -/
theorem exists_of_isFile_collect (tree : before.IsTree) (named : after.Named) (absolute : path.isAbsolute = true)
    (found : file ∈ (collect after withCompiled path).files) (exact : before.isFile file = true) :
    ∃ place entry, before.find true path = .ok (place, entry) := by
  rw [files_collect] at found
  split at found
  · rw [List.mem_singleton.1 found] at exact
    obtain ⟨place, text, reached⟩ := isFile_iff.1 exact
    exact ⟨place, _, reached⟩
  · obtain ⟨place, reached⟩ := isFolder_iff.1 (isFolder_of_isFile_below tree named absolute found exact)
    exact ⟨place, _, reached⟩

/-- Two trees of which the later one has grown out of the earlier one. -/
structure Growth (before after : Disk) : Prop extends Grows before after where
  tree : before.IsTree
  tree' : after.IsTree
  named : before.Named
  named' : after.Named

variable (growth : Growth before after)
include growth

theorem files_collect_filter (absolute : path.isAbsolute = true) :
    (collect before withCompiled path).files = (collect after withCompiled path).files.filter before.isFile := by
  obtain ⟨grows, tree, tree', named, named'⟩ := growth
  rw [files_collect, files_collect]
  by_cases exact : before.isFile path = true
  · rw [if_pos exact, if_pos (grows.isFile exact), List.filter_cons_of_pos exact, List.filter_nil]
  rw [if_neg exact]
  by_cases inside : before.isFolder path = true
  · have apart := isFile_eq_false_of_isFolder (grows.isFolder inside)
    obtain ⟨place, found⟩ := isFolder_iff.1 inside
    -- Neither search ends early, so they may as well go equally deep.
    have deep : ∀ {disk : Disk}, disk.entries.length < before.entries.length + after.entries.length + 1 →
        disk.weight place < before.entries.length + after.entries.length + 1 := fun less =>
      Nat.lt_of_le_of_lt (weight_le _ place) less
    rw [if_neg (by simp [apart]),
      files_below_eq tree named absolute found (Nat.lt_succ_of_le (weight_le _ place)) (deep (by omega)),
      files_below_eq tree' named' absolute (grows.find_folder found) (Nat.lt_succ_of_le (weight_le _ place))
        (deep (by omega))]
    exact files_below_filter tree named' grows absolute _
  · rw [files_below_of_not_isFolder inside, eq_comm, List.filter_eq_nil_iff]
    intro file found stands
    split at found
    · exact exact (List.mem_singleton.1 found ▸ stands)
    · exact inside (isFolder_of_isFile_below tree named' absolute found stands)

omit growth in
theorem files_collect_eq_nil {disk : Disk} (other : disk.isFile path = false) (outside : ¬disk.isFolder path = true) :
    (collect disk withCompiled path).files = [] := by
  rw [files_collect, if_neg (by simp [other]), files_below_of_not_isFolder outside]

/-- The files that some paths stand for. -/
def collected (disk : Disk) (withCompiled : Bool) (paths : List Path) : List Path :=
  paths.flatMap fun path => (collect disk withCompiled path).files

omit growth in
@[simp] theorem collected_nil (disk : Disk) (withCompiled : Bool) : collected disk withCompiled [] = [] := rfl

omit growth in
@[simp] theorem collected_append (disk : Disk) (withCompiled : Bool) (paths others : List Path) :
    collected disk withCompiled (paths ++ others) =
      collected disk withCompiled paths ++ collected disk withCompiled others :=
  List.flatMap_append

omit growth in
theorem collected_cons (disk : Disk) (withCompiled : Bool) (path : Path) (paths : List Path) :
    collected disk withCompiled (path :: paths) =
      collected disk withCompiled [path] ++ collected disk withCompiled paths :=
  collected_append disk withCompiled [path] paths

omit growth in
theorem collected_flatMap {α : Type} (disk : Disk) (withCompiled : Bool) (items : List α) (paths : α → List Path) :
    collected disk withCompiled (items.flatMap paths) =
      items.flatMap fun item => collected disk withCompiled (paths item) :=
  List.flatMap_assoc

theorem collected_one (absolute : path.isAbsolute = true) : collected before withCompiled [path] =
    (collected after withCompiled [path]).filter before.isFile := by
  simp only [collected, List.flatMap_singleton]
  exact files_collect_filter growth absolute

theorem collected_folder (absolute : path.isAbsolute = true) (later : after.isFolder path = true)
    (inside : ¬before.isFolder path = true) : (collected after withCompiled [path]).filter before.isFile = [] := by
  have other : before.isFile path = false := by
    refine Bool.eq_false_iff.2 fun exact => ?_
    have apart := isFile_eq_false_of_isFolder later
    rw [growth.isFile exact] at apart
    contradiction
  rw [← collected_one growth absolute]
  simp [collected, files_collect_eq_nil other inside]

/-- The names that patterns stand for as they are have no separators. -/
def Whole (patterns : List Glob.Pattern) : Prop :=
  ∀ pattern ∈ patterns, ∀ name, pattern.literal? = some name → '/' ∉ name

omit growth in
theorem whole_dropWhile {patterns later : List Glob.Pattern} {next : Glob.Pattern} {drops : Glob.Pattern → Bool}
    (whole : Whole patterns) (split : patterns.dropWhile drops = next :: later) :
    (∀ name, next.literal? = some name → '/' ∉ name) ∧ Whole later :=
  List.forall_mem_cons.1 fun pattern member =>
    whole pattern ((List.dropWhile_sublist drops).subset (split ▸ member))

/-- Two searches with patterns find the same files, as far as these were there before. -/
structure Agrees (before after : Disk) (withCompiled : Bool) (expand expand' : List Glob.Pattern → Path → List Path) :
    Prop where
  filter {patterns : List Glob.Pattern} {path : Path} : path.isAbsolute = true → Whole patterns →
    collected before withCompiled (expand patterns path) =
      (collected after withCompiled (expand' patterns path)).filter before.isFile
  reached {patterns : List Glob.Pattern} {path file : Path} : path.isAbsolute = true → Whole patterns →
    patterns ≠ [] → file ∈ collected after withCompiled (expand' patterns path) → before.isFile file = true →
      ∃ place entry, before.find true path = .ok (place, entry)

section

variable {expand expand' : List Glob.Pattern → Path → List Path} {onlyFolders : Bool} {pattern : Glob.Pattern}
  {rest : List Glob.Pattern} (agrees : Agrees before after withCompiled expand expand')
  (absolute : path.isAbsolute = true) (whole : Whole rest)
include agrees absolute whole

theorem onward_filter : collected before withCompiled (Glob.onward before onlyFolders expand rest path) =
    (collected after withCompiled (Glob.onward after onlyFolders expand' rest path)).filter before.isFile := by
  cases rest with
  | cons => exact agrees.filter absolute whole
  | nil =>
    unfold Glob.onward
    cases onlyFolders with
    | false => exact collected_one growth absolute
    | true =>
      by_cases inside : before.isFolder path = true
      · simpa [inside, growth.isFolder inside] using collected_one growth absolute
      by_cases later : after.isFolder path = true
      · simpa [inside, later] using collected_folder growth absolute later inside
      · simp [inside, later]

omit growth in
theorem onward_reached (tree : before.IsTree) (named : after.Named)
    (found : file ∈ collected after withCompiled (Glob.onward after onlyFolders expand' rest path))
    (exact : before.isFile file = true) : ∃ place entry, before.find true path = .ok (place, entry) := by
  unfold Glob.onward at found
  cases rest with
  | cons => exact agrees.reached absolute whole (List.cons_ne_nil _ _) found exact
  | nil =>
    dsimp only [List.isEmpty_nil, Bool.not_true] at found
    split at found
    · contradiction
    · split at found
      · rw [collected, List.flatMap_singleton] at found
        exact exists_of_isFile_collect tree named absolute found exact
      · contradiction

/-- A path that is a folder only later leads nowhere before. -/
theorem expanded_filter (more : rest ≠ []) :
    collected before withCompiled (if before.isFolder path then expand rest path else []) =
      (collected after withCompiled (if after.isFolder path then expand' rest path else [])).filter
        before.isFile := by
  by_cases inside : before.isFolder path = true
  · rw [if_pos inside, if_pos (growth.isFolder inside)]
    exact agrees.filter absolute whole
  rw [if_neg inside, collected_nil, eq_comm, List.filter_eq_nil_iff]
  intro file found exact
  split at found
  · next later =>
    obtain ⟨place, entry, reached⟩ := agrees.reached absolute whole more found exact
    obtain ⟨now, known, same⟩ := growth.find reached
    obtain ⟨_, stands⟩ := isFolder_iff.1 later
    cases known.symm.trans stands
    cases entry <;> cases same
    exact inside (isFolder_iff.2 ⟨place, reached⟩)
  · contradiction

theorem ifMatched_filter :
    collected before withCompiled (Glob.ifMatched before onlyFolders expand pattern rest path) =
      (collected after withCompiled (Glob.ifMatched after onlyFolders expand' pattern rest path)).filter
        before.isFile := by
  unfold Glob.ifMatched
  split
  · split
    · exact onward_filter growth agrees absolute whole
    · rfl
  · rfl

omit growth in
theorem ifMatched_reached (tree : before.IsTree) (named : after.Named)
    (found : file ∈ collected after withCompiled (Glob.ifMatched after onlyFolders expand' pattern rest path))
    (exact : before.isFile file = true) : ∃ place entry, before.find true path = .ok (place, entry) := by
  unfold Glob.ifMatched at found
  split at found
  · split at found
    · exact onward_reached agrees absolute whole tree named found exact
    · contradiction
  · contradiction

end

section

variable {expand expand' : List Glob.Pattern → Path → List Path} {onlyFolders : Bool} {pattern : Glob.Pattern}
  {rest : List Glob.Pattern} (agrees : Agrees before after withCompiled expand expand')
  (absolute : path.isAbsolute = true) (whole : Whole (pattern :: rest))
include agrees absolute whole

theorem visit_filter :
    collected before withCompiled (Glob.visit before onlyFolders expand pattern rest path) =
      (collected after withCompiled (Glob.visit after onlyFolders expand' pattern rest path)).filter
        before.isFile := by
  obtain ⟨own, others⟩ := List.forall_mem_cons.1 whole
  unfold Glob.visit
  split
  · dsimp only
    split
    · have below := expanded_filter growth agrees absolute (List.forall_mem_singleton.2 own)
        (List.cons_ne_nil pattern [])
      by_cases inside : before.isFolder path = true
      · simp only [if_pos inside, if_pos (growth.isFolder inside)] at below ⊢
        rw [collected_cons, collected_cons after, List.filter_append, collected_one growth absolute, below]
      by_cases later : after.isFolder path = true
      · simp only [if_neg inside, if_pos later] at below ⊢
        rw [collected_cons after, List.filter_append, collected_folder growth absolute later inside, ← below,
          List.nil_append]
      · rw [if_neg inside, if_neg later, collected_nil, collected_nil, List.filter_nil]
    · next next later split =>
      obtain ⟨known, others⟩ := whole_dropWhile others split
      rw [collected_append, collected_append, List.filter_append, ifMatched_filter growth agrees absolute others,
        expanded_filter growth agrees absolute
          (List.forall_mem_cons.2 ⟨own, List.forall_mem_cons.2 ⟨known, others⟩⟩) (List.cons_ne_nil _ _)]
  · exact ifMatched_filter growth agrees absolute others

omit growth in
theorem visit_reached (tree : before.IsTree) (named : after.Named)
    (found : file ∈ collected after withCompiled (Glob.visit after onlyFolders expand' pattern rest path))
    (exact : before.isFile file = true) : ∃ place entry, before.find true path = .ok (place, entry) := by
  obtain ⟨own, others⟩ := List.forall_mem_cons.1 whole
  unfold Glob.visit at found
  split at found
  · dsimp only at found
    split at found
    · split at found
      · rw [collected_cons] at found
        rcases List.mem_append.1 found with found | found
        · rw [collected, List.flatMap_singleton] at found
          exact exists_of_isFile_collect tree named absolute found exact
        · exact agrees.reached absolute (List.forall_mem_singleton.2 own) (List.cons_ne_nil _ _) found exact
      · contradiction
    · next next later split =>
      obtain ⟨known, others⟩ := whole_dropWhile others split
      rw [collected_append] at found
      rcases List.mem_append.1 found with found | found
      · exact ifMatched_reached agrees absolute others tree named found exact
      · split at found
        · exact agrees.reached absolute (List.forall_mem_cons.2 ⟨own, List.forall_mem_cons.2 ⟨known, others⟩⟩)
            (List.cons_ne_nil _ _) found exact
        · contradiction
  · exact ifMatched_reached agrees absolute others tree named found exact

end

omit growth

section

variable {disk : Disk} {onlyFolders : Bool} {expand : List Glob.Pattern → Path → List Path}
  {pattern : Glob.Pattern} {rest : List Glob.Pattern} {name : List Char} {names : List String}

/-- Whether a search goes on to a name that a pattern spells out. -/
def present (disk : Disk) (folder : Path) (name : List Char) : Bool :=
  if name == ['.'] || name == ['.', '.'] then disk.isFolder folder
  else (disk.ownStatus (folder.join ⟨String.ofList name⟩)).isOk

/-- The names that lead nowhere or up and that a pattern stands for. -/
def specialNames (pattern : Glob.Pattern) : List String :=
  (if pattern.head? == some (.char '.') then ["..", "."] else []).filter fun name => pattern.isMatch name.toList

theorem expandName_literal (absolute : folder.isAbsolute = true) (literal : pattern.literal? = some name) :
    Glob.expandName disk onlyFolders expand pattern rest folder =
      if present disk folder name then
        Glob.onward disk onlyFolders expand rest (folder.join ⟨String.ofList name⟩)
      else [] := by
  unfold Glob.expandName
  rw [literal]
  dsimp only
  rw [Glob.child_eq_join absolute]
  rfl

theorem expandName_listed (absolute : folder.isAbsolute = true) (wild : pattern.literal? = none)
    (reached : disk.find true folder = .ok (place, .folder)) :
    Glob.expandName disk onlyFolders expand pattern rest folder =
      ((specialNames pattern).flatMap fun name =>
        Glob.onward disk onlyFolders expand rest (folder.join ⟨name⟩)) ++
      (disk.namesBelow place).flatMap fun name =>
        Glob.visit disk onlyFolders expand pattern rest (folder.join ⟨name⟩) := by
  unfold Glob.expandName
  rw [wild, isFolder_iff.2 ⟨place, reached⟩, list_eq_ok_iff.2 ⟨place, reached, rfl⟩]
  simp only [Glob.child_eq_join absolute]
  rfl

theorem expandName_unlisted (wild : pattern.literal? = none) (outside : ¬disk.isFolder folder = true) :
    Glob.expandName disk onlyFolders expand pattern rest folder = [] := by
  unfold Glob.expandName
  rw [wild, Bool.eq_false_iff.2 outside]

theorem relative_of_specialNames {name : String} (member : name ∈ specialNames pattern) :
    (⟨name⟩ : Path).isAbsolute = false := by
  have among := (List.mem_filter.1 member).1
  split at among
  · simp only [List.mem_cons, List.not_mem_nil, or_false] at among
    rcases among with rfl | rfl <;> decide
  · contradiction

theorem present_of_find (tree : disk.IsTree) (absolute : folder.isAbsolute = true)
    (relative : (⟨String.ofList name⟩ : Path).isAbsolute = false) {entry : Entry}
    (found : disk.find true (folder.join ⟨String.ofList name⟩) = .ok (place, entry)) :
    present disk folder name = true := by
  unfold present
  split
  · exact isFolder_of_find_join tree (Path.filled_of_isAbsolute absolute) relative found
  · obtain ⟨own, stands⟩ := exists_ownStatus tree found
    rw [stands]
    rfl

theorem present_of_present (grows : Grows before after) (there : present before folder name = true) :
    present after folder name = true := by
  unfold present at there ⊢
  split
  · next special =>
    rw [if_pos special] at there
    exact grows.isFolder there
  · next other =>
    rw [if_neg other] at there
    cases stands : before.ownStatus (folder.join ⟨String.ofList name⟩) with
    | error => rw [stands] at there; contradiction
    | ok entry =>
      obtain ⟨place, found⟩ := ownStatus_eq_ok_iff.1 stands
      obtain ⟨now, found, _⟩ := grows.find found
      rw [ownStatus_eq_ok_iff.2 ⟨place, found⟩]
      rfl

end

section

variable {expand expand' : List Glob.Pattern → Path → List Path} {onlyFolders : Bool} {pattern : Glob.Pattern}
  {rest : List Glob.Pattern} (agrees : Agrees before after withCompiled expand expand')
  (absolute : folder.isAbsolute = true) (whole : Whole (pattern :: rest))
include agrees absolute whole

/-- What an expanded name finds is found by way of its folder. -/
theorem expandName_isFolder (tree : before.IsTree) (named : after.Named)
    (found : file ∈ collected after withCompiled (Glob.expandName after onlyFolders expand' pattern rest folder))
    (exact : before.isFile file = true) : before.isFolder folder = true := by
  obtain ⟨own, others⟩ := List.forall_mem_cons.1 whole
  have filled := Path.filled_of_isAbsolute absolute
  cases literal : pattern.literal? with
  | some name =>
    rw [expandName_literal absolute literal] at found
    split at found
    · obtain ⟨place, entry, reached⟩ :=
        onward_reached agrees (Glob.isAbsolute_join absolute _) others tree named found exact
      exact isFolder_of_find_join tree filled (isAbsolute_of_whole (by simpa using own name literal)) reached
    · contradiction
  | none =>
    by_cases inside : after.isFolder folder = true
    · obtain ⟨place, reached⟩ := isFolder_iff.1 inside
      rw [expandName_listed absolute literal reached, collected_append, List.mem_append, collected_flatMap,
        collected_flatMap, List.mem_flatMap, List.mem_flatMap] at found
      rcases found with ⟨name, special, found⟩ | ⟨name, member, found⟩
      · obtain ⟨place, entry, reached⟩ :=
          onward_reached agrees (Glob.isAbsolute_join absolute _) others tree named found exact
        exact isFolder_of_find_join tree filled (relative_of_specialNames special) reached
      · obtain ⟨place, entry, reached⟩ :=
          visit_reached agrees (Glob.isAbsolute_join absolute _) whole tree named found exact
        obtain ⟨parent, known, _⟩ := find_child tree filled (named.of_mem_namesBelow member) reached
        exact isFolder_iff.2 ⟨parent, known⟩
    · rw [expandName_unlisted literal inside] at found
      contradiction

theorem expandName_filter (growth : Growth before after) :
    collected before withCompiled (Glob.expandName before onlyFolders expand pattern rest folder) =
      (collected after withCompiled (Glob.expandName after onlyFolders expand' pattern rest folder)).filter
        before.isFile := by
  obtain ⟨own, others⟩ := List.forall_mem_cons.1 whole
  have filled := Path.filled_of_isAbsolute absolute
  cases literal : pattern.literal? with
  | some name =>
    rw [expandName_literal absolute literal, expandName_literal absolute literal]
    by_cases there : present before folder name = true
    · rw [if_pos there, if_pos (present_of_present growth.toGrows there)]
      exact onward_filter growth agrees (Glob.isAbsolute_join absolute _) others
    rw [if_neg there, collected_nil, eq_comm, List.filter_eq_nil_iff]
    intro file found exact
    split at found
    · obtain ⟨place, entry, reached⟩ := onward_reached agrees (Glob.isAbsolute_join absolute _) others growth.tree
        growth.named' found exact
      exact there (present_of_find growth.tree absolute (isAbsolute_of_whole (by simpa using own name literal))
        reached)
    · contradiction
  | none =>
    by_cases inside : before.isFolder folder = true
    · obtain ⟨place, reached⟩ := isFolder_iff.1 inside
      rw [expandName_listed absolute literal reached,
        expandName_listed absolute literal (growth.find_folder reached), collected_append, collected_append,
        List.filter_append, collected_flatMap, collected_flatMap, collected_flatMap, collected_flatMap,
        growth.namesBelow]
      congr 1
      · rw [List.filter_flatMap]
        exact List.flatMap_congr fun name _ =>
          onward_filter growth agrees (Glob.isAbsolute_join absolute _) others
      · refine flatMap_filter (fun name _ => ?_) fun name listed absent => ?_
        · exact visit_filter growth agrees (Glob.isAbsolute_join absolute _) whole
        · rw [visit_filter growth agrees (Glob.isAbsolute_join absolute _) whole, List.filter_eq_nil_iff]
          intro file found exact
          obtain ⟨_, entry, led⟩ := visit_reached agrees (Glob.isAbsolute_join absolute _) whole growth.tree
            growth.named' found exact
          obtain ⟨parent, known, stands, _⟩ :=
            find_child growth.tree filled (growth.named'.of_mem_namesBelow listed) led
          cases reached.symm.trans known
          exact Bool.eq_false_iff.1 absent stands
    · rw [expandName_unlisted literal inside, collected_nil, eq_comm, List.filter_eq_nil_iff]
      exact fun file found exact =>
        inside (expandName_isFolder agrees absolute whole growth.tree growth.named' found exact)

end

theorem agrees_expandWithin (growth : Growth before after) (onlyFolders : Bool) (depth : Nat) :
    Agrees before after withCompiled (Glob.expandWithin before onlyFolders depth)
      (Glob.expandWithin after onlyFolders depth) := by
  induction depth with
  | zero => exact ⟨fun _ _ => rfl, fun _ _ _ none => absurd none List.not_mem_nil⟩
  | succ depth ih =>
    constructor
    · intro patterns path absolute whole
      cases patterns with
      | nil => rfl
      | cons pattern rest => exact expandName_filter ih absolute whole growth
    · intro patterns path file absolute whole more found exact
      cases patterns with
      | nil => contradiction
      | cons pattern rest =>
        obtain ⟨place, reached⟩ :=
          isFolder_iff.1 (expandName_isFolder ih absolute whole growth.tree growth.named' found exact)
        exact ⟨place, _, reached⟩

/-- The names of a pattern have no separators. -/
theorem whole_names {path : Path} {glob : Glob} (absolute : path.isAbsolute = true)
    (read : Glob.ofPath path = .ok glob) : glob.absolute = true ∧ Whole glob.names := by
  obtain ⟨text, spelled⟩ := List.head?_eq_some_iff.1 (beq_iff_eq.1 absolute)
  obtain ⟨rooted, reads⟩ := Glob.reads_of_ofPath spelled read
  refine ⟨rooted, fun pattern member name literal separated => ?_⟩
  refine Glob.notMem_of_reads reads Glob.notMem_of_mem_pieces pattern member ?_
  rw [Glob.Pattern.eq_map_of_literal literal]
  exact List.mem_map_of_mem separated

theorem expand_filter (growth : Growth before after) {path : Path} {glob : Glob}
    (absolute : path.isAbsolute = true) (read : Glob.ofPath path = .ok glob) :
    collected before withCompiled (glob.expand before) =
      (collected after withCompiled (glob.expand after)).filter before.isFile := by
  obtain ⟨rooted, whole⟩ := whole_names absolute read
  unfold Glob.expand
  rw [rooted]
  exact (agrees_expandWithin growth _ _).filter (by decide) whole

theorem files_input (disk : Disk) (base : Path) (withCompiled : Bool) (text : String) :
    (input disk base withCompiled text).files =
      if Glob.isGlob text then
        match Glob.ofPath (base.join ⟨text⟩) with
        | .ok glob => collected disk withCompiled (glob.expand disk)
        | .error _ => []
      else collected disk withCompiled [base.join ⟨text⟩] := by
  unfold input
  dsimp only
  split
  · cases Glob.ofPath (base.join ⟨text⟩) with
    | ok => exact List.flatMap_map ..
    | error => rfl
  · rw [collected, List.flatMap_singleton]
    split
    · rfl
    · next absent =>
      refine (files_collect_eq_nil (Bool.eq_false_iff.2 fun exact => absent ?_) fun inside => absent ?_).symm
      · obtain ⟨place, content, found⟩ := isFile_iff.1 exact
        rw [exists?, status_eq_ok_iff.2 ⟨place, found⟩]
        rfl
      · obtain ⟨place, found⟩ := isFolder_iff.1 inside
        rw [exists?, status_eq_ok_iff.2 ⟨place, found⟩]
        rfl

theorem isFile_of_mem_input {disk : Disk} {base : Path} {text : String}
    (found : file ∈ (input disk base withCompiled text).files) : disk.isFile file = true := by
  have reached : ∀ paths, file ∈ collected disk withCompiled paths → disk.isFile file = true := by
    intro paths found
    obtain ⟨_, _, inside⟩ := List.mem_flatMap.1 found
    exact isFile_of_mem_collect inside
  rw [files_input] at found
  split at found
  · split at found
    · exact reached _ found
    · contradiction
  · exact reached _ found

theorem isFile_of_mem_scan {disk : Disk} {base : Path} {inputs : List String}
    (found : file ∈ (scan disk base inputs withCompiled).files) : disk.isFile file = true := by
  obtain ⟨_, _, inside⟩ := exists_input_of_mem_scan found
  exact isFile_of_mem_input inside

theorem input_filter (growth : Growth before after) {base : Path} (absolute : base.isAbsolute = true)
    (text : String) : (input before base withCompiled text).files =
      (input after base withCompiled text).files.filter before.isFile := by
  rw [files_input, files_input]
  split
  · split
    · next read => exact expand_filter growth (Glob.isAbsolute_join absolute _) read
    · rfl
  · exact collected_one growth (Glob.isAbsolute_join absolute _)

/-- Spellings of one path that files are found by now were all found by before, or none was. -/
theorem isFile_eq_of_compare (growth : Growth before after) {a b : Path} (equal : a.compare b = .eq)
    (one : after.isFile a = true) (two : after.isFile b = true) : before.isFile a = before.isFile b := by
  have carried : ∀ {a b : Path}, a.compare b = .eq → after.isFile b = true → before.isFile a = true →
      before.isFile b = true := by
    intro a b equal later exact
    obtain ⟨_, _, found⟩ := isFile_iff.1 exact
    obtain ⟨_, _, known⟩ := isFile_iff.1 later
    exact isFile_iff.2 ⟨_, _, find_of_same growth.tree growth.tree'
      (Path.same_iff.2 (Path.compare_eq_eq_iff.1 equal)) found known⟩
  exact Bool.eq_iff_iff.2 ⟨carried equal two, carried (Std.OrientedCmp.eq_symm equal) one⟩

end Scan

/-- The files of an earlier scan are those of a later one that were files before. -/
theorem files_scan_of_growth {before after : Disk} (growth : Scan.Growth before after) {base : Path}
    (absolute : base.isAbsolute = true) (inputs : List String) (withCompiled : Bool) :
    (scan before base inputs withCompiled).files =
      (scan after base inputs withCompiled).files.filter before.isFile := by
  have found : ∀ file ∈ inputs.flatMap fun text => (Scan.input after base withCompiled text).files,
      after.isFile file = true := by
    intro file member
    obtain ⟨_, _, inside⟩ := List.mem_flatMap.1 member
    exact Scan.isFile_of_mem_input inside
  rw [Scan.files_scan, Scan.files_scan, filter_sortPaths fun a one b two equal =>
    Scan.isFile_eq_of_compare growth equal (found a one) (found b two), List.filter_flatMap]
  exact congrArg sortPaths (List.flatMap_congr fun text _ => Scan.input_filter growth absolute text)

end Querymap
