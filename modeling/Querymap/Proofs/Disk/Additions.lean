import Querymap.Proofs.Disk.Changes

/-! Disks on which files were written and nothing else was done. Paths to other entries lead to these as they
did before. Where no link leads to a file, every path to it ends in the name of the file. -/
namespace Querymap

theorem Path.properName_of_fileName? {path : Path} {name : String} (named : path.fileName? = some name) :
    Disk.ProperName name ∧ ∃ front, path.components = front ++ [.name name] := by
  obtain ⟨front, split⟩ : ∃ front, path.components = front ++ [.name name] := by
    unfold fileName? at named
    split at named
    · next last =>
      cases named
      exact List.getLast?_eq_some_iff.1 last
    · contradiction
  have member : .name name ∈ path.components := split ▸ List.mem_append_right _ List.mem_cons_self
  obtain ⟨inner, down⟩ := plain_of_mem_components member
  have listed : name ∈ path.route := List.mem_filterMap.2 ⟨_, member, rfl⟩
  rw [Disk.route_eq] at listed
  obtain ⟨filled, whole⟩ := Disk.spelled_of_mem_names (List.mem_filter.1 listed).1
  exact ⟨⟨inner, down, filled, whole⟩, front, split⟩

/-- A named path has a parent. -/
theorem Path.exists_parent?_of_fileName? {path : Path} {name : String} (named : path.fileName? = some name) :
    ∃ folder, path.parent? = some folder := by
  obtain ⟨_, front, split⟩ := properName_of_fileName? named
  have parent := components_parent? path
  rw [split, List.reverse_concat, above_cons (by simp)] at parent
  obtain ⟨folder, found, _⟩ := Option.map_eq_some_iff.1 parent
  exact ⟨folder, found⟩

namespace Disk

variable {disk before middle after : Disk} {spots more : Place → Prop} {place last : Place} {entry : Entry}
  {follow : Bool} {path folder : Path} {names : List String} {name : String} {content : Option String}

/-- Files were written at some places, and nothing else was done. -/
structure FilesAt (spots : Place → Prop) (before after : Disk) : Prop extends Grows before after where
  files : ∀ place, spots place → ∃ text, after.get? place = some (.file text)
  others : ∀ place, ¬spots place → after.get? place = before.get? place

namespace FilesAt

theorem refl (disk : Disk) : FilesAt (fun _ => False) disk disk :=
  { Grows.refl disk with files := fun _ => False.elim, others := fun _ _ => rfl }

theorem trans (first : FilesAt spots before middle) (second : FilesAt more middle after) :
    FilesAt (fun place => spots place ∨ more place) before after :=
  { first.toGrows.trans second.toGrows with
    files := by
      rintro place (earlier | later)
      · obtain ⟨_, stands⟩ := first.files place earlier
        exact second.toGrows.file stands
      · exact second.files place later
    others := fun place neither => by
      obtain ⟨one, two⟩ := not_or.1 neither
      rw [second.others place two, first.others place one] }

theorem congr (wrote : FilesAt spots before after) (same : ∀ place, more place ↔ spots place) :
    FilesAt more before after :=
  { wrote with
    files := fun place spot => wrote.files place ((same place).1 spot)
    others := fun place apart => wrote.others place fun spot => apart ((same place).2 spot) }

variable (wrote : FilesAt spots before after)
include wrote

/-- Where a name was missing, it is missing still or is the name of a file. -/
theorem advance_missing {missed : Place} {rest : List String}
    (missing : before.advance follow place names = .missing missed rest) :
    before.get? missed = none ∧ (after.advance follow place names = .missing missed rest ∨
      after.advance follow place names = .arrived missed ∨
      ∃ error, after.advance follow place names = .failed error) := by
  fun_induction before.advance follow place names with
  | case1 | case4 | case7 | case8 | case9 | case10 => cases missing
  | case2 place rest ih =>
    rw [advance, if_pos rfl]
    exact ih missing
  | case3 place rest inner ih =>
    rw [advance, if_neg inner, if_pos rfl]
    exact ih missing
  | case5 place name rest inner down short free =>
    cases missing
    refine ⟨free, ?_⟩
    rw [advance_name inner down short]
    by_cases spot : spots (place ++ [name])
    · obtain ⟨text, stands⟩ := wrote.files _ spot
      rw [stands]
      dsimp only
      split
      · exact .inr (.inl rfl)
      · exact .inr (.inr ⟨_, rfl⟩)
    · rw [wrote.others _ spot, free]
      exact .inl rfl
  | case6 place name rest inner down short found ih =>
    rw [advance_name inner down short, wrote.toGrows.folder found]
    exact ih missing

theorem walk_back {links : Nat} (walked : after.walk follow links place names = .ok (.found last)) :
    before.walk follow links place names = .ok (.found last) ∨ before.get? last = none := by
  fun_induction before.walk follow links place names with
  | case1 links place names arrived advanced =>
    rw [walk, wrote.toGrows.advance_eq (by simp [advanced]), advanced] at walked
    exact .inl walked
  | case2 links place names missed rest advanced =>
    obtain ⟨free, goes⟩ := wrote.advance_missing advanced
    rw [walk] at walked
    rcases goes with same | arrives | ⟨error, fails⟩
    · rw [same] at walked
      cases walked
    · rw [arrives] at walked
      cases walked
      exact .inr free
    · rw [fails] at walked
      cases walked
  | case3 links place names error advanced =>
    rw [walk, wrote.toGrows.advance_eq (by simp [advanced]), advanced] at walked
    cases walked
  | case4 place names start steps advanced =>
    rw [walk, wrote.toGrows.advance_eq (by simp [advanced]), advanced] at walked
    cases walked
  | case5 place names start steps advanced links ih =>
    rw [walk, wrote.toGrows.advance_eq (by simp [advanced]), advanced] at walked
    exact ih walked

/-- What is found, other than the written files, was found before. -/
theorem find_back (found : after.find follow path = .ok (place, entry)) (apart : ¬spots place) :
    before.find follow path = .ok (place, entry) := by
  have accepts := accepts_of_find found
  obtain ⟨walked, stands⟩ := (find_iff accepts).1 found
  rw [wrote.others place apart] at stands
  rw [start, wrote.here] at walked
  rcases wrote.walk_back walked with earlier | free
  · exact (find_iff accepts).2 ⟨earlier, stands⟩
  · cases free.symm.trans stands

end FilesAt

/-- Whatever path leads to a place leads there by itself, not by a link at its end. -/
def Unlinked (disk : Disk) (place : Place) : Prop :=
  ∀ path entry, disk.find true path = .ok (place, entry) → disk.find false path = .ok (place, entry)

theorem Linkless.advance_own (linkless : disk.Linkless) (place : Place) (names : List String) :
    disk.advance false place names = disk.advance true place names := by
  fun_induction disk.advance true place names with
  | case1 => rw [advance]
  | case2 place rest ih => rw [advance, if_pos rfl, ih]
  | case3 place rest inner ih => rw [advance, if_neg inner, if_pos rfl, ih]
  | case4 place name rest inner down long => rw [advance, if_neg inner, if_neg down, if_pos long]
  | case5 place name rest inner down short free => rw [advance_name inner down short, free]
  | case6 place name rest inner down short found ih => rw [advance_name inner down short, found, ← ih]
  | case7 place name rest inner down short text found last =>
    rw [advance_name inner down short, found]
    exact if_pos last
  | case8 place name rest inner down short text found more =>
    rw [advance_name inner down short, found]
    exact if_neg more
  | case9 place name rest inner down short target found => exact absurd found (linkless.get?_ne _ target)
  | case10 place name rest inner down short target found => exact absurd found (linkless.get?_ne _ target)

theorem Linkless.unlinked (linkless : disk.Linkless) (place : Place) : disk.Unlinked place := by
  intro path entry found
  have accepts := accepts_of_find found
  obtain ⟨walked, stands⟩ := (find_iff accepts).1 found
  refine (find_iff accepts).2 ⟨?_, stands⟩
  rw [linkLimit, walk_succ] at walked ⊢
  rw [linkless.advance_own]
  cases advanced : disk.advance true (disk.start path) (steps path.spelling) with
  | redirected start rest => exact absurd advanced ((linkless.advance_eq _).2 start rest)
  | arrived | missing | failed =>
    rw [advanced] at walked
    exact walked

/-- A file is called what the paths to it end in. -/
theorem getLast?_of_unlinked (tree : disk.IsTree) (unlinked : disk.Unlinked place)
    (found : disk.find true path = .ok (place, .file content)) (named : path.fileName? = some name) :
    place.getLast? = some name := by
  obtain ⟨proper, front, split⟩ := Path.properName_of_fileName? named
  have own := unlinked path _ found
  have walked := ((find_iff (accepts_of_find own)).1 own).1
  have route : path.route = front.filterMap Path.Component.name? ++ [name] := by
    rw [Path.route, split, List.filterMap_append]
    rfl
  rw [(Thins.of_bare (bare_of_find tree found)).walk, ← route_eq_steps, route] at walked
  obtain ⟨parent, left, _, _, rest⟩ := walk_prefix tree (tree.start path) (List.cons_ne_nil _ _) walked
  rw [(walk_name proper.inner proper.down rest).2 rfl, List.getLast?_concat]

/-- A file has a name in a folder. -/
theorem exists_fileName?_of_find (tree : disk.IsTree) (found : disk.find true path = .ok (place, .file content)) :
    ∃ folder name, path.parent? = some folder ∧ path.fileName? = some name ∧
      (folder.spelling = "" ∨ disk.isFolder folder = true) := by
  obtain ⟨folder, parent, inside⟩ := exists_parent?_isFolder tree found
  obtain ⟨_, name, _, known, _, route, _, down, _⟩ := (aims_of_find tree found).parent tree
  cases parent.symm.trans known
  obtain ⟨last, split, inner⟩ := Path.components_eq_of_parent? parent
  have named : last.name? = some name := by
    rw [Path.route, Path.route, split, List.filterMap_append, List.append_right_inj] at route
    cases own : last.name? with
    | none => simp [own] at route
    | some text => simpa [own] using route
  refine ⟨folder, name, parent, ?_, inside⟩
  rw [Path.fileName?, split, List.getLast?_concat]
  cases last with
  | root => contradiction
  | current => contradiction
  | parent => exact absurd (Option.some.inj named).symm down
  | name text => exact named

theorem sound_save (sound : disk.Sound) (path : Path) (content : Option String) :
    ((save path content).run disk).2.Sound := by
  have writes : ∀ disk : Disk, disk.Sound → ((write path content).run disk).2.Sound := by
    intro disk sound
    rcases ran : (write path content).run disk with ⟨error | ⟨⟩, after⟩
    · rw [write_error ran]
      exact sound
    · obtain ⟨_, _, sound, _⟩ := changed_write sound ran
      exact sound
  have makes (folder : Path) : ((makeFolders folder).run disk).2.Sound :=
    preserves_makeFolders (fun _ _ _ sound located => (changed_folder sound located).2.1) folder disk sound
  rw [run_save]
  split
  · exact writes disk sound
  · next folder _ =>
    have middle := makes folder
    split
    · next made =>
      rw [made] at middle
      exact writes _ middle
    · next made =>
      rw [made] at middle
      exact middle

/-- Saving a file in a folder that stands changes nothing but the file. -/
theorem filesAt_save (sound : before.Sound)
    (inside : ∀ folder, path.parent? = some folder → folder.spelling = "" ∨ before.isFolder folder = true)
    (saved : (save path content).run before = (.ok (), after)) :
    ∃ place, FilesAt (· = place) before after ∧ after.place? path = some place := by
  have wrote : (write path content).run before = (.ok (), after) := by
    rw [run_save] at saved
    split at saved
    · exact saved
    · next folder parent =>
      rw [makeFolders_of_stands sound.tree (inside folder parent)] at saved
      exact saved
  obtain ⟨place, changed, _, leads, stands⟩ := changed_write sound wrote
  exact ⟨place, { changed.grows (by simp [stands]) with
    files := fun _ same => same ▸ ⟨_, stands⟩
    others := changed.others }, leads⟩

end Disk

end Querymap
