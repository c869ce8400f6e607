import Querymap.Proofs.Disk.Tree

/-! What making folders and writing a file do to a tree. Every change puts an entry at a free name of a folder
or a file in the place of a file. -/
namespace Querymap.Disk

variable {disk before middle after : Disk} {place : Place} {entry : Entry} {path : Path}

/-- One tree became another one, in which only files at some of the places have other texts. -/
structure Edited (rewritten : Place → Prop) (before after : Disk) : Prop extends Grows before after where
  tree : after.IsTree
  same : ∀ place entry, before.get? place = some entry → ¬rewritten place → after.get? place = some entry

namespace Edited

variable {rewritten more : Place → Prop}

theorem refl (tree : disk.IsTree) : Edited rewritten disk disk :=
  { Grows.refl disk with tree, same := fun _ _ found _ => found }

theorem trans (first : Edited rewritten before middle) (second : Edited more middle after) :
    Edited (fun place => rewritten place ∨ more place) before after :=
  { first.toGrows.trans second.toGrows with
    tree := second.tree
    same := fun _ _ found kept =>
      second.same _ _ (first.same _ _ found fun h => kept (.inl h)) fun h => kept (.inr h) }

theorem mono (edited : Edited rewritten before after)
    (within : ∀ place entry, before.get? place = some entry → rewritten place → more place) :
    Edited more before after :=
  { edited with same := fun _ _ found kept => edited.same _ _ found fun h => kept (within _ _ found h) }

theorem next (first : Edited rewritten before middle) (second : Edited rewritten middle after) :
    Edited rewritten before after :=
  (first.trans second).mono fun _ _ _ either => either.elim id id

end Edited

/-- An entry may be put at a place: where nothing stands in a folder, or a file in the place of another. -/
inductive Fits (disk : Disk) : Place → Entry → Prop
  | free {place : Place} {entry : Entry} (folder : disk.get? place.dropLast = some .folder)
      (free : disk.get? place = none) : Fits disk place entry
  | file {place : Place} {old new : Option String} (stands : disk.get? place = some (.file old)) :
      Fits disk place (.file new)

theorem Fits.ne_nil (fits : disk.Fits place entry) : place ≠ [] := by
  rintro rfl
  cases fits with
  | free _ free => cases free
  | file stands => cases stands

theorem Fits.grows (fits : disk.Fits place entry) : Grows disk (disk.put place entry) where
  here := rfl
  kept other old found := by
    rw [get?_put disk fits.ne_nil]
    split
    · next same =>
      subst same
      cases fits with
      | free _ free => cases free.symm.trans found
      | file stands =>
        cases stands.symm.trans found
        rfl
    · rw [found]
      rfl

theorem Fits.edited (tree : disk.IsTree) (fits : disk.Fits place entry) :
    Edited (· = place) disk (disk.put place entry) :=
  { fits.grows with
    tree := {
      here := fits.grows.folder tree.here
      parents := by
        intro other member
        apply fits.grows.folder
        rcases List.mem_cons.1 member with rfl | member
        · cases fits with
          | free folder => exact folder
          | file stands => exact tree.parent stands
        · exact tree.parents other ((List.mem_filter.1 member).1) }
    same := fun other old found apart => by rwa [get?_put disk fits.ne_nil, if_neg apart] }

theorem Edit.run_get_bind {α : Type} (next : Disk → Edit α) (disk : Disk) :
    (get >>= next).run disk = (next disk).run disk := rfl

/-- An edit after which still holds what held before it, whether it fails or not. -/
def Edit.Preserves {α : Type} (holds : Disk → Prop) (edit : Edit α) : Prop :=
  ∀ disk : Disk, holds disk → holds (edit.run disk).2

section

variable {α β : Type} {holds : Disk → Prop} {edit : Edit α}

namespace Edit.Preserves

theorem pure (value : α) : Preserves holds (pure value) := fun _ held => held

theorem throw (error : FileError) : Preserves holds (throw error : Edit α) := fun _ held => held

theorem bind {next : α → Edit β} (first : Preserves holds edit) (second : ∀ value, Preserves holds (next value)) :
    Preserves holds (edit >>= next) := by
  intro disk held
  have start := first disk held
  change holds (ExceptT.bindCont next (edit.run disk).1 (edit.run disk).2).2
  cases (edit.run disk).1 with
  | error => exact start
  | ok value => exact second value _ start

theorem tryCatch {handler : FileError → Edit α} (first : Preserves holds edit)
    (second : ∀ error, Preserves holds (handler error)) : Preserves holds (tryCatch edit handler) := by
  intro disk held
  have start := first disk held
  change holds (edit.run.run disk).2 at start
  change holds ((MonadExcept.tryCatch edit handler).run.run disk).2
  rw [ExceptT.run_tryCatch, StateT.run_bind]
  rcases ran : edit.run.run disk with ⟨value | value, middle⟩
  · rw [ran] at start
    exact second value _ start
  · rw [ran] at start
    exact start

end Edit.Preserves

theorem preserves_unlessFolder (path : Path) (error : FileError) :
    Edit.Preserves holds (unlessFolder path error) := by
  refine .bind (fun disk held => held) fun disk => ?_
  split
  · exact .pure ()
  · exact .throw error

variable (makes : ∀ disk path place, holds disk →
  disk.locateBy false path (names path.spelling) = .ok (.missing place []) → holds (disk.put place .folder))
include makes

theorem preserves_create (path : Path) : Edit.Preserves holds (create path .folder) := by
  intro disk held
  unfold create
  rw [Edit.run_get_bind]
  split
  · exact held
  · exact held
  · next place located => exact makes disk path place held located
  · exact held

theorem preserves_makeFoldersWithin (depth : Nat) (path : Path) :
    Edit.Preserves holds (makeFoldersWithin depth path) := by
  induction depth generalizing path with
  | zero => exact .throw _
  | succ depth ih =>
    rw [makeFoldersWithin]
    split
    · exact .pure ()
    · apply Edit.Preserves.tryCatch (preserves_create makes path)
      intro error
      split
      · next parent _ =>
        exact .bind (ih parent) fun _ =>
          .tryCatch (preserves_create makes path) (preserves_unlessFolder path)
      · exact preserves_unlessFolder path _

/-- Making folders keeps what every new folder keeps. -/
theorem preserves_makeFolders (path : Path) : Edit.Preserves holds (makeFolders path) :=
  preserves_makeFoldersWithin makes _ path

end

/-- An edit that changes no file. -/
def Edit.Adds {α : Type} (edit : Edit α) : Prop :=
  ∀ disk : Disk, disk.IsTree → Edited (fun _ => False) disk (edit.run disk).2

theorem adds_makeFolders (path : Path) : (makeFolders path).Adds := by
  intro disk tree
  refine preserves_makeFolders (fun middle path place grown located => ?_) path disk (Edited.refl tree)
  obtain ⟨free, folder⟩ := grown.tree.stands_locateBy located
  apply grown.next
  apply ((Fits.free folder free).edited grown.tree).mono
  -- Nothing stood at the place, so nothing was rewritten there.
  rintro _ _ found rfl
  cases free.symm.trans found

theorem write_puts {content : Option String} (tree : disk.IsTree)
    (written : (write path content).run disk = (.ok (), after)) :
    ∃ place located, disk.Fits place (.file content) ∧ after = disk.put place (.file content) ∧
      disk.locate true path = .ok located ∧ (located = .found place ∨ located = .missing place []) := by
  unfold write at written
  rw [Edit.run_get_bind] at written
  split at written
  · -- A path that ends in a separator is never written.
    split at written <;> cases written
  · split at written
    · cases written
    · next place located =>
      cases written
      obtain ⟨free, folder⟩ := tree.stands_locateBy located
      exact ⟨place, _, .free folder free, rfl, located, .inr rfl⟩
    · cases written
    · next place located =>
      split at written
      · cases written
      · next noFolder =>
        cases written
        obtain ⟨entry, stands, noLink⟩ := tree.stands_locateBy located
        cases entry with
        | folder => exact absurd stands noFolder
        | link target => exact absurd rfl (noLink rfl target)
        | file old => exact ⟨place, _, .file stands, rfl, located, .inl rfl⟩

theorem place?_put {content : Option String} {located : Located} (fits : disk.Fits place (.file content))
    (found : disk.locate true path = .ok located) (ends : located = .found place ∨ located = .missing place []) :
    (disk.put place (.file content)).place? path = some place ∧
      (disk.put place (.file content)).get? place = some (.file content) := by
  have stands : (disk.put place (.file content)).get? place = some (.file content) := by
    rw [get?_put disk fits.ne_nil, if_pos rfl]
  have reaches : located.Reaches (disk.put place (.file content)) place := by
    rcases ends with rfl | rfl
    · exact .found
    · exact .made stands
  exact ⟨place?_eq_some_iff.2 ⟨fits.grows.locateBy_reaches found reaches, _, stands⟩, stands⟩

/-- A file that was written is where its path leads. -/
theorem write_ok {content : Option String} (tree : disk.IsTree)
    (written : (write path content).run disk = (.ok (), after)) :
    ∃ place, Edited (· = place) disk after ∧ after.place? path = some place ∧
      after.get? place = some (.file content) := by
  obtain ⟨place, located, fits, rfl, found, ends⟩ := write_puts tree written
  exact ⟨place, fits.edited tree, place?_put fits found ends⟩

/-- A path reads as the last of some files that lead to its place. -/
def ReadsLast (files : List (Path × String)) (disk : Disk) (path : Path) : Prop :=
  ∃ earlier final later, files = earlier ++ final :: later ∧ disk.place? final.1 = disk.place? path ∧
    (∀ other ∈ later, disk.place? other.1 ≠ disk.place? path) ∧ disk.read path = .ok final.2

theorem ReadsLast.cons {files : List (Path × String)} (reads : ReadsLast files disk path)
    (file : Path × String) : ReadsLast (file :: files) disk path := by
  obtain ⟨earlier, final, later, split, rest⟩ := reads
  exact ⟨file :: earlier, final, later, by rw [split, List.cons_append], rest⟩

theorem ReadsLast.congr {files : List (Path × String)} {other : Path} (reads : ReadsLast files disk path)
    (same : disk.place? path = disk.place? other) : ReadsLast files disk other := by
  obtain ⟨earlier, final, later, split, led, unled, read⟩ := reads
  rw [read_eq_ok_iff, same, ← read_eq_ok_iff] at read
  exact ⟨earlier, final, later, split, same ▸ led, same ▸ unled, read⟩

/-- What writing some files one after the other makes of a tree. -/
structure Written (files : List (Path × String)) (before after : Disk) : Prop where
  edited : Edited (fun place => ∃ file ∈ files, after.place? file.1 = some place) before after
  last : ∀ file ∈ files, ReadsLast files after file.1

theorem Written.nil (tree : disk.IsTree) : Written [] disk disk := ⟨.refl tree, nofun⟩

theorem Written.cons {files : List (Path × String)} {content : String}
    (first : Edited (· = place) before middle) (leads : middle.place? path = some place)
    (stands : middle.get? place = some (.file (some content))) (rest : Written files middle after) :
    Written ((path, content) :: files) before after := by
  have led : after.place? path = some place := rest.edited.place?_eq leads
  constructor
  · apply (first.trans rest.edited).mono
    intro _ _ _ rewritten
    rcases rewritten with rfl | ⟨file, member, reached⟩
    · exact ⟨_, List.mem_cons_self, led⟩
    · exact ⟨file, List.mem_cons_of_mem _ member, reached⟩
  · intro file member
    -- Either a later file leads to the same place, or the first one is still what stands there.
    by_cases later : ∃ other ∈ files, after.place? other.1 = after.place? file.1
    · obtain ⟨other, member, same⟩ := later
      exact ((rest.last other member).cons _).congr same
    · rcases List.mem_cons.1 member with rfl | member
      · have kept : after.get? place = some (.file (some content)) :=
          rest.edited.same _ _ stands fun ⟨other, member, reached⟩ =>
            later ⟨other, member, reached.trans led.symm⟩
        exact ⟨[], _, files, rfl, rfl, fun other member same => later ⟨other, member, same⟩,
          read_eq_ok_iff.2 ⟨place, led, kept⟩⟩
      · exact absurd ⟨file, member, rfl⟩ later

theorem Written.read_last {files : List (Path × String)} {file : Path × String}
    (written : Written (files ++ [file]) before after) : after.read file.1 = .ok file.2 := by
  obtain ⟨earlier, final, later, split, _, unled, read⟩ :=
    written.last file (List.mem_append_right _ (List.mem_singleton_self file))
  rcases List.eq_nil_or_concat later with rfl | ⟨between, other, rfl⟩
  · obtain ⟨_, same⟩ := List.append_inj' split rfl
    cases same
    exact read
  · rw [List.concat_eq_append] at split unled
    rw [← List.cons_append, ← List.append_assoc] at split
    obtain ⟨_, same⟩ := List.append_inj' split rfl
    cases same
    exact absurd rfl (unled _ (List.mem_append_right _ (List.mem_singleton_self _)))

end Querymap.Disk
