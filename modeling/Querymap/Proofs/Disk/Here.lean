import Querymap.Proofs.Disk.Lexical
import Querymap.Proofs.Disk.Writing

/-! A file system seen from different working folders. Absolute paths are read and written alike from all
of them. -/
namespace Querymap

namespace Disk

/-- The same file system with another working folder. -/
def seenFrom (disk : Disk) (here : Place) : Disk := { disk with here }

variable (disk : Disk) (here : Place)

@[simp] theorem get?_seenFrom (place : Place) : (disk.seenFrom here).get? place = disk.get? place := rfl

@[simp] theorem put_seenFrom (place : Place) (entry : Entry) :
    (disk.seenFrom here).put place entry = (disk.put place entry).seenFrom here := rfl

@[simp] theorem seenFrom_seenFrom (other : Place) : (disk.seenFrom other).seenFrom here = disk.seenFrom here :=
  rfl

theorem advance_seenFrom (follow : Bool) (place : Place) (names : List String) :
    (disk.seenFrom here).advance follow place names = disk.advance follow place names := by
  induction names generalizing place with
  | nil => rfl
  | cons name rest ih => simp only [advance, ih, get?_seenFrom]

theorem walk_seenFrom (follow : Bool) (links : Nat) (place : Place) (names : List String) :
    (disk.seenFrom here).walk follow links place names = disk.walk follow links place names := by
  induction links generalizing place names with
  | zero => rw [walk, walk, advance_seenFrom]
  | succ links ih =>
    rw [walk, walk, advance_seenFrom]
    split <;> first | rfl | exact ih _ _

variable {disk} {path : Path} (absolute : path.isAbsolute = true)
include absolute

theorem locateBy_seenFrom (follow : Bool) (names : List String) :
    (disk.seenFrom here).locateBy follow path names = disk.locateBy follow path names := by
  simp only [locateBy, absolute, if_true, walk_seenFrom]

theorem find_seenFrom (follow : Bool) : (disk.seenFrom here).find follow path = disk.find follow path := by
  simp only [find, locate, locateBy_seenFrom here absolute, get?_seenFrom]

theorem status_seenFrom : (disk.seenFrom here).status path = disk.status path := by
  rw [status, status, find_seenFrom here absolute]

theorem ownStatus_seenFrom : (disk.seenFrom here).ownStatus path = disk.ownStatus path := by
  rw [ownStatus, ownStatus, find_seenFrom here absolute]

theorem exists?_seenFrom : (disk.seenFrom here).exists? path = disk.exists? path := by
  rw [exists?, exists?, status_seenFrom here absolute]

theorem isFolder_seenFrom : (disk.seenFrom here).isFolder path = disk.isFolder path := by
  rw [isFolder, isFolder, status_seenFrom here absolute]

theorem read_seenFrom : (disk.seenFrom here).read path = disk.read path := by
  rw [read, read, status_seenFrom here absolute]

theorem list_seenFrom : (disk.seenFrom here).list path = disk.list path := by
  unfold list
  rw [find_seenFrom here absolute]
  rfl

end Disk

namespace Path

theorem isAbsolute_of_parent? {path folder : Path} (parent : path.parent? = some folder)
    (absolute : path.isAbsolute = true) : folder.isAbsolute = true := by
  obtain ⟨last, split, inside⟩ := components_eq_of_parent? parent
  rw [← isAbsolute_eq_of_components_append split (by simpa using inside.symm)]
  exact absolute

end Path

namespace Disk

/-- A change that is the same from every working folder. -/
def Edit.Anywhere {α : Type} (change : Edit α) : Prop :=
  ∀ (disk : Disk) (here : Place), change.run (disk.seenFrom here) =
    ((change.run disk).1, (change.run disk).2.seenFrom here)

namespace Edit.Anywhere

variable {α β : Type} {change : Edit α}

theorem pure (value : α) : Anywhere (pure value) := fun _ _ => rfl

theorem throw (error : FileError) : Anywhere (throw error : Edit α) := fun _ _ => rfl

theorem bind {next : α → Edit β} (first : Anywhere change) (second : ∀ value, Anywhere (next value)) :
    Anywhere (change >>= next) := by
  intro disk here
  change ExceptT.bindCont next (change.run (disk.seenFrom here)).1 (change.run (disk.seenFrom here)).2 =
    ((ExceptT.bindCont next (change.run disk).1 (change.run disk).2).1,
      (ExceptT.bindCont next (change.run disk).1 (change.run disk).2).2.seenFrom here)
  rw [first]
  cases (change.run disk).1 with
  | error => rfl
  | ok value => exact second value _ here

theorem tryCatch {handler : FileError → Edit α} (first : Anywhere change)
    (second : ∀ error, Anywhere (handler error)) : Anywhere (tryCatch change handler) := by
  intro disk here
  change (MonadExcept.tryCatch change handler).run.run (disk.seenFrom here) =
    (((MonadExcept.tryCatch change handler).run.run disk).1,
      ((MonadExcept.tryCatch change handler).run.run disk).2.seenFrom here)
  have first : change.run.run (disk.seenFrom here) =
    ((change.run.run disk).1, (change.run.run disk).2.seenFrom here) := first disk here
  rw [ExceptT.run_tryCatch, StateT.run_bind, StateT.run_bind, first]
  rcases change.run.run disk with ⟨error | value, after⟩
  · exact second error after here
  · rfl

end Edit.Anywhere

section

variable {path : Path} (absolute : path.isAbsolute = true)
include absolute

theorem anywhere_write (content : Option String) : (write path content).Anywhere := by
  intro disk here
  unfold write
  rw [Edit.run_get_bind, Edit.run_get_bind]
  simp only [locate, locateBy_seenFrom here absolute]
  split
  · split <;> rfl
  · split
    · rfl
    · rfl
    · rfl
    · next place _ =>
      by_cases folder : disk.get? place = some .folder
      · have folder' : (disk.seenFrom here).get? place = some .folder := folder
        rw [if_pos folder, if_pos folder']
        rfl
      · have folder' : (disk.seenFrom here).get? place ≠ some .folder := folder
        rw [if_neg folder, if_neg folder']
        rfl

theorem anywhere_create (entry : Entry) : (create path entry).Anywhere := by
  intro disk here
  unfold create
  rw [Edit.run_get_bind, Edit.run_get_bind, locateBy_seenFrom here absolute]
  split <;> rfl

theorem anywhere_unlessFolder (error : FileError) : (unlessFolder path error).Anywhere := by
  intro disk here
  unfold unlessFolder
  rw [Edit.run_get_bind, Edit.run_get_bind, isFolder_seenFrom here absolute]
  split <;> rfl

omit absolute in
theorem anywhere_makeFoldersWithin (depth : Nat) {path : Path} (absolute : path.isAbsolute = true) :
    (makeFoldersWithin depth path).Anywhere := by
  induction depth generalizing path with
  | zero => exact .throw _
  | succ depth ih =>
    unfold makeFoldersWithin
    split
    · exact .pure ()
    · refine .tryCatch (anywhere_create absolute _) fun error => ?_
      split
      · next parent above =>
        exact .bind (ih (Path.isAbsolute_of_parent? above absolute)) fun _ =>
          .tryCatch (anywhere_create absolute _) (anywhere_unlessFolder absolute)
      · exact anywhere_unlessFolder absolute _

theorem anywhere_makeFolders : (makeFolders path).Anywhere := anywhere_makeFoldersWithin _ absolute

end

end Disk

end Querymap
