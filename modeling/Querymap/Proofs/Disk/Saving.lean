import Querymap.Proofs.Disk.Additions

/-! Saving files one after the other. A file that is saved stands where its path leads; where several paths
lead to one place, the last of the files remains. Saving the same files once more changes nothing. -/
namespace Querymap.Disk

variable {disk before after : Disk} {path : Path} {place : Place} {content : String}
  {files : List (Path × String)}

theorem save_ok (tree : before.IsTree) (saved : (save path (some content)).run before = (.ok (), after)) :
    ∃ place, Edited (· = place) before after ∧ after.place? path = some place ∧
      after.get? place = some (.file (some content)) := by
  rw [run_save] at saved
  split at saved
  · exact write_ok tree saved
  · next folder _ =>
    have added := adds_makeFolders folder before tree
    split at saved
    · next made =>
      rw [made] at added
      obtain ⟨place, edited, leads, stands⟩ := write_ok added.tree saved
      exact ⟨place, (added.trans edited).mono fun _ _ _ either => either.elim False.elim id, leads, stands⟩
    · cases saved

def saveAll (files : List (Path × String)) : Edit Unit := files.forM fun file => save file.1 (some file.2)

theorem run_bind {α β : Type} (edit : Edit α) (next : α → Edit β) (disk : Disk) :
    (edit >>= next).run disk = match edit.run disk with
      | (.ok value, middle) => (next value).run middle
      | (.error error, middle) => (.error error, middle) := by
  change ExceptT.bindCont next (edit.run disk).1 (edit.run disk).2 = _
  rcases edit.run disk with ⟨_ | _, middle⟩ <;> rfl

theorem run_saveAll_cons (file : Path × String) (rest : List (Path × String)) (disk : Disk) :
    (saveAll (file :: rest)).run disk = match (save file.1 (some file.2)).run disk with
      | (.ok _, middle) => (saveAll rest).run middle
      | (.error error, middle) => (.error error, middle) := by
  refine (run_bind (save file.1 (some file.2)) (fun _ => saveAll rest) disk).trans ?_
  rcases (save file.1 (some file.2)).run disk with ⟨_ | _, middle⟩ <;> rfl

theorem run_saveAll_one (path : Path) (content : String) (disk : Disk) :
    (saveAll [(path, content)]).run disk = (save path (some content)).run disk := by
  rw [run_saveAll_cons]
  rcases (save path (some content)).run disk with ⟨_ | _, middle⟩ <;> rfl

theorem run_saveAll_append (files more : List (Path × String)) (disk : Disk) :
    (saveAll (files ++ more)).run disk = match (saveAll files).run disk with
      | (.ok _, middle) => (saveAll more).run middle
      | (.error error, middle) => (.error error, middle) := by
  induction files generalizing disk with
  | nil => rfl
  | cons file rest ih =>
    rw [List.cons_append, run_saveAll_cons, run_saveAll_cons]
    rcases (save file.1 (some file.2)).run disk with ⟨_ | _, middle⟩
    · rfl
    · exact ih middle

theorem saveAll_ok_cons {file : Path × String} {rest : List (Path × String)}
    (saved : (saveAll (file :: rest)).run before = (.ok (), after)) :
    ∃ middle, (save file.1 (some file.2)).run before = (.ok (), middle) ∧
      (saveAll rest).run middle = (.ok (), after) := by
  rw [run_saveAll_cons] at saved
  split at saved
  · next middle first => exact ⟨middle, first, saved⟩
  · cases saved

theorem written_saveAll (tree : before.IsTree) (saved : (saveAll files).run before = (.ok (), after)) :
    Written files before after := by
  induction files generalizing before with
  | nil =>
    cases saved
    exact .nil tree
  | cons file rest ih =>
    obtain ⟨middle, first, others⟩ := saveAll_ok_cons saved
    obtain ⟨place, edited, leads, stands⟩ := save_ok tree first
    exact .cons edited leads stands (ih edited.tree others)

theorem sound_saveAll (sound : before.Sound) (saved : (saveAll files).run before = (.ok (), after)) :
    after.Sound := by
  induction files generalizing before with
  | nil =>
    cases saved
    exact sound
  | cons file rest ih =>
    obtain ⟨middle, first, others⟩ := saveAll_ok_cons saved
    have next := sound_save sound file.1 (some file.2)
    rw [first] at next
    exact ih next others

/-- Files that are saved in folders that stand are all that changes. -/
theorem filesAt_saveAll (sound : before.Sound)
    (inside : ∀ file ∈ files, ∀ folder, file.1.parent? = some folder →
      folder.spelling = "" ∨ before.isFolder folder = true)
    (saved : (saveAll files).run before = (.ok (), after)) :
    FilesAt (fun place => ∃ file ∈ files, after.place? file.1 = some place) before after := by
  induction files generalizing before with
  | nil =>
    cases saved
    exact (FilesAt.refl _).congr fun _ => by simp
  | cons file rest ih =>
    obtain ⟨own, others⟩ := List.forall_mem_cons.1 inside
    obtain ⟨middle, first, later⟩ := saveAll_ok_cons saved
    obtain ⟨place, wrote, leads⟩ := filesAt_save sound own first
    have next := sound_save sound file.1 (some file.2)
    rw [first] at next
    have rest := ih next (fun file member folder parent =>
      (others file member folder parent).imp_right wrote.toGrows.isFolder) later
    refine (wrote.trans rest).congr fun spot => ?_
    simp only [List.mem_cons, or_and_right, exists_or, exists_eq_left, rest.toGrows.place?_eq leads,
      Option.some.injEq, @eq_comm _ place]

theorem exists_run_saveAll (tree : disk.IsTree)
    (stand : ∀ file ∈ files, ∃ place old, disk.find true file.1 = .ok (place, .file old)) :
    ∃ again, (saveAll files).run disk = (.ok (), again) := by
  induction files generalizing disk with
  | nil => exact ⟨disk, rfl⟩
  | cons file rest ih =>
    obtain ⟨⟨place, old, found⟩, others⟩ := List.forall_mem_cons.1 stand
    have first : (save file.1 (some file.2)).run disk = _ := save_of_find tree found
    obtain ⟨_, edited, _⟩ := save_ok tree first
    obtain ⟨again, later⟩ := ih edited.tree fun file member => by
      obtain ⟨place, old, found⟩ := others file member
      obtain ⟨now, found⟩ := edited.toGrows.find_file found
      exact ⟨place, now, found⟩
    refine ⟨again, ?_⟩
    rw [run_saveAll_cons, first]
    exact later

/-- Which of some files remains at a place depends only on where their paths lead. -/
theorem ReadsLast.read_eq {other : Disk} (reads : ReadsLast files disk path) (reads' : ReadsLast files other path)
    (same : ∀ file ∈ files, other.place? file.1 = disk.place? file.1)
    (equal : other.place? path = disk.place? path) : other.read path = disk.read path := by
  obtain ⟨earlier, final, later, split, led, unled, read⟩ := reads
  obtain ⟨earlier', final', later', split', led', unled', read'⟩ := reads'
  have one : final ∈ files := split ▸ List.mem_append_right _ List.mem_cons_self
  have two : final' ∈ files := split' ▸ List.mem_append_right _ List.mem_cons_self
  -- Neither of the two remaining files comes behind the other one.
  rcases List.append_eq_append_iff.1 (split.symm.trans split') with ⟨between, _, ends⟩ | ⟨between, _, ends⟩
  · rcases between with _ | ⟨first, between⟩
    · cases ends
      rw [read, read']
    · cases ends
      have behind : final' ∈ between ++ final' :: later' := List.mem_append_right _ List.mem_cons_self
      exact absurd (by rw [← same final' two, led', equal]) (unled final' behind)
  · rcases between with _ | ⟨first, between⟩
    · cases ends
      rw [read, read']
    · cases ends
      have behind : final ∈ between ++ final :: later := List.mem_append_right _ List.mem_cons_self
      exact absurd (by rw [same final one, led, equal]) (unled' final behind)

/-- Saving files once more changes nothing. -/
theorem saveAll_again (sound : before.Sound) (saved : (saveAll files).run before = (.ok (), after)) :
    ∃ again, (saveAll files).run after = (.ok (), again) ∧ ∀ place, again.get? place = after.get? place := by
  have written := written_saveAll sound.tree saved
  have sound' := sound_saveAll sound saved
  have stand : ∀ file ∈ files, ∃ place text, after.find true file.1 = .ok (place, .file (some text)) := by
    intro file member
    obtain ⟨_, final, _, _, _, _, read⟩ := written.last file member
    obtain ⟨place, found⟩ := read_eq_ok_iff_exists_find.1 read
    exact ⟨place, _, found⟩
  obtain ⟨again, saved'⟩ := exists_run_saveAll sound'.tree fun file member => by
    obtain ⟨place, text, found⟩ := stand file member
    exact ⟨place, _, found⟩
  have written' := written_saveAll sound'.tree saved'
  have wrote := filesAt_saveAll sound' (fun file member folder parent => by
    obtain ⟨place, text, found⟩ := stand file member
    obtain ⟨_, known, inside⟩ := exists_parent?_isFolder sound'.tree found
    cases parent.symm.trans known
    exact inside) saved'
  have same : ∀ file ∈ files, again.place? file.1 = after.place? file.1 := by
    intro file member
    obtain ⟨place, text, found⟩ := stand file member
    obtain ⟨located, stands⟩ := find_eq_ok_iff.1 found
    have leads := place?_eq_some_iff.2 ⟨located, _, stands⟩
    rw [leads, wrote.toGrows.place?_eq leads]
  refine ⟨again, saved', fun place => ?_⟩
  by_cases spot : ∃ file ∈ files, again.place? file.1 = some place
  · obtain ⟨file, member, leads⟩ := spot
    have leads' := (same file member).symm.trans leads
    obtain ⟨_, text, found⟩ := stand file member
    have read := read_eq_ok_iff_exists_find.2 ⟨_, found⟩
    obtain ⟨_, one, stands⟩ := read_eq_ok_iff.1 read
    obtain ⟨_, two, stands'⟩ := read_eq_ok_iff.1
      (((written.last file member).read_eq (written'.last file member) same (same file member)).trans read)
    cases one.symm.trans leads'
    cases two.symm.trans leads
    rw [stands, stands']
  · exact wrote.others place spot

end Querymap.Disk
