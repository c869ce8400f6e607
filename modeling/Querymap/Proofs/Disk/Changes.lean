import Querymap.Proofs.Disk.Growth
import Querymap.Proofs.Disk.Writing

/-! Changes of one entry. Files and folders are made where nothing stands, and files are rewritten or removed,
so a path that once led to a file goes on leading to that place, or to the free name that is left of it. -/
namespace Querymap

/-- What may happen to the entry at a place. -/
inductive Entry.Changes : Option Entry → Option Entry → Prop
  | folder : Changes none (some .folder)
  | file {text : Option String} : Changes none (some (.file text))
  | text {old new : Option String} : Changes (some (.file old)) (some (.file new))
  | removal {text : Option String} : Changes (some (.file text)) none

theorem Entry.Changes.of_some {entry : Entry} {now : Option Entry} (changes : Changes (some entry) now) :
    ∃ text, entry = .file text ∧ (now = none ∨ ∃ new, now = some (.file new)) := by
  cases changes with
  | text => exact ⟨_, rfl, .inr ⟨_, rfl⟩⟩
  | removal => exact ⟨_, rfl, .inl rfl⟩

theorem Entry.Changes.of_none {now : Option Entry} (changes : Changes none now) :
    now = some .folder ∨ ∃ text, now = some (.file text) := by
  cases changes with
  | folder => exact .inl rfl
  | file => exact .inr ⟨_, rfl⟩

namespace Disk

variable {disk before after : Disk} {place last spot : Place} {entry : Entry} {follow : Bool}
  {path folder : Path} {names : List String} {name : String}

/-- Two disks that differ at one place. -/
structure Changed (spot : Place) (before after : Disk) : Prop where
  here : after.here = before.here
  own : Entry.Changes (before.get? spot) (after.get? spot)
  others : ∀ place, place ≠ spot → after.get? place = before.get? place

/-- A tree in which every entry has a name of its own. -/
structure Sound (disk : Disk) : Prop where
  tree : disk.IsTree
  named : disk.Named

namespace Changed

variable (changed : Changed spot before after)
include changed

theorem grows (stands : after.get? spot ≠ none) : Grows before after where
  here := changed.here
  kept place entry found := by
    by_cases same : place = spot
    · subst same
      obtain ⟨text, rfl, gone | ⟨new, now⟩⟩ := (found ▸ changed.own).of_some
      · contradiction
      · rw [now]
        rfl
    · rw [changed.others place same, found]
      rfl

theorem grows_of_removal (gone : after.get? spot = none) : Grows after before where
  here := changed.here.symm
  kept place entry found := by
    by_cases same : place = spot
    · subst same
      cases gone.symm.trans found
    · rw [← changed.others place same, found]
      rfl

end Changed

/-- A path leads to a place, or to a free name there. -/
def Located.EndsAt (last : Place) : Located → Prop
  | .found place => place = last
  | .missing place rest => place = last ∧ rest = []

def Progress.EndsAt (last : Place) : Progress → Prop
  | .arrived place => (Located.found place).EndsAt last
  | .missing place rest => (Located.missing place rest).EndsAt last
  | .redirected .. | .failed _ => False

theorem walk_of_endsAt {links : Nat} (ends : (disk.advance follow place names).EndsAt last) :
    ∃ now, disk.walk follow links place names = .ok now ∧ now.EndsAt last := by
  rw [walk]
  cases advanced : disk.advance follow place names with
  | arrived | missing =>
    rw [advanced] at ends
    exact ⟨_, rfl, ends⟩
  | redirected | failed =>
    rw [advanced] at ends
    contradiction

namespace Changed

variable (changed : Changed spot before after)
include changed

/-- On its way a walk passes folders and links alone, which never change. -/
theorem advance (place : Place) (names : List String) :
    (∀ last, (before.advance follow place names).EndsAt last → (after.advance follow place names).EndsAt last) ∧
      ∀ start steps, before.advance follow place names = .redirected start steps →
        after.advance follow place names = .redirected start steps := by
  have away : ∀ {place entry}, before.get? place = some entry → (∀ text, entry ≠ .file text) →
      after.get? place = some entry := by
    intro place entry found other
    by_cases same : place = spot
    · obtain ⟨text, rfl, _⟩ := (found ▸ same ▸ changed.own).of_some
      exact absurd rfl (other text)
    · rw [changed.others place same, found]
  fun_induction before.advance follow place names with
  | case1 => exact ⟨fun _ ends => ends, by simp⟩
  | case2 place rest ih =>
    rw [Disk.advance, if_pos rfl]
    exact ih
  | case3 place rest inner ih =>
    rw [Disk.advance, if_neg inner, if_pos rfl]
    exact ih
  | case4 place name rest inner down long => exact ⟨fun _ => False.elim, by simp⟩
  | case5 place name rest inner down short free =>
    refine ⟨?_, by simp⟩
    rintro _ ⟨rfl, rfl⟩
    rw [advance_name inner down short]
    by_cases same : place ++ [name] = spot
    · rcases (free ▸ same ▸ changed.own).of_none with now | ⟨text, now⟩ <;> rw [now] <;> exact rfl
    · rw [changed.others _ same, free]
      exact ⟨rfl, rfl⟩
  | case6 place name rest inner down short found ih =>
    rw [advance_name inner down short, away found (by simp)]
    exact ih
  | case7 place name rest inner down short text found ends =>
    obtain rfl := List.isEmpty_iff.1 ends
    refine ⟨?_, by simp⟩
    rintro _ rfl
    rw [advance_name inner down short]
    by_cases same : place ++ [name] = spot
    · obtain ⟨_, _, now | ⟨new, now⟩⟩ := (found ▸ same ▸ changed.own).of_some <;> rw [now]
      · exact ⟨rfl, rfl⟩
      · exact rfl
    · rw [changed.others _ same, found]
      exact rfl
  | case8 => exact ⟨fun _ => False.elim, by simp⟩
  | case9 place name rest inner down short target found ends =>
    rw [advance_name inner down short, away found (by simp)]
    dsimp only
    rw [if_pos ends]
    exact ⟨fun _ same => same, by simp⟩
  | case10 place name rest inner down short target found more =>
    rw [advance_name inner down short, away found (by simp)]
    refine ⟨fun _ => False.elim, ?_⟩
    rintro _ _ ⟨⟩
    exact if_neg more

theorem walk {links : Nat} {located : Located} (walked : before.walk follow links place names = .ok located)
    (ends : located.EndsAt last) :
    ∃ now, after.walk follow links place names = .ok now ∧ now.EndsAt last := by
  fun_induction before.walk follow links place names with
  | case1 links place names arrived advanced | case2 links place names missed rest advanced =>
    cases walked
    exact walk_of_endsAt ((changed.advance place names).1 last (by rw [advanced]; exact ends))
  | case3 | case4 => cases walked
  | case5 place names start steps advanced links ih =>
    rw [Disk.walk, (changed.advance place names).2 start steps advanced]
    exact ih walked

end Changed

/-- A path leads to a place, or at least into the folder of it. -/
def Ends (disk : Disk) (path : Path) (last : Place) : Prop :=
  ∃ located, disk.locate true path = .ok located ∧ located.EndsAt last

theorem ends_of_find (found : disk.find true path = .ok (place, entry)) : disk.Ends path place :=
  ⟨_, (find_eq_ok_iff.1 found).1, rfl⟩

theorem Ends.eq_of_find (ends : disk.Ends path last) (found : disk.find true path = .ok (place, entry)) :
    place = last := by
  obtain ⟨located, leads, same⟩ := ends
  cases (find_eq_ok_iff.1 found).1.symm.trans leads
  exact same

theorem Ends.changed (ends : before.Ends path last) (changed : Changed spot before after) :
    after.Ends path last := by
  obtain ⟨located, leads, same⟩ := ends
  have accepts := accepts_of_locateBy leads
  rw [locate, locateBy_eq accepts] at leads
  obtain ⟨now, leads, same⟩ := changed.walk leads same
  refine ⟨now, ?_, same⟩
  rwa [locate, locateBy_eq accepts, start, changed.here]

/-- A file that is found after a change elsewhere was found before it. -/
theorem Ends.find_eq (ends : before.Ends path last) (tree : before.IsTree) (changed : Changed spot before after)
    {text : Option String} (found : after.find true path = .ok (place, .file text)) (apart : place ≠ spot) :
    before.find true path = .ok (place, .file text) := by
  obtain rfl := (ends.changed changed).eq_of_find found
  have stands : before.get? place = some (.file text) := by
    rw [← changed.others place apart]
    exact (find_eq_ok_iff.1 found).2
  obtain ⟨located, leads, same⟩ := ends
  cases located with
  | found other =>
    obtain rfl : other = place := same
    exact find_eq_ok_iff.2 ⟨leads, stands⟩
  | missing other rest =>
    obtain ⟨rfl, rfl⟩ := same
    cases (tree.stands_locateBy leads).1.symm.trans stands

/-- A name between separators. -/
def Spelled (name : String) : Prop := name ≠ "" ∧ '/' ∉ name.toList

theorem spelled_of_mem_names {text : String} (member : name ∈ Disk.names text) : Spelled name := by
  rw [names_eq] at member
  obtain ⟨piece, inside, rfl⟩ := List.mem_map.1 member
  obtain ⟨inside, filled⟩ := List.mem_filter.1 inside
  refine ⟨by simpa using filled, ?_⟩
  rw [String.toList_ofList]
  exact Path.notMem_of_mem_pieces inside

theorem spelled_of_mem_steps {text : String} (member : name ∈ steps text) : Spelled name := by
  unfold steps at member
  split at member
  · rcases List.mem_append.1 member with inside | last
    · exact spelled_of_mem_names inside
    · rw [List.mem_singleton.1 last]
      exact ⟨by decide, by decide⟩
  · exact spelled_of_mem_names member

/-- A name that was missing is one of those that were taken. -/
theorem advance_names (place : Place) (names : List String) (spelled : ∀ name ∈ names, Spelled name) :
    (∀ missed rest, disk.advance follow place names = .missing missed rest →
      ∃ folder name, missed = folder ++ [name] ∧ ProperName name) ∧
    ∀ start steps, disk.advance follow place names = .redirected start steps → ∀ name ∈ steps, Spelled name := by
  fun_induction disk.advance follow place names with
  | case1 | case4 | case7 | case8 | case9 => exact ⟨by simp, by simp⟩
  | case2 place rest ih => exact ih (List.forall_mem_cons.1 spelled).2
  | case3 place rest _ ih => exact ih (List.forall_mem_cons.1 spelled).2
  | case5 place name rest inner down short free =>
    refine ⟨?_, by simp⟩
    rintro _ _ ⟨⟩
    obtain ⟨filled, whole⟩ := spelled name List.mem_cons_self
    exact ⟨place, name, rfl, inner, down, filled, whole⟩
  | case6 place name rest inner down short found ih => exact ih (List.forall_mem_cons.1 spelled).2
  | case10 place name rest inner down short target found more =>
    refine ⟨by simp, ?_⟩
    rintro _ _ ⟨⟩ name member
    rcases List.mem_append.1 member with first | later
    · exact spelled_of_mem_steps first
    · exact spelled name (List.mem_cons_of_mem _ later)

theorem walk_missing {links : Nat} {rest : List String} (spelled : ∀ name ∈ names, Spelled name)
    (walked : disk.walk follow links place names = .ok (.missing last rest)) :
    ∃ folder name, last = folder ++ [name] ∧ ProperName name := by
  fun_induction disk.walk follow links place names with
  | case1 | case3 | case4 => cases walked
  | case2 links place names missed rest advanced =>
    cases walked
    exact (advance_names place names spelled).1 _ _ advanced
  | case5 place names start steps advanced links ih =>
    exact ih ((advance_names place names spelled).2 _ _ advanced) walked

namespace Sound

variable (sound : disk.Sound)
include sound

theorem proper (stands : disk.get? place = some entry) : ∀ name ∈ place, ProperName name := by
  rcases mem_entries_of_get? stands with rfl | member
  · exact nofun
  · exact sound.named _ member

/-- A free place that a path leads to has a name for an entry. -/
theorem proper_of_missing {rest : List String} (spelled : ∀ name ∈ names, Spelled name)
    (located : disk.locateBy follow path names = .ok (.missing place rest)) :
    ∀ name ∈ place, ProperName name := by
  obtain ⟨_, inside⟩ := sound.tree.stands_locateBy located
  rw [locateBy_eq_walk located] at located
  obtain ⟨folder, name, rfl, proper⟩ := walk_missing spelled located
  rw [List.dropLast_concat] at inside
  exact List.forall_mem_append.2 ⟨sound.proper inside, List.forall_mem_singleton.2 proper⟩

theorem put (fits : disk.Fits place entry) (proper : ∀ name ∈ place, ProperName name) :
    (disk.put place entry).Sound where
  tree := (fits.edited sound.tree).tree
  named := by
    intro other member
    rcases List.mem_cons.1 member with rfl | member
    · exact proper
    · exact sound.named other (List.mem_filter.1 member).1

end Sound

/-- A folder is made at a free place that a path leads to. -/
theorem changed_folder (sound : disk.Sound)
    (located : disk.locateBy follow path (Disk.names path.spelling) = .ok (.missing place [])) :
    Changed place disk (disk.put place .folder) ∧ (disk.put place .folder).Sound ∧
      (disk.put place .folder).get? place = some .folder := by
  obtain ⟨free, inside⟩ := sound.tree.stands_locateBy located
  have fits : disk.Fits place .folder := .free inside free
  have stands : (disk.put place .folder).get? place = some .folder := by
    rw [get?_put disk fits.ne_nil, if_pos rfl]
  refine ⟨⟨rfl, ?_, fun other apart => ?_⟩, sound.put fits ?_, stands⟩
  · rw [free, stands]
    exact .folder
  · rw [get?_put disk fits.ne_nil, if_neg apart]
  · exact sound.proper_of_missing (fun _ => spelled_of_mem_names) located

/-- A write that fails changes nothing. -/
theorem write_error {content : Option String} {error : FileError}
    (failed : (write path content).run disk = (.error error, after)) : after = disk := by
  unfold write at failed
  rw [Edit.run_get_bind] at failed
  split at failed
  · split at failed <;> cases failed <;> rfl
  · split at failed
    · cases failed
      rfl
    · cases failed
    · cases failed
      rfl
    · split at failed <;> cases failed
      rfl

/-- A file is written where its path leads. -/
theorem changed_write {content : Option String} (sound : disk.Sound)
    (written : (write path content).run disk = (.ok (), after)) :
    ∃ place, Changed place disk after ∧ after.Sound ∧ after.place? path = some place ∧
      after.get? place = some (.file content) := by
  obtain ⟨place, located, fits, rfl, found, ends⟩ := write_puts sound.tree written
  obtain ⟨leads, stands⟩ := place?_put fits found ends
  have own : Entry.Changes (disk.get? place) (some (.file content)) := by
    cases fits with
    | free _ free =>
      rw [free]
      exact .file
    | file old =>
      rw [old]
      exact .text
  refine ⟨place, ⟨rfl, stands ▸ own, fun other apart => ?_⟩, sound.put fits ?_, leads, stands⟩
  · rw [get?_put disk fits.ne_nil, if_neg apart]
  · rcases ends with rfl | rfl
    · obtain ⟨entry, stands, _⟩ := sound.tree.stands_locateBy found
      exact sound.proper stands
    · exact sound.proper_of_missing (fun _ => spelled_of_mem_steps) found

theorem lookup_filter_prefix (place other : Place) (entries : List (Place × Entry)) :
    (entries.filter (!place.isPrefixOf ·.1)).lookup other =
      if place <+: other then none else entries.lookup other := by
  induction entries with
  | nil => simp
  | cons first rest ih =>
    obtain ⟨name, value⟩ := first
    by_cases below : place <+: name
    · rw [List.filter_cons_of_neg (by simpa [List.isPrefixOf_iff_prefix] using below), ih]
      split
      · rfl
      · next outside =>
        have skipped : (other == name) = false := beq_false_of_ne fun same => outside (same ▸ below)
        rw [List.lookup_cons, skipped]
    · have apart : place.isPrefixOf name = false :=
        Bool.eq_false_iff.2 fun leads => below (List.isPrefixOf_iff_prefix.1 leads)
      rw [List.filter_cons_of_pos (by simp [apart]), List.lookup_cons, List.lookup_cons, ih]
      split
      · next same =>
        rw [if_neg (beq_iff_eq.1 same ▸ below)]
      · rfl

/-- Only folders have entries below them. -/
theorem IsTree.folder_above (tree : disk.IsTree) {other : Place} (stands : disk.get? other = some entry)
    (leads : place <+: other) (apart : place ≠ other) : disk.get? place = some .folder := by
  induction other using List.reverseRecOn generalizing entry with
  | nil => exact absurd (List.prefix_nil.1 leads) apart
  | append_singleton parent name ih =>
    have inside : disk.get? parent = some .folder := by simpa using tree.parent stands
    have leads := (List.prefix_concat_iff.1 leads).resolve_left apart
    by_cases same : place = parent
    · exact same ▸ inside
    · exact ih inside leads same

theorem get?_remove {text : Option String} (found : disk.find false path = .ok (place, .file text))
    (other : Place) : (disk.remove path).get? other = if place <+: other then none else disk.get? other := by
  have filled : place ≠ [] := by
    rintro rfl
    cases (find_eq_ok_iff.1 found).2
  by_cases root : other = []
  · subst root
    rw [if_neg fun leads => filled (List.prefix_nil.1 leads)]
    rfl
  · rw [remove, found]
    simp only [get?, List.isEmpty_iff, if_neg root]
    exact lookup_filter_prefix ..

/-- A file is removed and nothing else. -/
theorem changed_remove {text : Option String} (sound : disk.Sound)
    (found : disk.find false path = .ok (place, .file text)) :
    Changed place disk (disk.remove path) ∧ (disk.remove path).Sound ∧ (disk.remove path).get? place = none := by
  have stands := (find_eq_ok_iff.1 found).2
  have gone : (disk.remove path).get? place = none := by
    rw [get?_remove found, if_pos (List.prefix_refl _)]
  have kept : ∀ other, other ≠ place → (disk.remove path).get? other = disk.get? other := by
    intro other apart
    rw [get?_remove found]
    split
    · next leads =>
      cases below : disk.get? other with
      | none => rfl
      | some entry => cases stands.symm.trans (sound.tree.folder_above below leads apart.symm)
    · rfl
  have folder : ∀ other, disk.get? other = some .folder → (disk.remove path).get? other = some .folder := by
    intro other inside
    rw [kept other, inside]
    rintro rfl
    cases stands.symm.trans inside
  have here : (disk.remove path).here = disk.here := by rw [remove, found]
  have listed : ∀ entry ∈ (disk.remove path).entries, entry ∈ disk.entries := by
    rw [remove, found]
    exact fun _ member => (List.mem_filter.1 member).1
  refine ⟨⟨here, ?_, kept⟩, ⟨⟨?_, fun entry member => ?_⟩, fun entry member => ?_⟩, gone⟩
  · rw [stands, gone]
    exact .removal
  · rw [here]
    exact folder _ sound.tree.here
  · exact folder _ (sound.tree.parents entry (listed entry member))
  · exact sound.named entry (listed entry member)

section

variable {old content : Option String}

theorem exists_locateBy_of_isFolder (tree : disk.IsTree) (inside : disk.isFolder path = true) :
    ∃ last, disk.locateBy false path (Disk.names path.spelling) = .ok (.found last) := by
  obtain ⟨place, found⟩ := isFolder_iff.1 inside
  have accepts := accepts_of_find found
  obtain ⟨walked, _⟩ := (find_iff accepts).1 found
  rw [locateBy_eq accepts]
  unfold steps at walked
  split at walked
  · exact walk_own ((walk_concat_dot tree (tree.start path)).1 walked).1
  · exact walk_own walked

/-- A folder that stands already is left as it is. -/
theorem makeFolders_of_isFolder (tree : disk.IsTree) (inside : disk.isFolder folder = true) :
    (makeFolders folder).run disk = (.ok (), disk) := by
  obtain ⟨last, located⟩ := exists_locateBy_of_isFolder tree inside
  have filled : folder.spelling.isEmpty = false := by
    simpa using (accepts_of_locateBy located).filled
  have refused : (create folder .folder).run disk = (.error .alreadyExists, disk) := by
    rw [create, Edit.run_get_bind, located]
    rfl
  have settled : (unlessFolder folder .alreadyExists).run disk = (.ok (), disk) := by
    rw [unlessFolder, Edit.run_get_bind, inside]
    rfl
  rw [makeFolders, makeFoldersWithin, filled, if_neg Bool.false_ne_true]
  change StateT.run (ExceptT.run (tryCatch (create folder .folder) _)) disk = _
  rw [ExceptT.run_tryCatch, StateT.run_bind]
  change StateT.run (ExceptT.run _) disk = _ at refused
  rw [refused]
  exact settled

theorem makeFolders_of_stands (tree : disk.IsTree)
    (inside : folder.spelling = "" ∨ disk.isFolder folder = true) :
    (makeFolders folder).run disk = (.ok (), disk) := by
  rcases inside with empty | inside
  · rw [makeFolders, makeFoldersWithin, empty]
    rfl
  · exact makeFolders_of_isFolder tree inside

/-- A file is written over. -/
theorem write_of_find (tree : disk.IsTree) (found : disk.find true path = .ok (place, .file old)) :
    (write path content).run disk = (.ok (), disk.put place (.file content)) := by
  have bare := bare_of_find tree found
  obtain ⟨located, stands⟩ := find_eq_ok_iff.1 found
  have open? : endsInSeparator path.spelling = false := by
    refine Bool.eq_false_iff.2 fun ends => ?_
    by_cases none : Disk.names path.spelling = []
    · obtain ⟨walked, _⟩ := (find_iff (accepts_of_find found)).1 found
      have here : disk.walk true linkLimit (disk.start path) (steps path.spelling) =
          .ok (.found (disk.start path)) := by
        rw [steps, none, linkLimit, walk_succ]
        simp [advance, Progress.settle]
      cases here.symm.trans walked
      cases (tree.start path).symm.trans stands
    · rw [Bare, steps, ends, if_pos (by simpa using none)] at bare
      exact bare List.getLast?_concat
  rw [write, Edit.run_get_bind, open?, located]
  simp only [stands]
  rfl

/-- A file stands in a folder, which may be the working folder. -/
theorem exists_parent?_isFolder (tree : disk.IsTree) (found : disk.find true path = .ok (place, .file old)) :
    ∃ folder, path.parent? = some folder ∧ (folder.spelling = "" ∨ disk.isFolder folder = true) := by
  obtain ⟨folder, _, middle, parent, start, _, _, _, reached, inside⟩ := (aims_of_find tree found).parent tree
  refine ⟨folder, parent, or_iff_not_imp_left.2 fun filled => ?_⟩
  have accepts := (accepts_of_find found).of_sublist filled (Path.parent?_prefix parent).sublist
  exact (isFolder_iff_route tree accepts).2 ⟨middle, start ▸ reached, inside⟩

/-- Writes a file with the folders that it needs. -/
def save (path : Path) (content : Option String) : Edit Unit := do
  match path.parent? with
  | none => pure ()
  | some folder => makeFolders folder
  write path content

/-- A file is written or removed. Writing may fail and leave new folders behind. -/
inductive FileEdit (before : Disk) (path : Path) : Disk → Prop
  | save (content : Option String) : FileEdit before path ((save path content).run before).2
  | remove {place : Place} {text : Option String} (found : before.find false path = .ok (place, .file text)) :
      FileEdit before path (before.remove path)

theorem run_save (path : Path) (content : Option String) (disk : Disk) :
    (save path content).run disk = match path.parent? with
      | none => (write path content).run disk
      | some folder => match (makeFolders folder).run disk with
        | (.ok (), middle) => (write path content).run middle
        | (.error error, middle) => (.error error, middle) := by
  unfold save
  cases path.parent? with
  | none => rfl
  | some folder =>
    change ExceptT.bindCont (fun _ => write path content) ((makeFolders folder).run disk).1
      ((makeFolders folder).run disk).2 = _
    dsimp only
    rcases (makeFolders folder).run disk with ⟨_ | _, middle⟩ <;> rfl

/-- A file is written over, and all folders that it needs are there. -/
theorem save_of_find (tree : disk.IsTree) (found : disk.find true path = .ok (place, .file old)) :
    (save path content).run disk = (.ok (), disk.put place (.file content)) := by
  obtain ⟨folder, parent, inside⟩ := exists_parent?_isFolder tree found
  rw [run_save, parent]
  dsimp only
  rw [makeFolders_of_stands tree inside]
  exact write_of_find tree found

end

end Disk

end Querymap
