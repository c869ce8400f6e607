import Querymap.Proofs.Disk.Lexical

/-! What can be found on a disk is found on every later one, in the same place. A folder of the earlier disk
lists those names of the later one under which something stood before. -/
namespace Querymap.Disk

variable {disk before after : Disk} {path folder : Path} {place : Place} {entry : Entry} {follow : Bool}
  {name : String}

theorem eq_of_increasing {a b : List String} (sorted : a.Pairwise (· < ·)) (sorted' : b.Pairwise (· < ·))
    (same : ∀ text, text ∈ a ↔ text ∈ b) : a = b := by
  have distinct {texts : List String} (sorted : texts.Pairwise (· < ·)) : texts.Nodup :=
    sorted.imp fun less => String.ne_of_lt less
  refine List.Perm.eq_of_pairwise ?_ sorted sorted'
    ((List.perm_ext_iff_of_nodup (distinct sorted) (distinct sorted')).2 same)
  intro a b _ _ less more
  exact absurd (String.lt_trans less more) (String.lt_irrefl a)

section

variable (grows : Grows before after)
include grows

theorem Grows.find (found : before.find follow path = .ok (place, entry)) :
    ∃ now, after.find follow path = .ok (place, now) ∧ now.shape = entry.shape := by
  obtain ⟨located, stands⟩ := find_eq_ok_iff.1 found
  obtain ⟨now, remains, same⟩ := Option.map_eq_some_iff.1 (grows.kept place entry stands)
  exact ⟨now, find_eq_ok_iff.2 ⟨grows.locateBy_reaches located .found, remains⟩, same⟩

theorem Grows.find_folder (found : before.find follow path = .ok (place, .folder)) :
    after.find follow path = .ok (place, .folder) := by
  obtain ⟨now, found, same⟩ := grows.find found
  cases now <;> cases same
  exact found

theorem Grows.find_file {text : Option String} (found : before.find follow path = .ok (place, .file text)) :
    ∃ now, after.find follow path = .ok (place, .file now) := by
  obtain ⟨now, found, same⟩ := grows.find found
  cases now <;> cases same
  exact ⟨_, found⟩

theorem Grows.isFolder (inside : before.isFolder path = true) : after.isFolder path = true := by
  obtain ⟨place, found⟩ := isFolder_iff.1 inside
  exact isFolder_iff.2 ⟨place, grows.find_folder found⟩

theorem Grows.isFile (exact : before.isFile path = true) : after.isFile path = true := by
  obtain ⟨place, text, found⟩ := isFile_iff.1 exact
  obtain ⟨now, found⟩ := grows.find_file found
  exact isFile_iff.2 ⟨place, now, found⟩

theorem Grows.ownStatus_folder (stands : before.ownStatus path = .ok .folder) :
    after.ownStatus path = .ok .folder := by
  obtain ⟨place, found⟩ := ownStatus_eq_ok_iff.1 stands
  exact ownStatus_eq_ok_iff.2 ⟨place, grows.find_folder found⟩

/-- Where a folder stands, the earlier disk has no other entry. -/
theorem Grows.ownStatus_eq (stands : before.ownStatus path = .ok entry)
    (inside : after.ownStatus path = .ok .folder) : entry = .folder := by
  obtain ⟨place, found⟩ := ownStatus_eq_ok_iff.1 stands
  obtain ⟨other, known⟩ := ownStatus_eq_ok_iff.1 inside
  obtain ⟨now, found, same⟩ := grows.find found
  cases found.symm.trans known
  cases entry <;> cases same
  rfl

theorem Grows.namesBelow (place : Place) : before.namesBelow place =
    (after.namesBelow place).filter fun name => (before.get? (place ++ [name])).isSome := by
  have sorted (disk : Disk) : (disk.namesBelow place).Pairwise (· < ·) := Dict.keys_sorted _
  apply eq_of_increasing (sorted before) ((sorted after).filter _)
  intro name
  rw [List.mem_filter, mem_namesBelow, mem_namesBelow]
  refine ⟨fun stands => ⟨?_, stands⟩, (·.2)⟩
  obtain ⟨entry, stands⟩ := Option.isSome_iff_exists.1 stands
  obtain ⟨now, stands, _⟩ := Option.map_eq_some_iff.1 (grows.kept _ entry stands)
  rw [stands]
  rfl

end

theorem isFile_eq_false_of_isFolder (inside : disk.isFolder path = true) : disk.isFile path = false := by
  refine Bool.eq_false_iff.2 fun exact => ?_
  obtain ⟨_, found⟩ := isFolder_iff.1 inside
  obtain ⟨_, _, known⟩ := isFile_iff.1 exact
  cases found.symm.trans known

theorem list_eq_ok_iff {names : List String} : disk.list path = .ok names ↔
    ∃ place, disk.find true path = .ok (place, .folder) ∧ names = disk.namesBelow place := by
  unfold list
  cases disk.find true path with
  | error => exact ⟨nofun, fun ⟨_, found, _⟩ => nomatch found⟩
  | ok found =>
    obtain ⟨place, entry⟩ := found
    cases entry with
    | folder =>
      constructor
      · rintro ⟨⟩
        exact ⟨place, rfl, rfl⟩
      · rintro ⟨_, ⟨⟩, rfl⟩
        rfl
    | file | link => exact ⟨nofun, fun ⟨_, found, _⟩ => nomatch found⟩

/-- A link at the end is where a walk that follows none arrives. -/
theorem advance_own (disk : Disk) (place : Place) (names : List String) :
    disk.advance false place names = disk.advance true place names ∨
      ∃ last, disk.advance false place names = .arrived last := by
  fun_induction disk.advance true place names with
  | case1 => exact .inl rfl
  | case2 place rest ih =>
    rw [advance, if_pos rfl]
    exact ih
  | case3 place rest inner ih =>
    rw [advance, if_neg inner, if_pos rfl]
    exact ih
  | case4 place name rest inner down long =>
    rw [advance, if_neg inner, if_neg down, if_pos long]
    exact .inl rfl
  | case5 place name rest inner down short found =>
    rw [advance_name inner down short, found]
    exact .inl rfl
  | case6 place name rest inner down short found ih =>
    rw [advance_name inner down short, found]
    exact ih
  | case7 place name rest inner down short text found last =>
    rw [advance_name inner down short, found]
    exact .inl (if_pos last)
  | case8 place name rest inner down short text found more =>
    rw [advance_name inner down short, found]
    exact .inl (if_neg more)
  | case9 place name rest inner down short target found last => simp at last
  | case10 place name rest inner down short target found more =>
    rw [advance_name inner down short, found]
    dsimp only
    split
    · exact .inr ⟨_, rfl⟩
    · exact .inl rfl

theorem walk_own {links : Nat} {names : List String} {last : Place}
    (walked : disk.walk true links place names = .ok (.found last)) :
    ∃ own, disk.walk false links place names = .ok (.found own) := by
  fun_induction disk.walk true links place names with
  | case1 links place names last advanced =>
    rw [walk]
    rcases disk.advance_own place names with same | ⟨own, arrived⟩
    · rw [same, advanced]
      exact ⟨_, rfl⟩
    · rw [arrived]
      exact ⟨_, rfl⟩
  | case2 | case3 | case4 => cases walked
  | case5 place names start steps advanced links ih =>
    rw [walk]
    rcases disk.advance_own place names with same | ⟨own, arrived⟩
    · rw [same, advanced]
      exact ih walked
    · rw [arrived]
      exact ⟨_, rfl⟩

/-- A path leads somewhere only if something stands at its end. -/
theorem exists_ownStatus (tree : disk.IsTree) (found : disk.find true path = .ok (place, entry)) :
    ∃ own, disk.ownStatus path = .ok own := by
  obtain ⟨last, walked⟩ := walk_own ((find_iff (accepts_of_find found)).1 found).1
  have own : disk.locate false path = .ok (.found last) :=
    (locateBy_eq (accepts_of_find found) disk false (steps path.spelling)).trans walked
  obtain ⟨entry, stands, _⟩ := tree.stands_locateBy own
  exact ⟨entry, ownStatus_eq_ok_iff.2 ⟨last, find_eq_ok_iff.2 ⟨own, stands⟩⟩⟩

/-- No link is left where a walk that follows none arrives at a folder. -/
theorem advance_folder {names : List String} {last : Place}
    (arrived : disk.advance false place names = .arrived last) (inside : disk.get? last = some .folder) :
    disk.advance true place names = .arrived last := by
  fun_induction disk.advance false place names with
  | case1 => exact arrived
  | case2 place rest ih =>
    rw [advance, if_pos rfl]
    exact ih arrived
  | case3 place rest inner ih =>
    rw [advance, if_neg inner, if_pos rfl]
    exact ih arrived
  | case6 place name rest inner down short found ih =>
    rw [advance_name inner down short, found]
    exact ih arrived
  | case7 place name rest inner down short text found last =>
    cases arrived
    cases found.symm.trans inside
  | case9 place name rest inner down short target found last =>
    cases arrived
    cases found.symm.trans inside
  | case4 | case5 | case8 | case10 => cases arrived

theorem walk_folder {links : Nat} {names : List String} {last : Place}
    (walked : disk.walk false links place names = .ok (.found last)) (inside : disk.get? last = some .folder) :
    disk.walk true links place names = .ok (.found last) := by
  fun_induction disk.walk false links place names with
  | case1 links place names last advanced =>
    cases walked
    rw [walk, advance_folder advanced inside]
  | case2 | case3 | case4 => cases walked
  | case5 place names start steps advanced links ih =>
    have same : disk.advance true place names = disk.advance false place names := by
      rcases disk.advance_own place names with same | ⟨own, arrived⟩
      · exact same.symm
      · cases arrived.symm.trans advanced
    rw [walk, same, advanced]
    exact ih walked

/-- A folder that is found without following a link at the end is found either way. -/
theorem find_folder (found : disk.find false path = .ok (place, .folder)) :
    disk.find true path = .ok (place, .folder) := by
  have accepts := accepts_of_find found
  obtain ⟨walked, inside⟩ := (find_iff accepts).1 found
  exact (find_iff accepts).2 ⟨walk_folder walked inside, inside⟩

theorem isFolder_of_ownStatus (stands : disk.ownStatus path = .ok .folder) : disk.isFolder path = true := by
  obtain ⟨place, found⟩ := ownStatus_eq_ok_iff.1 stands
  exact isFolder_iff.2 ⟨place, find_folder found⟩

/-- How many entries lie below a place. -/
def weight (disk : Disk) (place : Place) : Nat :=
  (disk.entries.filter fun entry => place.isPrefixOf entry.1 && entry.1 != place).length

theorem weight_le (disk : Disk) (place : Place) : disk.weight place ≤ disk.entries.length :=
  List.length_filter_le _ _

/-- Fewer entries lie below an entry than below the folder that it is in. -/
theorem weight_concat_lt (stands : disk.get? (place ++ [name]) = some entry) :
    disk.weight (place ++ [name]) < disk.weight place := by
  have member := (mem_entries_of_get? stands).resolve_left (by simp)
  have inner : (disk.entries.filter fun entry =>
      (place ++ [name]).isPrefixOf entry.1 && entry.1 != place ++ [name]) =
        (disk.entries.filter fun entry => place.isPrefixOf entry.1 && entry.1 != place).filter fun entry =>
          (place ++ [name]).isPrefixOf entry.1 && entry.1 != place ++ [name] := by
    rw [List.filter_filter]
    refine List.filter_congr fun other _ => ?_
    rw [Bool.eq_iff_iff, Bool.and_eq_true, Bool.and_eq_true, Bool.and_eq_true, Bool.and_eq_true]
    refine ⟨fun ⟨leads, apart⟩ => ⟨⟨leads, apart⟩, ?_, ?_⟩, (·.1)⟩
    · exact List.isPrefixOf_iff_prefix.2
        ((List.prefix_append _ _).trans (List.isPrefixOf_iff_prefix.1 leads))
    · refine bne_iff_ne.2 fun same => ?_
      have shorter := (List.isPrefixOf_iff_prefix.1 leads).length_le
      rw [same, List.length_append, List.length_singleton] at shorter
      omega
  unfold weight
  rw [inner, List.length_filter_lt_length_iff_exists]
  refine ⟨(place ++ [name], entry), List.mem_filter.2 ⟨member, ?_⟩, by simp⟩
  simp [List.isPrefixOf_iff_prefix]

/-- What a joined path leads to is reached by way of the folder before it, also if nothing was joined. -/
theorem isFolder_of_find_join {text : String} (tree : disk.IsTree) (filled : folder.spelling ≠ "")
    (relative : (⟨text⟩ : Path).isAbsolute = false)
    (found : disk.find follow (folder.join ⟨text⟩) = .ok (place, entry)) : disk.isFolder folder = true := by
  by_cases given : text = ""
  · subst given
    have accepts := accepts_of_find found
    have walked := ((find_iff accepts).1 found).1
    rw [start_join filled relative] at walked
    suffices reached : ∃ last, disk.walk true linkLimit (disk.start folder) (names folder.spelling) =
        .ok (.found last) ∧ disk.get? last = some .folder by
      obtain ⟨last, walked, inside⟩ := reached
      refine isFolder_iff.2 ⟨last, (find_iff (accepts_of_join filled relative accepts)).2 ⟨?_, inside⟩⟩
      unfold steps
      split
      · exact (walk_concat_dot tree (tree.start folder)).2 ⟨walked, inside⟩
      · exact walked
    have joined : names (folder.join ⟨""⟩).spelling = names folder.spelling := by
      rw [names_join filled relative]
      exact List.append_nil _
    by_cases none : names folder.spelling = []
    · refine ⟨disk.start folder, ?_, tree.start folder⟩
      rw [none, linkLimit, walk_succ, advance]
      rfl
    · have ends : endsInSeparator (folder.join ⟨""⟩).spelling = true := by
        obtain ⟨before, spelled, _⟩ := toList_join filled relative
        rw [endsInSeparator, spelled]
        simp
      rw [steps, ends, joined, if_pos (by simpa using none)] at walked
      obtain ⟨last, _, reached, inside, _⟩ :=
        walk_prefix tree (tree.start folder) (List.cons_ne_nil _ _) walked
      exact ⟨last, reached, inside⟩
  · obtain ⟨parent, _, known, _⟩ := find_join tree filled relative given found
    exact isFolder_iff.2 ⟨parent, known⟩

end Querymap.Disk
