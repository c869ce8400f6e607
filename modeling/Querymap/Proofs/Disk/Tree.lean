import Querymap.Disk.Edit

/-! Where paths lead in a file system that grows. In a tree every entry stands in a folder, so a walk goes
from folder to folder. What a walk found it finds again after entries were added or the texts of files
changed, since it depends on no text. -/
namespace Querymap

/-- An entry but for the text of a file. -/
def Entry.shape : Entry → Entry
  | .file _ => .file none
  | entry => entry

namespace Disk

variable {disk before after : Disk} {place : Place} {entry : Entry} {follow : Bool} {path : Path}

theorem mem_entries_of_get? (found : disk.get? place = some entry) :
    place = [] ∨ (place, entry) ∈ disk.entries := by
  unfold get? at found
  split at found
  · next root => exact .inl (List.isEmpty_iff.1 root)
  · obtain ⟨earlier, later, entries, _⟩ := List.lookup_eq_some_iff.1 found
    exact .inr (entries ▸ List.mem_append_right _ List.mem_cons_self)

theorem lookup_filter_ne {other : Place} (apart : other ≠ place) (entries : List (Place × Entry)) :
    (entries.filter (·.1 != place)).lookup other = entries.lookup other := by
  induction entries with
  | nil => rfl
  | cons first rest ih =>
    obtain ⟨name, value⟩ := first
    by_cases same : name = place
    · subst same
      have skipped : (other == name) = false := beq_false_of_ne apart
      simp [List.lookup_cons, skipped, ih]
    · simp [List.lookup_cons, same, ih]

theorem get?_put (disk : Disk) (inside : place ≠ []) (entry : Entry) (other : Place) :
    (disk.put place entry).get? other = if other = place then some entry else disk.get? other := by
  by_cases root : other = []
  · subst root
    rw [if_neg inside.symm]
    rfl
  · simp only [get?, List.isEmpty_iff, if_neg root, put]
    split
    · next same => rw [same, List.lookup_cons_self]
    · next apart => rw [List.lookup_cons, beq_false_of_ne apart, lookup_filter_ne apart]

theorem advance_name {name : String} (inner : name ≠ ".") (down : name ≠ "..")
    (short : ¬nameLimit < Text.byteLength name.toList) (rest : List String) :
    disk.advance follow place (name :: rest) = match disk.get? (place ++ [name]) with
      | none => .missing (place ++ [name]) rest
      | some .folder => advance disk follow (place ++ [name]) rest
      | some (.file _) => if rest.isEmpty then .arrived (place ++ [name]) else .failed .notDirectory
      | some (.link target) =>
        if rest.isEmpty && !follow then .arrived (place ++ [name])
        else .redirected (if (⟨target⟩ : Path).isAbsolute then [] else place) (steps target ++ rest) := by
  rw [advance, if_neg inner, if_neg down]
  exact if_neg short

/-- A path that leads somewhere on one disk can be walked on every disk. -/
theorem locateBy_eq_walk {names : List String} {located : Located}
    (found : disk.locateBy follow path names = .ok located) (other : Disk) :
    other.locateBy follow path names =
      other.walk follow linkLimit (if path.isAbsolute then [] else other.here) names := by
  unfold locateBy at found ⊢
  split
  · next empty => rw [if_pos empty] at found; contradiction
  · next filled =>
    rw [if_neg filled] at found
    split
    · next invalid => rw [if_pos invalid] at found; contradiction
    · next valid =>
      rw [if_neg valid] at found
      split
      · next long => rw [if_pos long] at found; contradiction
      · rfl

/-- Every entry stands in a folder. -/
structure IsTree (disk : Disk) : Prop where
  here : disk.get? disk.here = some .folder
  parents : ∀ entry ∈ disk.entries, disk.get? entry.1.dropLast = some .folder

/-- Where a path ends in a tree: at an entry, which is no link if links are followed, or at a free name
in a folder. -/
def Located.Stands (disk : Disk) (follow : Bool) : Located → Prop
  | .found place => ∃ entry, disk.get? place = some entry ∧
      (follow = true → ∀ target, entry ≠ .link target)
  | .missing place _ => disk.get? place = none ∧ disk.get? place.dropLast = some .folder

def Progress.Stands (disk : Disk) (follow : Bool) : Progress → Prop
  | .arrived place => (Located.found place).Stands disk follow
  | .missing place rest => (Located.missing place rest).Stands disk follow
  | .redirected start _ => disk.get? start = some .folder
  | .failed _ => True

namespace IsTree

variable (tree : disk.IsTree)
include tree

theorem parent (found : disk.get? place = some entry) :
    disk.get? place.dropLast = some .folder := by
  rcases mem_entries_of_get? found with rfl | member
  · rfl
  · exact tree.parents _ member

theorem stands_advance (folder : disk.get? place = some .folder) (names : List String) :
    (disk.advance follow place names).Stands disk follow := by
  fun_induction disk.advance follow place names with
  | case1 place => exact ⟨_, folder, fun _ _ => nofun⟩
  | case2 place rest ih => exact ih folder
  | case3 place rest _ ih => exact ih (tree.parent folder)
  | case4 => trivial
  | case5 place name rest inner down short free => exact ⟨free, by rwa [List.dropLast_concat]⟩
  | case6 place name rest inner down short found ih => exact ih found
  | case7 place name rest inner down short text found => exact ⟨_, found, fun _ _ => nofun⟩
  | case8 => trivial
  | case9 place name rest inner down short target found last =>
    exact ⟨_, found, fun followed => by simp [followed] at last⟩
  | case10 place name rest inner down short target found =>
    dsimp only [Progress.Stands]
    split
    · rfl
    · exact folder

theorem stands_walk {links : Nat} {names : List String} {located : Located}
    (folder : disk.get? place = some .folder)
    (walked : disk.walk follow links place names = .ok located) : located.Stands disk follow := by
  have stands : (disk.advance follow place names).Stands disk follow := tree.stands_advance folder names
  fun_induction disk.walk follow links place names with
  | case1 links place names last advanced | case2 links place names last rest advanced =>
    cases walked
    rwa [advanced] at stands
  | case3 | case4 => cases walked
  | case5 place names start steps advanced links ih =>
    rw [advanced] at stands
    exact ih stands walked (tree.stands_advance stands steps)

theorem stands_locateBy {names : List String} {located : Located}
    (found : disk.locateBy follow path names = .ok located) : located.Stands disk follow := by
  have start : disk.get? (if path.isAbsolute then [] else disk.here) = some .folder := by
    split
    · rfl
    · exact tree.here
  rw [locateBy_eq_walk found] at found
  exact tree.stands_walk start found

end IsTree

theorem find_eq_ok_iff : disk.find follow path = .ok (place, entry) ↔
    disk.locate follow path = .ok (.found place) ∧ disk.get? place = some entry := by
  unfold find
  cases disk.locate follow path with
  | error error => exact ⟨nofun, nofun⟩
  | ok located =>
    cases located with
    | missing => exact ⟨nofun, nofun⟩
    | found last =>
      dsimp only [bind, Except.bind]
      constructor
      · intro found
        cases stands : disk.get? last with
        | none => cases stands ▸ found
        | some entry =>
          rw [stands] at found
          cases found
          exact ⟨rfl, stands⟩
      · rintro ⟨⟨⟩, stands⟩
        rw [stands]
        rfl

theorem place?_eq_some_iff : disk.place? path = some place ↔
    disk.locate true path = .ok (.found place) ∧ ∃ entry, disk.get? place = some entry := by
  simp only [← exists_and_left, ← find_eq_ok_iff, place?]
  cases disk.find true path with
  | error => exact ⟨nofun, fun ⟨_, found⟩ => nomatch found⟩
  | ok found =>
    obtain ⟨last, entry⟩ := found
    constructor
    · rintro ⟨⟩
      exact ⟨entry, rfl⟩
    · rintro ⟨_, ⟨⟩⟩
      rfl

theorem read_eq_ok_iff_exists_find {text : String} : disk.read path = .ok text ↔
    ∃ place, disk.find true path = .ok (place, .file (some text)) := by
  unfold read status
  cases disk.find true path with
  | error => exact ⟨nofun, nofun⟩
  | ok found =>
    obtain ⟨last, entry⟩ := found
    constructor
    · intro ok
      match entry with
      | .file (some content) =>
        cases ok
        exact ⟨last, rfl⟩
      | .file none | .folder | .link _ => cases ok
    · rintro ⟨_, ⟨⟩⟩
      rfl

theorem read_eq_ok_iff {text : String} : disk.read path = .ok text ↔
    ∃ place, disk.place? path = some place ∧ disk.get? place = some (.file (some text)) := by
  simp only [read_eq_ok_iff_exists_find, place?_eq_some_iff, find_eq_ok_iff]
  constructor
  · rintro ⟨place, located, stands⟩
    exact ⟨place, ⟨located, _, stands⟩, stands⟩
  · rintro ⟨place, ⟨located, _⟩, stands⟩
    exact ⟨place, located, stands⟩

theorem source_read : disk.source.read path = disk.read path := rfl

/-- The later disk has all entries of the earlier one; only texts of files differ. -/
structure Grows (before after : Disk) : Prop where
  here : after.here = before.here
  kept : ∀ place entry, before.get? place = some entry →
    (after.get? place).map Entry.shape = some entry.shape

/-- Where a path leads on a later disk, on which a file may have been made at its end. -/
inductive Located.Reaches (after : Disk) : Located → Place → Prop
  | found {place : Place} : Reaches after (.found place) place
  | made {place : Place} {text : Option String} (stands : after.get? place = some (.file text)) :
      Reaches after (.missing place []) place

namespace Grows

theorem refl (disk : Disk) : Grows disk disk :=
  ⟨rfl, fun _ _ found => by rw [found]; rfl⟩

theorem trans {middle : Disk} (first : Grows before middle) (second : Grows middle after) :
    Grows before after where
  here := second.here.trans first.here
  kept place entry found := by
    obtain ⟨now, stands, same⟩ := Option.map_eq_some_iff.1 (first.kept place entry found)
    rw [second.kept place now stands, same]

variable (grows : Grows before after)
include grows

theorem folder (found : before.get? place = some .folder) : after.get? place = some .folder := by
  obtain ⟨now, stands, same⟩ := Option.map_eq_some_iff.1 (grows.kept place _ found)
  cases now <;> cases same
  exact stands

theorem link {target : String} (found : before.get? place = some (.link target)) :
    after.get? place = some (.link target) := by
  obtain ⟨now, stands, same⟩ := Option.map_eq_some_iff.1 (grows.kept place _ found)
  cases now <;> cases same
  exact stands

theorem file {text : Option String} (found : before.get? place = some (.file text)) :
    ∃ now, after.get? place = some (.file now) := by
  obtain ⟨now, stands, same⟩ := Option.map_eq_some_iff.1 (grows.kept place _ found)
  cases now <;> cases same
  exact ⟨_, stands⟩

/-- Names are taken as before up to one that was missing. -/
theorem advance_eq {names : List String}
    (complete : ∀ missed rest, before.advance follow place names ≠ .missing missed rest) :
    after.advance follow place names = before.advance follow place names := by
  fun_induction before.advance follow place names with
  | case1 => rfl
  | case2 place rest ih => exact ih complete
  | case3 place rest _ ih => exact ih complete
  | case4 place name rest inner down long => rw [advance, if_neg inner, if_neg down, if_pos long]
  | case5 => exact absurd rfl (complete _ _)
  | case6 place name rest inner down short found ih =>
    rw [advance_name inner down short, grows.folder found]
    exact ih complete
  | case7 place name rest inner down short text found last =>
    obtain ⟨now, stands⟩ := grows.file found
    rw [advance_name inner down short, stands]
    exact if_pos last
  | case8 place name rest inner down short text found more =>
    obtain ⟨now, stands⟩ := grows.file found
    rw [advance_name inner down short, stands]
    exact if_neg more
  | case9 place name rest inner down short target found last =>
    rw [advance_name inner down short, grows.link found]
    exact if_pos last
  | case10 place name rest inner down short target found more =>
    rw [advance_name inner down short, grows.link found]
    exact if_neg more

/-- The last name was missing, and a file of that name stands there now. -/
theorem advance_made {names : List String} {made : Place} {text : Option String}
    (missing : before.advance follow place names = .missing made [])
    (stands : after.get? made = some (.file text)) :
    after.advance follow place names = .arrived made := by
  fun_induction before.advance follow place names with
  | case2 place rest ih => exact ih missing
  | case3 place rest _ ih => exact ih missing
  | case5 place name rest inner down short =>
    cases missing
    rw [advance_name inner down short, stands]
    rfl
  | case6 place name rest inner down short found ih =>
    rw [advance_name inner down short, grows.folder found]
    exact ih missing
  | case1 | case4 | case7 | case8 | case9 | case10 => cases missing

theorem walk_reaches {links : Nat} {names : List String} {located : Located} {last : Place}
    (walked : before.walk follow links place names = .ok located) (reaches : located.Reaches after last) :
    after.walk follow links place names = .ok (.found last) := by
  fun_induction before.walk follow links place names with
  | case1 links place names last advanced =>
    cases walked
    cases reaches
    rw [walk, grows.advance_eq (by simp [advanced]), advanced]
  | case2 links place names last rest advanced =>
    cases walked
    cases reaches with
    | made stands => rw [walk, grows.advance_made advanced stands]
  | case3 | case4 => cases walked
  | case5 place names start steps advanced links ih =>
    rw [walk, grows.advance_eq (by simp [advanced]), advanced]
    exact ih walked

theorem locateBy_reaches {names : List String} {located : Located} {last : Place}
    (found : before.locateBy follow path names = .ok located) (reaches : located.Reaches after last) :
    after.locateBy follow path names = .ok (.found last) := by
  rw [locateBy_eq_walk found, grows.here]
  rw [locateBy_eq_walk found] at found
  exact grows.walk_reaches found reaches

theorem place?_eq (found : before.place? path = some place) : after.place? path = some place := by
  obtain ⟨located, entry, stands⟩ := place?_eq_some_iff.1 found
  obtain ⟨now, remains, _⟩ := Option.map_eq_some_iff.1 (grows.kept place entry stands)
  exact place?_eq_some_iff.2 ⟨grows.locateBy_reaches located .found, now, remains⟩

/-- A file that was not rewritten reads as before. -/
theorem read_eq {text : String} (read : before.read path = .ok text)
    (kept : ∀ place, after.place? path = some place → before.get? place = some (.file (some text)) →
      after.get? place = some (.file (some text))) : after.read path = .ok text := by
  obtain ⟨place, leads, stands⟩ := read_eq_ok_iff.1 read
  have leads := grows.place?_eq leads
  exact read_eq_ok_iff.2 ⟨place, leads, kept place leads stands⟩

end Grows

end Disk

end Querymap
