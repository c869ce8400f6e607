import Mathlib.Data.List.Induction
import Querymap.Proofs.Disk.Names

/-! What can be told of a path from its text. Dots make no difference to a folder either, a file stands in
the folder that its parent leads to, and without links every path leads to the place that it spells out. -/
namespace Querymap

namespace Path

theorem parent?_prefix {path folder : Path} (parent : path.parent? = some folder) :
    folder.spelling.toList <+: path.spelling.toList := by
  unfold parent? at parent
  split at parent
  · contradiction
  · contradiction
  · cases parent
    exact List.nil_prefix
  · cases parent
    simpa using List.take_prefix _ _

theorem components_eq_of_parent? {path folder : Path} (parent : path.parent? = some folder) :
    ∃ last, path.components = folder.components ++ [last] ∧ last ≠ .root := by
  have upper := components_parent? path
  rw [parent, Option.map_some] at upper
  unfold above at upper
  split at upper
  · contradiction
  · contradiction
  · next last rest inside reversed =>
    refine ⟨last, ?_, fun root => inside (by rw [← root])⟩
    rw [← List.reverse_reverse path.components, reversed, List.reverse_cons, Option.some.inj upper]

theorem isAbsolute_eq_of_components_append {a b : Path} {rest : List Component}
    (split : a.components = b.components ++ rest) (inside : .root ∉ rest) :
    a.isAbsolute = b.isAbsolute := by
  rw [Bool.eq_iff_iff, ← root_mem_components_iff, ← root_mem_components_iff, split, List.mem_append,
    or_iff_left inside]

theorem above_cons {last : Component} {rest : List Component} (inside : last ≠ .root) :
    above (last :: rest) = some rest.reverse := by
  cases last with
  | root => contradiction
  | current | parent | name => rfl

theorem current_notMem_pieceComponents (pieces : List (List Char)) :
    .current ∉ pieceComponents false pieces := by
  induction pieces with
  | nil => exact List.not_mem_nil
  | cons piece rest ih =>
    rw [pieceComponents, List.mem_append, not_or]
    refine ⟨?_, ih⟩
    unfold Component.ofPiece
    split <;> simp

theorem root_notMem_pieceComponents (leading : Bool) (pieces : List (List Char)) :
    .root ∉ pieceComponents leading pieces := by
  induction pieces generalizing leading with
  | nil => exact List.not_mem_nil
  | cons piece rest ih =>
    rw [pieceComponents, List.mem_append, not_or]
    refine ⟨?_, ih false⟩
    rcases Component.ofPiece_cases leading piece with none | ⟨component, one⟩
    · rw [none]
      exact List.not_mem_nil
    · rw [one, List.mem_singleton]
      rintro rfl
      exact Component.ofPiece_ne_root one

/-- A root leads a path. -/
theorem eq_nil_of_root {path : Path} {before after : List Component}
    (split : path.components = before ++ .root :: after) : before = [] := by
  obtain ⟨marked, rest, marks, rfl, others⟩ := List.map_eq_append_iff.1 split
  obtain ⟨⟨component, stop⟩, later, rfl, same, _⟩ := List.map_eq_cons_iff.1 others
  obtain rfl : component = .root := same
  rw [(root_marks marks).1, List.map_nil]

/-- A dot that counts leads a path. -/
theorem eq_nil_of_current {path : Path} {before after : List Component}
    (split : path.components = before ++ .current :: after) : before = [] := by
  rcases before with _ | ⟨first, before⟩
  · rfl
  rw [List.cons_append, components_eq] at split
  have later : ∀ pieces : List (List Char), pieceComponents false pieces ≠ before ++ .current :: after :=
    fun pieces same => current_notMem_pieceComponents pieces (same ▸ List.mem_append_right _ List.mem_cons_self)
  split at split
  · exact absurd (List.cons.inj split).2 (later _)
  · obtain ⟨piece, rest, cut⟩ := List.exists_cons_of_ne_nil (pieces_ne_nil path.spelling.toList)
    rw [cut, pieceComponents] at split
    rcases Component.ofPiece_cases true piece with none | ⟨component, one⟩
    · rw [none, List.nil_append] at split
      have member : .current ∈ pieceComponents false rest := by simp [split]
      exact absurd member (current_notMem_pieceComponents rest)
    · rw [one] at split
      exact absurd (List.cons.inj split).2 (later _)

end Path

namespace Disk

section

variable {disk : Disk} {follow : Bool} {links : Nat} {place last : Place} {names others : List String}
  {path folder : Path} {entry : Entry}

/-- Further names are taken from a folder. -/
theorem walk_prefix (tree : disk.IsTree) (stands : disk.get? place = some .folder) (more : others ≠ [])
    (walked : disk.walk follow links place (names ++ others) = .ok (.found last)) :
    ∃ middle left, disk.walk true links place names = .ok (.found middle) ∧
      disk.get? middle = some .folder ∧ disk.walk follow left middle others = .ok (.found last) := by
  obtain ⟨left, goes⟩ := walk_append tree stands links names
  rw [goes follow others more] at walked
  cases reached : disk.walk true links place names with
  | error => rw [reached] at walked; contradiction
  | ok located =>
    rw [reached] at walked
    cases located with
    | missing => cases walked
    | found middle =>
      dsimp only [bind, Except.bind, Located.onward] at walked
      split at walked
      · next inside => exact ⟨middle, left, rfl, inside, walked⟩
      · contradiction

theorem walk_dot : disk.walk follow links place ["."] = .ok (.found place) := by
  cases links <;> simp [walk_zero, walk_succ, advance, Progress.settle]

theorem walk_concat_dot (tree : disk.IsTree) (stands : disk.get? place = some .folder) :
    disk.walk true links place (names ++ ["."]) = .ok (.found last) ↔
      disk.walk true links place names = .ok (.found last) ∧ disk.get? last = some .folder := by
  constructor
  · intro walked
    obtain ⟨middle, left, reached, inside, rest⟩ := walk_prefix tree stands (List.cons_ne_nil _ _) walked
    cases walk_dot.symm.trans rest
    exact ⟨reached, inside⟩
  · rintro ⟨reached, inside⟩
    obtain ⟨left, goes⟩ := walk_append tree stands links names
    rw [goes true ["."] (List.cons_ne_nil _ _), reached]
    exact (if_pos inside).trans walk_dot

/-- Dots make no difference to a folder. -/
theorem walk_folder_iff (tree : disk.IsTree) (stands : disk.get? place = some .folder)
    (names : List String) :
    (disk.walk true links place (names.filter (· ≠ ".")) = .ok (.found last) ∧
        disk.get? last = some .folder) ↔
      disk.walk true links place names = .ok (.found last) ∧ disk.get? last = some .folder := by
  induction names using List.reverseRecOn with
  | nil => rfl
  | append_singleton names name ih =>
    by_cases dot : name = "."
    · subst dot
      rw [List.filter_append, walk_concat_dot tree stands]
      simpa using ih
    · have bare : Bare (names ++ [name]) := by simpa [Bare] using dot
      rw [(Thins.of_bare bare).walk]

theorem isFolder_iff_route (tree : disk.IsTree) (accepts : Accepts path) : disk.isFolder path = true ↔
    ∃ last, disk.walk true linkLimit (disk.start path) path.route = .ok (.found last) ∧
      disk.get? last = some .folder := by
  simp only [isFolder_iff, find_iff accepts, route_eq_steps, walk_folder_iff tree (tree.start path)]

theorem isFolder_of_leading_route (tree : disk.IsTree) (accepts : Accepts folder)
    (start : disk.start folder = disk.start path) (leads : folder.route <+: path.route)
    (inside : disk.isFolder path = true) : disk.isFolder folder = true := by
  obtain ⟨place, found⟩ := isFolder_iff.1 inside
  obtain ⟨last, walked, stands⟩ := (isFolder_iff_route tree (accepts_of_find found)).1 inside
  rw [isFolder_iff_route tree accepts, start]
  obtain ⟨rest, split⟩ := leads
  by_cases same : rest = []
  · exact ⟨last, by rwa [← split, same, List.append_nil] at walked, stands⟩
  · rw [← split] at walked
    obtain ⟨middle, _, reached, above, _⟩ := walk_prefix tree (tree.start path) same walked
    exact ⟨middle, reached, above⟩

/-- The first components of an absolute path to a folder lead to a folder too. -/
theorem isFolder_of_leading (tree : disk.IsTree) (accepts : Accepts folder)
    (absolute : path.isAbsolute = true) (leads : folder.components <+: path.components)
    (inside : disk.isFolder path = true) : disk.isFolder folder = true ∧ folder.isAbsolute = true := by
  have own : folder.isAbsolute = true := by
    rw [← Path.root_mem_components_iff]
    obtain ⟨rest, split⟩ := leads
    cases first : folder.components with
    | nil => exact absurd ((Path.components_eq_nil_iff folder).1 first) accepts.filled
    | cons component others =>
      rw [first, Path.components_eq, if_pos absolute] at split
      exact (List.cons.inj split).1 ▸ List.mem_cons_self
  refine ⟨isFolder_of_leading_route tree accepts ?_ (leads.filterMap _) inside, own⟩
  rw [start, start, if_pos own, if_pos absolute]

/-- The components of a path lead to a file. -/
structure Aims (disk : Disk) (path : Path) (place : Place) (content : Option String) : Prop where
  walked : disk.walk true linkLimit (disk.start path) path.route = .ok (.found place)
  stands : disk.get? place = some (.file content)

section

variable {content : Option String}

theorem aims_of_find (tree : disk.IsTree) (found : disk.find true path = .ok (place, .file content)) :
    Aims disk path place content :=
  ⟨walk_route tree found, ((find_iff (accepts_of_find found)).1 found).2⟩

theorem Aims.find (aims : Aims disk path place content) (accepts : Accepts path)
    (bare : Bare (steps path.spelling)) : disk.find true path = .ok (place, .file content) := by
  rw [find_iff accepts, (Thins.of_bare bare).walk, ← route_eq_steps]
  exact ⟨aims.walked, aims.stands⟩

theorem Aims.of_same (aims : Aims disk path place content) {other : Path} (same : path.same other = true) :
    Aims disk other place content := by
  obtain ⟨walked, stands⟩ := aims
  rw [route_of_same same, start, Path.isAbsolute_of_same same] at walked
  exact ⟨walked, stands⟩

/-- A path with a name to follow is its parent and one component more. Only the root, the empty path and a
leading dot have no name. -/
theorem exists_parent?_of_route (filled : path.route ≠ []) :
    ∃ folder last name, path.parent? = some folder ∧ path.components = folder.components ++ [last] ∧
      last ≠ .root ∧ path.route = folder.route ++ [name] := by
  obtain ⟨before, last, split⟩ : ∃ before last, path.components = before ++ [last] := by
    rcases List.eq_nil_or_concat path.components with none | ⟨before, last, split⟩
    · exact absurd (by rw [Path.route, none]; rfl) filled
    · exact ⟨before, last, split.trans List.concat_eq_append⟩
  obtain ⟨name, named⟩ : ∃ name, last.name? = some name := by
    cases last with
    | root => exact absurd (by rw [Path.route, split, Path.eq_nil_of_root split]; rfl) filled
    | current => exact absurd (by rw [Path.route, split, Path.eq_nil_of_current split]; rfl) filled
    | parent => exact ⟨_, rfl⟩
    | name text => exact ⟨_, rfl⟩
  have inside : last ≠ .root := by
    rintro rfl
    contradiction
  obtain ⟨folder, parent⟩ : ∃ folder, path.parent? = some folder := by
    refine Option.ne_none_iff_exists'.1 fun none => ?_
    have alone := Path.components_parent? path
    rw [none, split, List.reverse_concat, Path.above_cons inside] at alone
    contradiction
  obtain ⟨end_, split', _⟩ := Path.components_eq_of_parent? parent
  obtain ⟨rfl, same⟩ := List.append_inj' (split.symm.trans split') rfl
  refine ⟨folder, last, name, parent, split, inside, ?_⟩
  rw [Path.route, split, List.filterMap_append, List.filterMap_cons_some named, Path.route]
  rfl

/-- A file stands under its name in the folder that its parent leads to. -/
theorem Aims.parent (tree : disk.IsTree) (aims : Aims disk path place content) :
    ∃ folder name middle, path.parent? = some folder ∧ disk.start folder = disk.start path ∧
      path.route = folder.route ++ [name] ∧ name ≠ "." ∧ name ≠ ".." ∧
      disk.walk true linkLimit (disk.start path) folder.route = .ok (.found middle) ∧
      disk.get? middle = some .folder := by
  obtain ⟨walked, stands⟩ := aims
  have filled : path.route ≠ [] := by
    intro none
    have here : disk.walk true linkLimit (disk.start path) [] = .ok (.found (disk.start path)) := by
      rw [linkLimit, walk_succ, advance]
      rfl
    rw [none] at walked
    cases here.symm.trans walked
    cases (tree.start path).symm.trans stands
  obtain ⟨folder, last, name, parent, split, inside, route⟩ := exists_parent?_of_route filled
  rw [route] at walked
  obtain ⟨middle, left, reached, above, rest⟩ :=
    walk_prefix tree (tree.start path) (List.cons_ne_nil _ _) walked
  refine ⟨folder, name, middle, parent, ?_, route, ?_, ?_, reached, above⟩
  · rw [Disk.start, Disk.start, Path.isAbsolute_eq_of_components_append split (by simpa using inside.symm)]
  · rintro rfl
    cases walk_dot.symm.trans rest
    cases above.symm.trans stands
  · rintro rfl
    have up : disk.walk true left middle [".."] = .ok (.found middle.dropLast) := by
      cases left <;> simp [walk_zero, walk_succ, advance, Progress.settle]
    cases up.symm.trans rest
    cases (tree.parent above).symm.trans stands

end

end

/-- The place one name further. -/
def onto (place : Place) (name : String) : Place :=
  if name = "." then place else if name = ".." then place.dropLast else place ++ [name]

/-- The place that some names lead to where no link stands. -/
def along (place : Place) (names : List String) : Place := names.foldl onto place

/-- The place that a path spells out. -/
def resolved (disk : Disk) (path : Path) : Place := along (disk.start path) path.route

/-- No entry is a link. -/
def Linkless (disk : Disk) : Prop := ∀ entry ∈ disk.entries, ∀ target, entry.2 ≠ .link target

section

variable {disk : Disk} {follow : Bool} {links : Nat} {place last : Place} {names : List String}
  {path : Path} {entry : Entry}

theorem along_append (place : Place) (names others : List String) :
    along place (names ++ others) = along (along place names) others :=
  List.foldl_append

theorem along_dots (place : Place) (names : List String) :
    along place (names.filter (· ≠ ".")) = along place names := by
  induction names generalizing place with
  | nil => rfl
  | cons name rest ih =>
    by_cases dot : name = "."
    · subst dot
      exact ih place
    · rw [List.filter_cons_of_pos (by simpa using dot)]
      exact ih (onto place name)

theorem resolved_eq_names (disk : Disk) (path : Path) :
    disk.resolved path = along (disk.start path) (Disk.names path.spelling) := by
  rw [resolved, route_eq, along_dots]

/-- A path goes one name further; nothing stands for no name. -/
theorem resolved_join {folder : Path} {text : String} (filled : folder.spelling ≠ "")
    (whole : '/' ∉ text.toList) (disk : Disk) : disk.resolved (folder.join ⟨text⟩) =
      if text = "" then disk.resolved folder else onto (disk.resolved folder) text := by
  have relative := isAbsolute_of_whole whole
  have own : Disk.names text = if text = "" then [] else [text] := by
    rw [names_eq, Path.pieces_of_not_mem whole]
    split
    · next none => simp [none]
    · next some =>
      have filled : text.toList.isEmpty = false := by simpa using some
      simp [filled]
  rw [resolved_eq_names, resolved_eq_names, start_join filled relative, names_join filled relative,
    along_append, own]
  split <;> rfl

/-- Names that lead neither nowhere nor up are added to a place. -/
theorem along_eq_append (plain : ∀ name ∈ names, name ≠ "." ∧ name ≠ "..") (place : Place) :
    along place names = place ++ names := by
  induction names generalizing place with
  | nil => exact (List.append_nil place).symm
  | cons name rest ih =>
    obtain ⟨⟨inner, down⟩, later⟩ := List.forall_mem_cons.1 plain
    calc along place (name :: rest) = along (place ++ [name]) rest := by
          simp [along, onto, inner, down]
      _ = place ++ name :: rest := by rw [ih later, List.append_assoc, List.singleton_append]

namespace Linkless

variable (linkless : disk.Linkless)
include linkless

theorem get?_ne (place : Place) (target : String) : disk.get? place ≠ some (.link target) := by
  intro stands
  rcases mem_entries_of_get? stands with rfl | member
  · cases stands
  · exact linkless _ member target rfl

theorem advance_eq (names : List String) :
    (∀ last, disk.advance follow place names = .arrived last → last = along place names) ∧
      ∀ start steps, disk.advance follow place names ≠ .redirected start steps := by
  fun_induction disk.advance follow place names with
  | case1 place => exact ⟨fun last arrived => by cases arrived; rfl, by simp⟩
  | case2 place rest ih => exact ih
  | case3 place rest _ ih => exact ih
  | case4 | case5 | case8 => exact ⟨by simp, by simp⟩
  | case6 place name rest inner down short found ih => simpa [along, onto, inner, down] using ih
  | case7 place name rest inner down short text found none =>
    refine ⟨fun last arrived => ?_, by simp⟩
    cases arrived
    rw [List.isEmpty_iff.1 none]
    simp [along, onto, inner, down]
  | case9 place name rest inner down short target found => exact absurd found (linkless.get?_ne _ target)
  | case10 place name rest inner down short target found => exact absurd found (linkless.get?_ne _ target)

theorem walk_eq (walked : disk.walk follow links place names = .ok (.found last)) :
    last = along place names := by
  obtain ⟨arrives, straight⟩ := @advance_eq disk follow place linkless names
  unfold walk at walked
  split at walked
  · next arrived =>
    cases walked
    exact arrives _ arrived
  · cases walked
  · cases walked
  · next redirected => exact absurd redirected (straight _ _)

/-- A path leads to the place that it spells out. -/
theorem place_of_find (found : disk.find follow path = .ok (place, entry)) :
    place = disk.resolved path := by
  have walked := ((find_iff (accepts_of_find found)).1 found).1
  rw [linkless.walk_eq walked, resolved, route_eq_steps, along_dots]

end Linkless

end

end Disk

end Querymap
