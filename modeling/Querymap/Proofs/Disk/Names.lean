import Mathlib.Logic.Basic
import Querymap.Proofs.Dict
import Querymap.Proofs.Disk.Tree
import Querymap.Proofs.Path
import Querymap.Proofs.Text.Bytes

/-! Walks along the names of a path. A walk along more names goes on from where the first ones lead; dots
that further names follow make no difference, so files are found by their components. -/
namespace Querymap

/-- The name by which a walk takes a component. -/
def Path.Component.name? : Component → Option String
  | .root | .current => none
  | .parent => some ".."
  | .name text => some text

theorem Path.root_mem_components_iff {path : Path} :
    .root ∈ path.components ↔ path.isAbsolute = true := by
  constructor
  · intro member
    obtain ⟨⟨_, stop⟩, marked, rfl⟩ := List.mem_map.1 member
    obtain ⟨before, after, split⟩ := List.append_of_mem marked
    exact (root_marks split).2.2
  · intro absolute
    rw [components_eq, if_pos absolute]
    exact List.mem_cons_self

theorem Path.isAbsolute_of_same {a b : Path} (same : a.same b = true) : a.isAbsolute = b.isAbsolute := by
  rw [Bool.eq_iff_iff, ← root_mem_components_iff, ← root_mem_components_iff, same_iff.1 same]

/-- The names of a path without its dots. -/
def Path.route (path : Path) : List String := path.components.filterMap Path.Component.name?

namespace Disk

/-- A name that an entry of a folder can have. -/
structure ProperName (name : String) : Prop where
  inner : name ≠ "."
  down : name ≠ ".."
  filled : name ≠ ""
  whole : '/' ∉ name.toList

instance (name : String) : Decidable (ProperName name) :=
  decidable_of_iff (name ≠ "." ∧ name ≠ ".." ∧ name ≠ "" ∧ '/' ∉ name.toList)
    ⟨fun ⟨inner, down, filled, whole⟩ => ⟨inner, down, filled, whole⟩,
      fun ⟨inner, down, filled, whole⟩ => ⟨inner, down, filled, whole⟩⟩

/-- Every entry has a name of its own. -/
def Named (disk : Disk) : Prop := ∀ entry ∈ disk.entries, ∀ name ∈ entry.1, ProperName name

instance (disk : Disk) : Decidable disk.Named :=
  inferInstanceAs (Decidable (∀ entry ∈ disk.entries, ∀ name ∈ entry.1, ProperName name))

theorem isSome_get?_concat {disk : Disk} {place : Place} {name : String} :
    (disk.get? (place ++ [name])).isSome ↔ ∃ entry ∈ disk.entries, entry.1 = place ++ [name] := by
  have inside : ¬(place ++ [name]).isEmpty = true := by simp
  rw [get?, if_neg inside, ← not_iff_not, Option.not_isSome_iff_eq_none, List.lookup_eq_none_iff]
  constructor
  · rintro apart ⟨entry, member, same⟩
    simpa [same] using apart entry member
  · intro free entry member
    exact bne_iff_ne.2 fun same => free ⟨entry, member, same.symm⟩

/-- The entries of a folder are those one name below it. -/
theorem mem_namesBelow {disk : Disk} {place : Place} {name : String} :
    name ∈ disk.namesBelow place ↔ (disk.get? (place ++ [name])).isSome := by
  rw [isSome_get?_concat, namesBelow, Dict.mem_keys_iff, Dict.get?_ofList, ← not_iff_not,
    Option.not_isSome_iff_eq_none, Dict.lastWrite?_eq_none_iff]
  constructor
  · rintro apart ⟨⟨other, entry⟩, member, rfl⟩
    exact apart (name, ()) (List.mem_filterMap.2 ⟨_, member, by simp⟩) rfl
  · rintro free ⟨_, _⟩ member rfl
    obtain ⟨⟨other, entry⟩, inside, kept⟩ := List.mem_filterMap.1 member
    dsimp only at kept
    split at kept
    · next above =>
      obtain ⟨last, ends, same⟩ := Option.map_eq_some_iff.1 kept
      obtain ⟨before, rfl⟩ := List.getLast?_eq_some_iff.1 ends
      obtain rfl : last = _ := congrArg Prod.fst same
      exact free ⟨_, inside, by rw [← above, List.dropLast_concat]⟩
    · contradiction

theorem Named.of_mem_namesBelow {disk : Disk} (named : disk.Named) {place : Place} {name : String}
    (listed : name ∈ disk.namesBelow place) : ProperName name := by
  obtain ⟨entry, member, same⟩ := isSome_get?_concat.1 (mem_namesBelow.1 listed)
  exact named entry member name (same ▸ List.mem_append_right _ (List.mem_singleton_self name))

theorem Named.of_mem_list {disk : Disk} (named : disk.Named) {folder : Path} {all : List String}
    {name : String} (listed : disk.list folder = .ok all) (member : name ∈ all) : ProperName name := by
  unfold list at listed
  cases found : disk.find true folder with
  | error => rw [found] at listed; contradiction
  | ok result =>
    obtain ⟨place, entry⟩ := result
    rw [found] at listed
    cases entry with
    | folder =>
      cases listed
      exact named.of_mem_namesBelow member
    | file | link => cases listed

theorem names_eq (text : String) :
    names text = ((Path.pieces text.toList).filter (!·.isEmpty)).map String.ofList := rfl

theorem filterMap_name?_pieceComponents (leading : Bool) (pieces : List (List Char)) :
    (Path.pieceComponents leading pieces).filterMap Path.Component.name? =
      ((pieces.filter (!·.isEmpty)).map String.ofList).filter (· ≠ ".") := by
  induction pieces generalizing leading with
  | nil => rfl
  | cons piece rest ih =>
    rw [Path.pieceComponents, List.filterMap_append, ih]
    unfold Path.Component.ofPiece
    split
    · rfl
    · cases leading <;> rfl
    · rfl
    · next filled notDot notDots =>
      have kept : (!piece.isEmpty) = true := by simpa using filled
      have other : String.ofList piece ≠ "." := by
        intro same
        exact notDot (by simpa using congrArg String.toList same)
      simp [Path.Component.name?, kept, other]

theorem route_eq (path : Path) : path.route = (names path.spelling).filter (· ≠ ".") := by
  rw [names_eq, Path.route, Path.components_eq]
  split
  · rw [List.filterMap_cons, filterMap_name?_pieceComponents]
    rfl
  · rw [filterMap_name?_pieceComponents]

theorem route_eq_steps (path : Path) : path.route = (steps path.spelling).filter (· ≠ ".") := by
  rw [route_eq, steps]
  split
  · rw [List.filter_append]
    simp
  · rfl

theorem route_of_same {a b : Path} (same : a.same b = true) : a.route = b.route := by
  rw [Path.route, Path.route, Path.same_iff.1 same]

/-- Names that do not end in a dot. -/
def Bare (names : List String) : Prop := names.getLast? ≠ some "."

/-- The second names are the first ones without some dots that further names follow. -/
inductive Thins : List String → List String → Prop
  | nil : Thins [] []
  | skip {names others : List String} : Thins names others → others ≠ [] → Thins ("." :: names) others
  | cons {name : String} {names others : List String} : Thins names others →
      Thins (name :: names) (name :: others)

namespace Thins

variable {names others : List String}

theorem refl (names : List String) : Thins names names := by
  induction names with
  | nil => exact .nil
  | cons name rest ih => exact .cons ih

theorem nil_iff (thins : Thins names others) : names = [] ↔ others = [] := by
  cases thins with
  | nil => exact Iff.rfl
  | skip _ filled => simp [filled]
  | cons => simp

theorem isEmpty_eq (thins : Thins names others) : names.isEmpty = others.isEmpty := by
  rw [Bool.eq_iff_iff, List.isEmpty_iff, List.isEmpty_iff, thins.nil_iff]

theorem append_left (thins : Thins names others) (first : List String) :
    Thins (first ++ names) (first ++ others) := by
  induction first with
  | nil => exact thins
  | cons name rest ih => exact .cons ih

theorem of_bare (bare : Bare names) : Thins names (names.filter (· ≠ ".")) := by
  induction names with
  | nil => exact .nil
  | cons name rest ih =>
    by_cases single : rest = []
    · subst single
      have other : name ≠ "." := fun same => bare (by simp [same])
      rw [List.filter_cons_of_pos (by simpa using other)]
      exact .refl _
    · have later : Bare rest := by
        obtain ⟨first, others, rfl⟩ := List.exists_cons_of_ne_nil single
        simpa [Bare] using bare
      by_cases dot : name = "."
      · subst dot
        exact .skip (ih later) fun none => single ((ih later).nil_iff.2 none)
      · rw [List.filter_cons_of_pos (by simpa using dot)]
        exact .cons (ih later)

end Thins

/-- Two ways to go on that differ in dots alone. -/
inductive Progress.Alike : Progress → Progress → Prop
  | arrived (place : Place) : Alike (.arrived place) (.arrived place)
  | missing (place : Place) (rest others : List String) :
      Alike (.missing place rest) (.missing place others)
  | redirected (start : Place) {names others : List String} : Thins names others →
      Alike (.redirected start names) (.redirected start others)
  | failed (error : FileError) : Alike (.failed error) (.failed error)

section

variable {disk : Disk} {follow : Bool} {links : Nat} {place last : Place} {names others : List String}

theorem Thins.advance (thins : Thins names others) :
    (disk.advance follow place names).Alike (disk.advance follow place others) := by
  induction thins generalizing place with
  | nil => exact .arrived place
  | skip _ _ ih =>
    rw [Disk.advance, if_pos rfl]
    exact ih
  | @cons name names others rest ih =>
    by_cases inner : name = "."
    · rw [Disk.advance, Disk.advance, if_pos inner, if_pos inner]
      exact ih
    by_cases down : name = ".."
    · rw [Disk.advance, Disk.advance, if_neg inner, if_neg inner, if_pos down, if_pos down]
      exact ih
    by_cases long : nameLimit < Text.byteLength name.toList
    · rw [Disk.advance, Disk.advance, if_neg inner, if_neg inner, if_neg down, if_neg down, if_pos long,
        if_pos long]
      exact .failed _
    · rw [advance_name inner down long, advance_name inner down long, rest.isEmpty_eq]
      split
      · exact .missing ..
      · exact ih
      · split
        · exact .arrived _
        · exact .failed _
      · split
        · exact .arrived _
        · exact .redirected _ (rest.append_left _)

/-- The end of a walk that has come thus far, if links lead on as told. -/
def Progress.settle (lead : Place → List String → Except FileError Located) :
    Progress → Except FileError Located
  | .arrived place => .ok (.found place)
  | .missing place rest => .ok (.missing place rest)
  | .redirected start names => lead start names
  | .failed error => .error error

theorem walk_zero : disk.walk follow 0 place names =
    (disk.advance follow place names).settle fun _ _ => .error .linkLoop := by
  cases advanced : disk.advance follow place names <;> rw [walk, advanced] <;> rfl

theorem walk_succ : disk.walk follow (links + 1) place names =
    (disk.advance follow place names).settle (disk.walk follow links) := by
  cases advanced : disk.advance follow place names <;> rw [walk, advanced] <;> rfl

theorem Thins.walk (thins : Thins names others) :
    disk.walk follow links place names = .ok (.found last) ↔
      disk.walk follow links place others = .ok (.found last) := by
  have alike := @Thins.advance disk follow place names others thins
  induction links generalizing place names others with
  | zero =>
    rw [walk_zero, walk_zero]
    generalize disk.advance follow place names = one, disk.advance follow place others = two at alike
    cases alike <;> simp [Progress.settle]
  | succ links ih =>
    rw [walk_succ, walk_succ]
    generalize disk.advance follow place names = one, disk.advance follow place others = two at alike
    cases alike with
    | redirected start thins => exact ih thins thins.advance
    | _ => simp [Progress.settle]

/-- Where a walk along some names, which has come thus far, goes on. -/
def Progress.onward (disk : Disk) (follow : Bool) (names : List String) : Progress → Progress
  | .arrived place =>
    if disk.get? place = some .folder then disk.advance follow place names else .failed .notDirectory
  | .missing place rest => .missing place (rest ++ names)
  | .redirected start steps => .redirected start (steps ++ names)
  | .failed error => .failed error

theorem advance_append (tree : disk.IsTree) (folder : disk.get? place = some .folder)
    (filled : others ≠ []) :
    disk.advance follow place (names ++ others) =
      (disk.advance true place names).onward disk follow others := by
  induction names generalizing place with
  | nil => exact (if_pos folder).symm
  | cons name rest ih =>
    rw [List.cons_append]
    by_cases inner : name = "."
    · rw [advance, advance, if_pos inner, if_pos inner, ih folder]
    by_cases down : name = ".."
    · rw [advance, advance, if_neg inner, if_neg inner, if_pos down, if_pos down, ih (tree.parent folder)]
    by_cases long : nameLimit < Text.byteLength name.toList
    · rw [advance, advance, if_neg inner, if_neg inner, if_neg down, if_neg down, if_pos long, if_pos long]
      rfl
    · have more : (rest ++ others).isEmpty = false := by simp [filled]
      rw [advance_name inner down long, advance_name inner down long, more]
      split
      · rfl
      · next found => exact ih found
      · next text found =>
        cases rest with
        | nil => exact (if_neg (by simp [found])).symm
        | cons => rfl
      · simp [Progress.onward]

/-- Where a walk ends that has come to a place with some links left to follow. -/
def Located.onward (disk : Disk) (follow : Bool) (links : Nat) (names : List String) :
    Located → Except FileError Located
  | .found place =>
    if disk.get? place = some .folder then disk.walk follow links place names else .error .notDirectory
  | .missing place rest => .ok (.missing place (rest ++ names))

/-- A walk along further names goes on from where the first ones lead. -/
theorem walk_append (tree : disk.IsTree) (folder : disk.get? place = some .folder) (links : Nat)
    (names : List String) :
    ∃ left, ∀ follow others, others ≠ [] → disk.walk follow links place (names ++ others) =
      disk.walk true links place names >>= Located.onward disk follow left others := by
  induction links generalizing place names with
  | zero =>
    refine ⟨0, fun follow others filled => ?_⟩
    rw [walk_zero, walk_zero, advance_append tree folder filled]
    cases disk.advance true place names with
    | arrived last =>
      by_cases stands : disk.get? last = some .folder <;>
        simp [Progress.onward, Progress.settle, bind, Except.bind, Located.onward, stands, walk_zero]
    | missing | redirected | failed => rfl
  | succ links ih =>
    have stands : (disk.advance true place names).Stands disk true := tree.stands_advance folder names
    simp only [walk_succ]
    cases advanced : disk.advance true place names with
    | redirected start steps =>
      rw [advanced] at stands
      obtain ⟨left, goes⟩ := ih stands steps
      refine ⟨left, fun follow others filled => ?_⟩
      rw [advance_append tree folder filled, advanced]
      exact goes follow others filled
    | arrived last =>
      refine ⟨links + 1, fun follow others filled => ?_⟩
      rw [advance_append tree folder filled, advanced]
      by_cases stands : disk.get? last = some .folder <;>
        simp [Progress.onward, Progress.settle, bind, Except.bind, Located.onward, stands, walk_succ]
    | missing | failed =>
      refine ⟨0, fun follow others filled => ?_⟩
      rw [advance_append tree folder filled, advanced]
      rfl

end

/-- Texts of paths that the file system looks up at all. -/
structure Accepts (path : Path) : Prop where
  filled : path.spelling ≠ ""
  valid : '\x00' ∉ path.spelling.toList
  short : Text.byteLength path.spelling.toList < pathLimit

/-- The place from which a path starts. -/
def start (disk : Disk) (path : Path) : Place := if path.isAbsolute then [] else disk.here

section

variable {disk : Disk} {follow : Bool} {path folder : Path} {names : List String} {place : Place}
  {entry : Entry} {name text : String}

theorem locateBy_eq (accepts : Accepts path) (disk : Disk) (follow : Bool) (names : List String) :
    disk.locateBy follow path names = disk.walk follow linkLimit (disk.start path) names := by
  rw [locateBy, if_neg (by simpa using accepts.filled), if_neg (by simpa using accepts.valid),
    if_neg (Nat.not_le.2 accepts.short)]
  rfl

theorem accepts_of_locateBy {located : Located}
    (found : disk.locateBy follow path names = .ok located) : Accepts path := by
  have short := lt_pathLimit_of_locateBy found
  unfold locateBy at found
  split at found
  · contradiction
  · next filled =>
    split at found
    · contradiction
    · next valid => exact ⟨by simpa using filled, by simpa using valid, short⟩

theorem accepts_of_find (found : disk.find follow path = .ok (place, entry)) : Accepts path :=
  accepts_of_locateBy (find_eq_ok_iff.1 found).1

theorem find_iff (accepts : Accepts path) : disk.find follow path = .ok (place, entry) ↔
    disk.walk follow linkLimit (disk.start path) (steps path.spelling) = .ok (.found place) ∧
      disk.get? place = some entry := by
  rw [find_eq_ok_iff, locate, locateBy_eq accepts]

theorem IsTree.start (tree : disk.IsTree) (path : Path) :
    disk.get? (disk.start path) = some .folder := by
  unfold Disk.start
  split
  · rfl
  · exact tree.here

theorem status_eq_ok_iff : disk.status path = .ok entry ↔ ∃ place, disk.find true path = .ok (place, entry) := by
  unfold status
  cases disk.find true path with
  | error => simp [Except.map]
  | ok found => simp [Except.map, Prod.ext_iff]

theorem ownStatus_eq_ok_iff :
    disk.ownStatus path = .ok entry ↔ ∃ place, disk.find false path = .ok (place, entry) := by
  unfold ownStatus
  cases disk.find false path with
  | error => simp [Except.map]
  | ok found => simp [Except.map, Prod.ext_iff]

theorem isFolder_iff : disk.isFolder path = true ↔ ∃ place, disk.find true path = .ok (place, .folder) := by
  rw [← status_eq_ok_iff, isFolder]
  split
  · next stands => simp [stands]
  · next other => simpa using other

theorem isFile_iff :
    disk.isFile path = true ↔ ∃ place text, disk.find true path = .ok (place, .file text) := by
  unfold isFile
  constructor
  · intro exact
    split at exact
    · next text stands =>
      obtain ⟨place, found⟩ := status_eq_ok_iff.1 stands
      exact ⟨place, text, found⟩
    · contradiction
  · rintro ⟨place, text, found⟩
    rw [status_eq_ok_iff.2 ⟨place, found⟩]

theorem exists?_iff : disk.exists? path = true ↔ ∃ place entry, disk.find true path = .ok (place, entry) := by
  unfold exists? status
  cases disk.find true path with
  | error => exact ⟨nofun, nofun⟩
  | ok found => exact ⟨fun _ => ⟨_, _, rfl⟩, fun _ => rfl⟩

/-- A file is not found behind a dot. -/
theorem bare_of_find (tree : disk.IsTree) {content : Option String}
    (found : disk.find true path = .ok (place, .file content)) : Bare (steps path.spelling) := by
  intro dotted
  obtain ⟨first, split⟩ := List.getLast?_eq_some_iff.1 dotted
  obtain ⟨walked, stands⟩ := (find_iff (accepts_of_find found)).1 found
  obtain ⟨left, goes⟩ := walk_append tree (tree.start path) linkLimit first
  rw [split, goes true ["."] (List.cons_ne_nil _ _)] at walked
  cases reached : disk.walk true linkLimit (disk.start path) first with
  | error => rw [reached] at walked; contradiction
  | ok located =>
    rw [reached] at walked
    dsimp only [bind, Except.bind] at walked
    cases located with
    | missing => cases walked
    | found last =>
      dsimp only [Located.onward] at walked
      split at walked
      · next folder =>
        have here : disk.walk true left last ["."] = .ok (.found last) := by
          cases left <;> simp [walk_zero, walk_succ, advance, Progress.settle]
        cases here.symm.trans walked
        cases folder.symm.trans stands
      · contradiction

/-- A file is found along its components. -/
theorem walk_route (tree : disk.IsTree) {content : Option String}
    (found : disk.find true path = .ok (place, .file content)) :
    disk.walk true linkLimit (disk.start path) path.route = .ok (.found place) := by
  rw [route_eq_steps, ← (Thins.of_bare (bare_of_find tree found)).walk]
  exact ((find_iff (accepts_of_find found)).1 found).1

/-- Of two spellings of one path that files are found by, one leads where the other does. -/
theorem find_of_same {other : Disk} {a b : Path} (tree : disk.IsTree) (tree' : other.IsTree)
    (same : a.same b = true) {content : Option String} {place' : Place} {content' : Option String}
    (found : disk.find true a = .ok (place, .file content))
    (known : other.find true b = .ok (place', .file content')) :
    disk.find true b = .ok (place, .file content) := by
  have bare := bare_of_find tree' known
  rw [find_iff (accepts_of_find known), (Thins.of_bare bare).walk, ← route_eq_steps,
    ← route_of_same same, start, ← Path.isAbsolute_of_same same]
  exact ⟨walk_route tree found, ((find_iff (accepts_of_find found)).1 found).2⟩

end

section

variable {disk : Disk} {follow : Bool} {path folder : Path} {place : Place} {entry : Entry}
  {name text : String}

theorem names_separated (before after : List Char) :
    names (String.ofList (before ++ '/' :: after)) =
      names (String.ofList before) ++ names (String.ofList after) := by
  simp only [names_eq, String.toList_ofList, Path.pieces_append, List.filter_append, List.map_append]

theorem toList_join (filled : folder.spelling ≠ "") (relative : (⟨text⟩ : Path).isAbsolute = false) :
    ∃ before, (folder.join ⟨text⟩).spelling.toList = before ++ '/' :: text.toList ∧
      names (String.ofList before) = names folder.spelling ∧
      folder.spelling.toList <+: before ++ ['/'] := by
  have inside : ¬((⟨text⟩ : Path).isAbsolute || folder.spelling.isEmpty) = true := by
    simpa [relative] using filled
  rw [Path.join, if_neg inside]
  split
  · next separated =>
    obtain ⟨before, spelled⟩ := List.getLast?_eq_some_iff.1 (beq_iff_eq.1 separated)
    refine ⟨before, by simp [spelled], ?_, spelled ▸ List.prefix_refl _⟩
    rw [← String.ofList_toList (s := folder.spelling), spelled, names_separated]
    exact (List.append_nil _).symm
  · exact ⟨folder.spelling.toList, by simp, by simp, List.prefix_append _ _⟩

theorem names_join (filled : folder.spelling ≠ "") (relative : (⟨text⟩ : Path).isAbsolute = false) :
    names (folder.join ⟨text⟩).spelling = names folder.spelling ++ names text := by
  obtain ⟨before, joined, same, _⟩ := toList_join filled relative
  rw [← String.ofList_toList (s := (folder.join ⟨text⟩).spelling), joined, names_separated, same,
    String.ofList_toList]

theorem names_ne_nil (filled : text ≠ "") (relative : (⟨text⟩ : Path).isAbsolute = false) :
    names text ≠ [] := by
  obtain ⟨c, rest, spelled⟩ := List.exists_cons_of_ne_nil (by simpa using filled : text.toList ≠ [])
  have other : (c == '/') = false := by simpa [Path.isAbsolute, spelled] using relative
  rw [names_eq, Path.pieces, spelled, Text.splitAt, other]
  cases Text.splitAt (· == '/') rest <;> simp

theorem steps_join (filled : folder.spelling ≠ "") (relative : (⟨text⟩ : Path).isAbsolute = false)
    (given : text ≠ "") :
    steps (folder.join ⟨text⟩).spelling = names folder.spelling ++ steps text := by
  obtain ⟨before, joined, _⟩ := toList_join filled relative
  obtain ⟨c, rest, spelled⟩ := List.exists_cons_of_ne_nil (by simpa using given : text.toList ≠ [])
  have ends : endsInSeparator (folder.join ⟨text⟩).spelling = endsInSeparator text := by
    rw [endsInSeparator, joined, endsInSeparator, spelled, List.getLast?_append,
      List.getLast?_cons_cons, List.getLast?_cons]
    rfl
  have own := names_ne_nil given relative
  simp only [steps, ends, names_join filled relative]
  cases endsInSeparator text <;> simp [own]

theorem Accepts.of_sublist (accepts : Accepts path) (filled : folder.spelling ≠ "")
    (sub : folder.spelling.toList.Sublist path.spelling.toList) : Accepts folder :=
  ⟨filled, fun bad => accepts.valid (sub.subset bad),
    Nat.lt_of_le_of_lt (Text.byteLength_le_of_sublist sub) accepts.short⟩

theorem accepts_of_join (filled : folder.spelling ≠ "")
    (relative : (⟨text⟩ : Path).isAbsolute = false) (accepts : Accepts (folder.join ⟨text⟩)) :
    Accepts folder := by
  obtain ⟨before, joined, _, leads⟩ := toList_join filled relative
  have leads : folder.spelling.toList <+: (folder.join ⟨text⟩).spelling.toList :=
    joined ▸ leads.trans ⟨text.toList, by simp⟩
  exact accepts.of_sublist filled leads.sublist

theorem start_join (filled : folder.spelling ≠ "") (relative : (⟨text⟩ : Path).isAbsolute = false)
    (disk : Disk) : disk.start (folder.join ⟨text⟩) = disk.start folder := by
  obtain ⟨before, joined, _, leads⟩ := toList_join filled relative
  obtain ⟨c, rest, spelled⟩ := List.exists_cons_of_ne_nil (by simpa using filled : folder.spelling.toList ≠ [])
  have head : (folder.join ⟨text⟩).spelling.toList.head? = folder.spelling.toList.head? := by
    obtain ⟨tail, same⟩ := leads
    have whole : (folder.join ⟨text⟩).spelling.toList = folder.spelling.toList ++ (tail ++ text.toList) := by
      rw [joined, ← List.append_assoc, same]
      simp
    rw [whole, spelled]
    rfl
  rw [start, start, Path.isAbsolute, Path.isAbsolute, head]

/-- What a joined path leads to is reached by way of the folder before it. -/
theorem find_join (tree : disk.IsTree) (filled : folder.spelling ≠ "")
    (relative : (⟨text⟩ : Path).isAbsolute = false) (given : text ≠ "")
    (found : disk.find follow (folder.join ⟨text⟩) = .ok (place, entry)) :
    ∃ parent left, disk.find true folder = .ok (parent, .folder) ∧
      disk.walk follow left parent (steps text) = .ok (.found place) := by
  have accepts := accepts_of_find found
  have known := accepts_of_join filled relative accepts
  have walked := ((find_iff accepts).1 found).1
  rw [start_join filled relative, steps_join filled relative given] at walked
  have more : steps text ≠ [] := by
    have own := names_ne_nil given relative
    rw [steps]
    split <;> simp [own]
  obtain ⟨left, goes⟩ := walk_append tree (tree.start folder) linkLimit (names folder.spelling)
  rw [goes follow _ more] at walked
  cases reached : disk.walk true linkLimit (disk.start folder) (names folder.spelling) with
  | error => rw [reached] at walked; contradiction
  | ok located =>
    rw [reached] at walked
    cases located with
    | missing => cases walked
    | found parent =>
      dsimp only [bind, Except.bind, Located.onward] at walked
      split at walked
      · next stands =>
        refine ⟨parent, left, (find_iff known).2 ⟨?_, stands⟩, walked⟩
        unfold steps
        split
        · rw [goes true ["."] (List.cons_ne_nil _ _), reached]
          dsimp only [bind, Except.bind, Located.onward]
          rw [if_pos stands]
          cases left <;> simp [walk_zero, walk_succ, advance, Progress.settle]
        · exact reached
      · contradiction

theorem isAbsolute_of_whole (whole : '/' ∉ text.toList) : (⟨text⟩ : Path).isAbsolute = false :=
  Bool.eq_false_iff.2 fun absolute => whole (List.mem_of_mem_head? (beq_iff_eq.1 absolute))

theorem ProperName.names (proper : ProperName name) : names name = [name] := by
  have filled : name.toList.isEmpty = false := by simpa using proper.filled
  rw [names_eq, Path.pieces_of_not_mem proper.whole]
  simp [filled]

theorem ProperName.pieceComponents (proper : ProperName name) (leading : Bool) :
    Path.pieceComponents leading (Path.pieces name.toList) = [.name name] := by
  rw [Path.pieces_of_not_mem proper.whole, Path.pieceComponents, Path.Component.ofPiece]
  · simp [Path.pieceComponents]
  · simpa using proper.filled
  · exact fun dot => proper.inner (by rw [← String.ofList_toList (s := name), dot])
  · exact fun dots => proper.down (by rw [← String.ofList_toList (s := name), dots])

/-- A path goes one name further. -/
theorem ProperName.components_join (proper : ProperName name) (absolute : folder.isAbsolute = true) :
    (folder.join ⟨name⟩).components = folder.components ++ [.name name] := by
  have filled : folder.components ≠ [] := List.ne_nil_of_mem (Path.root_mem_components_iff.2 absolute)
  rw [Path.components_join, if_neg (by simp [isAbsolute_of_whole proper.whole, filled]),
    proper.pieceComponents false]

theorem ProperName.steps (proper : ProperName name) : steps name = [name] := by
  have ends : endsInSeparator name = false := by
    refine Bool.eq_false_iff.2 fun separated => proper.whole ?_
    exact List.mem_of_getLast? (beq_iff_eq.1 separated)
  rw [Disk.steps, ends, proper.names]
  rfl

/-- A walk takes a single name to the entry of that name, unless it follows a link there. -/
theorem walk_name {links : Nat} {place last : Place} (inner : name ≠ ".") (down : name ≠ "..")
    (walked : disk.walk follow links place [name] = .ok (.found last)) :
    (disk.get? (place ++ [name])).isSome ∧ (follow = false → last = place ++ [name]) := by
  have arrives (last : Place) : disk.advance follow last [] = .arrived last := by rw [advance]
  revert walked
  by_cases long : nameLimit < Text.byteLength name.toList
  · cases links <;> simp [walk_zero, walk_succ, advance, inner, down, long, Progress.settle]
  · cases stands : disk.get? (place ++ [name]) with
    | none =>
      cases links <;> simp [walk_zero, walk_succ, advance_name inner down long, stands, Progress.settle]
    | some entry =>
      refine fun reached => ⟨rfl, fun same => ?_⟩
      subst same
      cases entry <;> cases links <;>
        simpa [walk_zero, walk_succ, advance_name inner down long, stands, arrives, Progress.settle,
          @eq_comm _ last] using reached

/-- What is found under a name in a folder is an entry of the folder. -/
theorem find_child (tree : disk.IsTree) (filled : folder.spelling ≠ "") (proper : ProperName name)
    (found : disk.find follow (folder.join ⟨name⟩) = .ok (place, entry)) :
    ∃ parent, disk.find true folder = .ok (parent, .folder) ∧
      (disk.get? (parent ++ [name])).isSome ∧ (follow = false → place = parent ++ [name]) := by
  obtain ⟨parent, left, known, walked⟩ := find_join tree filled (isAbsolute_of_whole proper.whole) proper.filled found
  rw [proper.steps] at walked
  exact ⟨parent, known, walk_name proper.inner proper.down walked⟩

end

end Disk

end Querymap
