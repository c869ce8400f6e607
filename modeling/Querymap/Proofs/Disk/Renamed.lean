import Mathlib.Data.List.Basic
import Querymap.Proofs.Disk.Names

/-! One folder under two names. What is called by another name is found alike on every way that does not
come to the folder by its name. -/
namespace Querymap

/-- The text of an absolute path to a place, plainly written. -/
def Place.spelled (place : Place) : List Char := place.flatMap fun name => '/' :: name.toList

/-- The path to a place, with more behind it. -/
def Place.path (place : Place) (tail : List Char) : Path := ⟨String.ofList (place.spelled ++ tail)⟩

/-- A place, up to the name of a folder. -/
def Place.renamed (folder folder' place : Place) : Place :=
  if folder <+: place then folder' ++ place.drop folder.length else place

namespace Place

theorem spelled_append (place other : Place) : spelled (place ++ other) = place.spelled ++ other.spelled :=
  List.flatMap_append

theorem spelled_concat (place : Place) (name : String) :
    spelled (place ++ [name]) = place.spelled ++ '/' :: name.toList := by
  rw [spelled_append]
  simp [spelled]

theorem toList_path (place : Place) (tail : List Char) :
    (place.path tail).spelling.toList = place.spelled ++ tail :=
  String.toList_ofList

theorem spelled_eq_cons {place : Place} (named : place ≠ []) :
    ∃ rest, place.spelled = '/' :: rest := by
  obtain ⟨name, others, rfl⟩ := List.exists_cons_of_ne_nil named
  exact ⟨_, rfl⟩

theorem isAbsolute_path {place : Place} (named : place ≠ []) (tail : List Char) :
    (place.path tail).isAbsolute = true := by
  obtain ⟨rest, spelled⟩ := spelled_eq_cons named
  rw [Path.isAbsolute, toList_path, spelled]
  rfl

theorem byteLength_spelled_le {above place : Place} (leads : above <+: place) :
    Text.byteLength above.spelled ≤ Text.byteLength place.spelled := by
  obtain ⟨rest, rfl⟩ := leads
  rw [spelled_append]
  exact Text.byteLength_le_of_sublist (List.sublist_append_left _ _)

theorem exists_spelled_eq (place : Place) (text : List Char) :
    ∃ rest, place.spelled ++ '/' :: text = '/' :: rest := by
  cases place with
  | nil => exact ⟨text, rfl⟩
  | cons name place => exact ⟨_, rfl⟩

theorem pieces_spelled {place : Place} (named : ∀ name ∈ place, '/' ∉ name.toList) (text : List Char) :
    Path.pieces (place.spelled ++ '/' :: text) = [] :: (place.map String.toList ++ Path.pieces text) := by
  induction place with
  | nil => exact Path.pieces_cons text List.not_mem_nil
  | cons name place ih =>
    obtain ⟨own, others⟩ := List.forall_mem_cons.1 named
    obtain ⟨rest, begins⟩ := exists_spelled_eq place text
    have later := ih others
    rw [begins, ← List.nil_append ('/' :: rest), Path.pieces_cons rest List.not_mem_nil] at later
    have whole : spelled (name :: place) ++ '/' :: text = [] ++ '/' :: (name.toList ++ '/' :: rest) := by
      rw [← begins]
      simp [spelled]
    rw [whole, Path.pieces_cons _ List.not_mem_nil, Path.pieces_cons rest own, (List.cons.inj later).2]
    rfl

theorem components_path {place : Place} (named : place ≠ []) {tail : List Char}
    (begins : ∀ c ∈ tail.head?, c = '/') : (place.path tail).components =
      (place.path []).components ++ Path.pieceComponents false (Path.pieces (tail.drop 1)) := by
  have filled : place.spelled ≠ [] := by
    obtain ⟨rest, spelled⟩ := spelled_eq_cons named
    rw [spelled]
    exact List.cons_ne_nil _ _
  cases tail with
  | nil =>
    have none : Path.pieceComponents false (Path.pieces []) = [] := by decide
    rw [List.drop_nil, none, List.append_nil]
  | cons c tail =>
    obtain rfl := begins c rfl
    rw [path, path, Path.components_separated, Path.components_ends_separated filled, List.append_nil,
      List.drop_one, List.tail_cons]

section

variable {folder folder' place : Place} {name : String}

theorem renamed_append (folder folder' below : Place) :
    renamed folder folder' (folder ++ below) = folder' ++ below := by
  simp [renamed]

theorem renamed_self (folder folder' : Place) : renamed folder folder' folder = folder' := by
  have whole := renamed_append folder folder' []
  rwa [List.append_nil, List.append_nil] at whole

theorem renamed_of_outside (outside : ¬folder <+: place) : renamed folder folder' place = place :=
  if_neg outside

theorem not_leads_concat (clear : ¬folder <+: place) (apart : place ++ [name] ≠ folder) :
    ¬folder <+: place ++ [name] := fun leads =>
  (List.prefix_concat_iff.1 leads).elim (fun same => apart same.symm) clear

theorem renamed_concat (apart : place ++ [name] ≠ folder) :
    renamed folder folder' (place ++ [name]) = renamed folder folder' place ++ [name] := by
  by_cases inside : folder <+: place
  · obtain ⟨below, rfl⟩ := inside
    rw [List.append_assoc, renamed_append, renamed_append, List.append_assoc]
  · rw [renamed_of_outside inside, renamed_of_outside (not_leads_concat inside apart)]

theorem renamed_dropLast (named : folder ≠ []) (sibling : folder'.dropLast = folder.dropLast) :
    renamed folder folder' place.dropLast = (renamed folder folder' place).dropLast := by
  by_cases inside : folder <+: place
  · obtain ⟨below, rfl⟩ := inside
    rcases below.eq_nil_or_concat with rfl | ⟨before, last, rfl⟩
    · have outside : ¬folder <+: folder.dropLast := by
        intro leads
        have shorter := leads.length_le
        have filled := List.length_pos_iff.2 named
        rw [List.length_dropLast] at shorter
        omega
      rw [List.append_nil, renamed_self, sibling, renamed_of_outside outside]
    · rw [List.concat_eq_append, renamed_append, ← List.append_assoc, List.dropLast_concat, renamed_append,
        ← List.append_assoc, List.dropLast_concat]
  · have outside : ¬folder <+: place.dropLast := fun leads =>
      inside (leads.trans (List.dropLast_prefix place))
    rw [renamed_of_outside inside, renamed_of_outside outside]

end

end Place

namespace Disk

/-! Ways that do not go by the name of a folder. -/

/-- Whether no step up to the first link leads to one of two folders by its name. -/
def avoids (disk : Disk) (folder folder' : Place) (place : Place) : List String → Bool
  | [] => true
  | name :: rest =>
    if name = "." then disk.avoids folder folder' place rest
    else if name = ".." then disk.avoids folder folder' place.dropLast rest
    else place ++ [name] != folder && place ++ [name] != folder' &&
      match disk.get? (place ++ [name]) with
      | some .folder => disk.avoids folder folder' (place ++ [name]) rest
      | _ => true

/-- Whether no step of a walk leads to one of two folders by its name, with so many links to follow at most. -/
def walksPast (disk : Disk) (folder folder' : Place) : Nat → Place → List String → Bool
  | 0, place, names => disk.avoids folder folder' place names
  | links + 1, place, names =>
    disk.avoids folder folder' place names &&
      match disk.advance true place names with
      | .redirected start names => disk.walksPast folder folder' links start names
      | _ => true

/-- Progress up to the name of a folder. -/
inductive Progress.Renamed (folder folder' : Place) : Progress → Progress → Prop
  | arrived {place : Place} : ¬folder' <+: place →
      Renamed folder folder' (.arrived place) (.arrived (Place.renamed folder folder' place))
  | missing {place : Place} (rest : List String) : ¬folder' <+: place →
      Renamed folder folder' (.missing place rest) (.missing (Place.renamed folder folder' place) rest)
  | redirected {place : Place} (names : List String) : ¬folder' <+: place →
      Renamed folder folder' (.redirected place names) (.redirected (Place.renamed folder folder' place) names)
  | failed (error : FileError) : Renamed folder folder' (.failed error) (.failed error)

/-- Ends of walks up to the name of a folder. -/
inductive Located.Renamed (folder folder' : Place) :
    Except FileError Located → Except FileError Located → Prop
  | found {place : Place} : ¬folder' <+: place →
      Renamed folder folder' (.ok (.found place)) (.ok (.found (Place.renamed folder folder' place)))
  | missing {place : Place} (rest : List String) : ¬folder' <+: place →
      Renamed folder folder' (.ok (.missing place rest)) (.ok (.missing (Place.renamed folder folder' place) rest))
  | failed (error : FileError) : Renamed folder folder' (.error error) (.error error)

/-- The entries of a disk on which a folder is called by another name. -/
structure Renames (disk other : Disk) (folder folder' : Place) : Prop where
  nonempty : folder ≠ []
  nonempty' : folder' ≠ []
  sibling : folder'.dropLast = folder.dropLast
  apart : folder' ≠ folder
  entry : ∀ place, ¬folder' <+: place → other.get? (Place.renamed folder folder' place) = disk.get? place

section

variable {disk other : Disk} {folder folder' place : Place} {names : List String} {name : String}

theorem Renames.start (renames : Renames disk other folder folder') : ¬folder' <+: folder := by
  intro leads
  have lengths := congrArg List.length renames.sibling
  have filled := List.length_pos_iff.2 renames.nonempty
  have filled' := List.length_pos_iff.2 renames.nonempty'
  rw [List.length_dropLast, List.length_dropLast] at lengths
  exact renames.apart (leads.eq_of_length (by omega))

theorem Renames.namesBelow (renames : Renames disk other folder folder') (clear : ¬folder' <+: place)
    (aside : place ≠ folder.dropLast) :
    other.namesBelow (Place.renamed folder folder' place) = disk.namesBelow place := by
  refine Dict.keys_eq_of_mem_iff fun name => ?_
  change name ∈ other.namesBelow _ ↔ name ∈ disk.namesBelow _
  have apart {named : Place} (same : named.dropLast = folder.dropLast) : place ++ [name] ≠ named := by
    rintro rfl
    exact aside (List.dropLast_concat.symm.trans same)
  have further := Place.not_leads_concat clear (apart renames.sibling)
  rw [mem_namesBelow, mem_namesBelow, ← Place.renamed_concat (apart rfl), renames.entry _ further]

/-- A link leads on from the root or from the folder that it stands in. -/
theorem Renames.redirected (renames : Renames disk other folder folder') (clear : ¬folder' <+: place)
    (target : Path) (names : List String) : Progress.Renamed folder folder'
      (.redirected (if target.isAbsolute then [] else place) names)
      (.redirected (if target.isAbsolute then [] else Place.renamed folder folder' place) names) := by
  split
  · have root : Place.renamed folder folder' [] = [] :=
      Place.renamed_of_outside fun leads => renames.nonempty (List.prefix_nil.1 leads)
    have outside : ¬folder' <+: [] := fun leads => renames.nonempty' (List.prefix_nil.1 leads)
    have redirected := @Progress.Renamed.redirected folder folder' [] names outside
    rwa [root] at redirected
  · exact .redirected names clear

/-- Steps that do not go by the name of the folder are taken alike. -/
theorem Renames.advance (renames : Renames disk other folder folder') (clear : ¬folder' <+: place)
    (past : disk.avoids folder folder' place names = true) (follow : Bool) :
    Progress.Renamed folder folder' (disk.advance follow place names)
      (other.advance follow (Place.renamed folder folder' place) names) := by
  induction names generalizing place with
  | nil => exact .arrived clear
  | cons name rest ih =>
    rw [avoids] at past
    by_cases inner : name = "."
    · rw [if_pos inner] at past
      rw [Disk.advance, Disk.advance, if_pos inner, if_pos inner]
      exact ih clear past
    by_cases down : name = ".."
    · rw [if_neg inner, if_pos down] at past
      -- Both folders stand in the same one, so a step up leads from either of them to one place.
      rw [Disk.advance, Disk.advance, if_neg inner, if_neg inner, if_pos down, if_pos down,
        ← Place.renamed_dropLast renames.nonempty renames.sibling]
      exact ih (fun leads => clear (leads.trans (List.dropLast_prefix place))) past
    by_cases long : nameLimit < Text.byteLength name.toList
    · rw [Disk.advance, Disk.advance, if_neg inner, if_neg inner, if_neg down, if_neg down, if_pos long,
        if_pos long]
      exact .failed _
    · rw [if_neg inner, if_neg down, Bool.and_eq_true, Bool.and_eq_true, bne_iff_ne, bne_iff_ne] at past
      obtain ⟨⟨apart, apart'⟩, past⟩ := past
      have further := Place.not_leads_concat clear apart'
      rw [advance_name inner down long, advance_name inner down long, ← Place.renamed_concat apart,
        renames.entry _ further]
      cases found : disk.get? (place ++ [name]) with
      | none => exact .missing rest further
      | some entry =>
        rw [found] at past
        cases entry with
        | folder => exact ih further past
        | file text =>
          dsimp only
          split
          · exact .arrived further
          · exact .failed _
        | link target =>
          dsimp only
          split
          · exact .arrived further
          · exact renames.redirected clear _ _

theorem avoids_of_walksPast {links : Nat} (past : disk.walksPast folder folder' links place names = true) :
    disk.avoids folder folder' place names = true := by
  cases links with
  | zero => exact past
  | succ links => exact (Bool.and_eq_true_iff.1 past).1

theorem advance_true_of_redirected {place start : Place} {follow : Bool} {steps : List String}
    (redirected : disk.advance follow place names = .redirected start steps) :
    disk.advance true place names = .redirected start steps := by
  induction names generalizing place with
  | nil => contradiction
  | cons name rest ih =>
    by_cases inner : name = "."
    · rw [Disk.advance, if_pos inner] at redirected ⊢
      exact ih redirected
    by_cases down : name = ".."
    · rw [Disk.advance, if_neg inner, if_pos down] at redirected ⊢
      exact ih redirected
    by_cases long : nameLimit < Text.byteLength name.toList
    · rw [Disk.advance, if_neg inner, if_neg down, if_pos long] at redirected
      contradiction
    · rw [advance_name inner down long] at redirected ⊢
      split at redirected
      · contradiction
      · next found => exact ih redirected
      · split at redirected <;> contradiction
      · split at redirected
        · contradiction
        · simpa using redirected

/-- A walk that does not go by the name of the folder ends alike. -/
theorem Renames.walk (renames : Renames disk other folder folder') {links : Nat} (clear : ¬folder' <+: place)
    (past : disk.walksPast folder folder' links place names = true) (follow : Bool) :
    Located.Renamed folder folder' (disk.walk follow links place names)
      (other.walk follow links (Place.renamed folder folder' place) names) := by
  induction links generalizing place names with
  | zero =>
    have moved := renames.advance clear (avoids_of_walksPast past) follow
    rw [walk_zero, walk_zero]
    generalize disk.advance follow place names = one,
      other.advance follow (Place.renamed folder folder' place) names = two at moved
    cases moved with
    | arrived clear => exact .found clear
    | missing rest clear => exact .missing rest clear
    | redirected names => exact .failed _
    | failed error => exact .failed error
  | succ links ih =>
    have moved := renames.advance clear (avoids_of_walksPast past) follow
    rw [walksPast, Bool.and_eq_true] at past
    rw [walk_succ, walk_succ]
    generalize advanced : disk.advance follow place names = one at moved ⊢
    generalize other.advance follow (Place.renamed folder folder' place) names = two at moved
    cases moved with
    | arrived clear => exact .found clear
    | missing rest clear => exact .missing rest clear
    | redirected names clear =>
      rw [advance_true_of_redirected advanced] at past
      exact ih clear past.2
    | failed error => exact .failed error

end

/-! Paths into a folder. -/

/-- A folder below the root that is reached without a link. -/
structure Direct (disk : Disk) (place : Place) : Prop where
  named : place ≠ []
  folder : ∀ above, above <+: place → disk.get? above = some .folder
  proper : ∀ name ∈ place, ProperName name
  short : ∀ name ∈ place, Text.byteLength name.toList ≤ nameLimit
  valid : ∀ name ∈ place, '\x00' ∉ name.toList

/-- The names in the tail of a path, with a dot where a separator ends it. -/
def onward (tail : List Char) : List String :=
  names (String.ofList tail) ++ if tail.getLast? = some '/' then ["."] else []

/-- A tail that goes one name further. -/
def joined (tail name : List Char) : List Char :=
  if tail.getLast? = some '/' then tail ++ name else tail ++ '/' :: name

namespace Direct

variable {disk : Disk} {place : Place}

theorem advance (direct : Direct disk place) (follow : Bool) (rest : List String) :
    disk.advance follow [] (place ++ rest) = disk.advance follow place rest := by
  have steps (done todo : Place) (split : done ++ todo = place) :
      disk.advance follow done (todo ++ rest) = disk.advance follow place rest := by
    induction todo generalizing done with
    | nil => rw [← split, List.append_nil, List.nil_append]
    | cons name todo ih =>
      have member : name ∈ place := by simp [← split]
      have further : done ++ [name] ++ todo = place := by simp [split]
      have proper := direct.proper name member
      rw [List.cons_append, advance_name proper.inner proper.down (Nat.not_lt.2 (direct.short name member)),
        direct.folder _ ⟨todo, further⟩]
      exact ih _ further
  exact steps [] place rfl

theorem walk (direct : Direct disk place) (follow : Bool) (links : Nat) (rest : List String) :
    disk.walk follow links [] (place ++ rest) = disk.walk follow links place rest := by
  cases links with
  | zero => rw [walk_zero, walk_zero, direct.advance]
  | succ links => rw [walk_succ, walk_succ, direct.advance]

theorem whole (direct : Direct disk place) : ∀ name ∈ place, '/' ∉ name.toList :=
  fun name member => (direct.proper name member).whole

theorem exists_concat (direct : Direct disk place) : ∃ before last, place = before ++ [last] :=
  ⟨place.dropLast, place.getLast direct.named, (List.dropLast_concat_getLast direct.named).symm⟩

theorem names_spelled (direct : Direct disk place) {tail : List Char} (begins : ∀ c ∈ tail.head?, c = '/') :
    names (String.ofList (place.spelled ++ tail)) = place ++ names (String.ofList tail) := by
  have kept : (place.map String.toList).filter (!·.isEmpty) = place.map String.toList := by
    refine List.filter_eq_self.2 fun text member => ?_
    obtain ⟨name, inside, rfl⟩ := List.mem_map.1 member
    simpa using (direct.proper name inside).filled
  have own : (place.map String.toList).map String.ofList = place := by simp
  rw [names_eq, names_eq, String.toList_ofList, String.toList_ofList]
  cases tail with
  | nil =>
    obtain ⟨before, last, rfl⟩ := direct.exists_concat
    have whole := direct.whole
    have above : ∀ name ∈ before, '/' ∉ name.toList := fun name member =>
      whole name (List.mem_append_left _ member)
    have ends : Path.pieces last.toList = [last.toList] := Path.pieces_of_not_mem (whole last (by simp))
    have cut : Path.pieces (Place.spelled (before ++ [last])) =
        [] :: (before ++ [last]).map String.toList := by
      rw [Place.spelled_concat, Place.pieces_spelled above, ends, List.map_append]
      rfl
    have none : Path.pieces [] = [[]] := rfl
    rw [List.append_nil, cut, List.filter_cons_of_neg (by simp), kept, own, none]
    simp
  | cons c tail =>
    obtain rfl := begins c rfl
    rw [Place.pieces_spelled direct.whole, ← List.nil_append ('/' :: tail),
      Path.pieces_cons tail List.not_mem_nil]
    simp [kept]

theorem getLast?_spelled (direct : Direct disk place) : place.spelled.getLast? ≠ some '/' := by
  obtain ⟨before, last, rfl⟩ := direct.exists_concat
  have proper := direct.proper last (by simp)
  have filled : last.toList ≠ [] := by simpa using proper.filled
  rw [Place.spelled_concat, ← List.singleton_append, ← List.append_assoc,
    List.getLast?_append_of_ne_nil _ filled]
  exact fun ends => proper.whole (List.mem_of_getLast? ends)

theorem steps_path (direct : Direct disk place) {tail : List Char} (begins : ∀ c ∈ tail.head?, c = '/') :
    steps (place.path tail).spelling = place ++ onward tail := by
  have named := direct.names_spelled begins
  have filled : (names (place.path tail).spelling).isEmpty = false := by
    rw [Place.path, named]
    simp [direct.named]
  have ends : endsInSeparator (place.path tail).spelling = decide (tail.getLast? = some '/') := by
    rw [endsInSeparator, Place.toList_path, Bool.eq_iff_iff, beq_iff_eq, decide_eq_true_iff]
    cases tail with
    | nil => simp [direct.getLast?_spelled]
    | cons c tail => rw [List.getLast?_append_of_ne_nil _ (List.cons_ne_nil c tail)]
  rw [steps, filled, ends, onward, Place.path, named]
  by_cases separated : tail.getLast? = some '/' <;> simp [separated]

theorem locate_path (direct : Direct disk place) {tail : List Char} (begins : ∀ c ∈ tail.head?, c = '/')
    (fits : Text.byteLength (place.spelled ++ tail) < pathLimit) (follow : Bool) :
    disk.locate follow (place.path tail) =
      if tail.contains '\x00' then .error .invalidName
      else disk.walk follow linkLimit place (onward tail) := by
  have written : (place.path tail).spelling.isEmpty = false := by
    rw [Bool.eq_false_iff, ne_eq, String.isEmpty_iff]
    exact Path.filled_of_isAbsolute (Place.isAbsolute_path direct.named tail)
  have valid : (place.path tail).spelling.toList.contains '\x00' = tail.contains '\x00' := by
    rw [Place.toList_path, Bool.eq_iff_iff, List.contains_iff_mem, List.contains_iff_mem, List.mem_append]
    refine or_iff_right fun inside => ?_
    obtain ⟨name, member, inside⟩ := List.mem_flatMap.1 inside
    exact direct.valid name member ((List.mem_cons.1 inside).resolve_left (by decide))
  rw [locate, locateBy, written, valid, Place.toList_path, if_neg (Nat.not_le.2 fits),
    Place.isAbsolute_path direct.named, direct.steps_path begins, if_pos rfl, direct.walk]
  rfl

theorem join_path (direct : Direct disk place) {tail : List Char} {name : Path}
    (relative : name.isAbsolute = false) :
    (place.path tail).join name = place.path (joined tail name.spelling.toList) := by
  have filled := Path.filled_of_isAbsolute (Place.isAbsolute_path direct.named tail)
  have ends : (place.path tail).spelling.toList.getLast? = some '/' ↔ tail.getLast? = some '/' := by
    rw [Place.toList_path]
    cases tail with
    | nil => simp [direct.getLast?_spelled]
    | cons c tail => rw [List.getLast?_append_of_ne_nil _ (List.cons_ne_nil c tail)]
  have outside : ¬(name.isAbsolute || (place.path tail).spelling.isEmpty) = true := by
    rw [relative, Bool.false_or, String.isEmpty_iff]
    exact filled
  rw [Path.join, if_neg outside, joined]
  by_cases separated : tail.getLast? = some '/'
  · rw [if_pos separated, if_pos (beq_iff_eq.2 (ends.2 separated))]
    refine congrArg Path.mk (String.toList_inj.1 ?_)
    simp [Place.path]
  · rw [if_neg separated, if_neg (by rwa [beq_iff_eq, ends])]
    refine congrArg Path.mk (String.toList_inj.1 ?_)
    simp [Place.path]

theorem above (direct : Direct disk place) {above : Place} (leads : above <+: place) (named : above ≠ []) :
    Direct disk above where
  named
  folder names prior := direct.folder names (prior.trans leads)
  proper name member := direct.proper name (leads.subset member)
  short name member := direct.short name (leads.subset member)
  valid name member := direct.valid name (leads.subset member)

theorem ownStatus (direct : Direct disk place) (fits : Text.byteLength place.spelled < pathLimit) :
    disk.ownStatus (place.path []) = .ok .folder := by
  have located := direct.locate_path (by simp) ((List.append_nil place.spelled).symm ▸ fits) false
  have here : onward [] = [] := by decide
  have stands := direct.folder place (List.prefix_refl place)
  rw [here, linkLimit, walk_succ, Disk.advance] at located
  exact ownStatus_eq_ok_iff.2 ⟨place, find_eq_ok_iff.2 ⟨located, stands⟩⟩

end Direct

/-- One folder, reached without a link, under two names. -/
structure RenamesFolder (disk other : Disk) (folder folder' : Place) : Prop extends
    Renames disk other folder folder' where
  direct : Direct disk folder
  direct' : Direct other folder'

/-- What lies behind a path into a folder: the way does not lead back to the folder by its name, and the path
is not too long. -/
structure Within (disk : Disk) (folder folder' : Place) (tail : List Char) : Prop where
  begins : ∀ c ∈ tail.head?, c = '/'
  past : disk.walksPast folder folder' linkLimit folder (onward tail) = true
  fits : Text.byteLength (folder.spelled ++ tail) < pathLimit
  fits' : Text.byteLength (folder'.spelled ++ tail) < pathLimit

/-- Entries found, up to the name of a folder. -/
inductive Found.Renamed (folder folder' : Place) :
    Except FileError (Place × Entry) → Except FileError (Place × Entry) → Prop
  | found {place : Place} (entry : Entry) : ¬folder' <+: place →
      Renamed folder folder' (.ok (place, entry)) (.ok (Place.renamed folder folder' place, entry))
  | failed (error : FileError) : Renamed folder folder' (.error error) (.error error)

namespace RenamesFolder

variable {disk other : Disk} {folder folder' : Place} {tail : List Char}
  (renames : RenamesFolder disk other folder folder') (within : Within disk folder folder' tail)
include renames within

theorem locate (follow : Bool) : Located.Renamed folder folder' (disk.locate follow (folder.path tail))
    (other.locate follow (folder'.path tail)) := by
  rw [renames.direct.locate_path within.begins within.fits, renames.direct'.locate_path within.begins within.fits']
  split
  · exact .failed _
  · have walked := renames.walk renames.start within.past follow
    rwa [Place.renamed_self] at walked

theorem find (follow : Bool) : Found.Renamed folder folder' (disk.find follow (folder.path tail))
    (other.find follow (folder'.path tail)) := by
  have located := renames.locate within follow
  unfold Disk.find
  generalize disk.locate follow (folder.path tail) = one, other.locate follow (folder'.path tail) = two at located
  cases located with
  | @found place clear =>
    dsimp only [bind, Except.bind]
    rw [renames.entry place clear]
    cases disk.get? place with
    | none => exact .failed _
    | some entry => exact .found entry clear
  | missing rest clear => exact .failed _
  | failed error => exact .failed error

theorem status : other.status (folder'.path tail) = disk.status (folder.path tail) := by
  have found := renames.find within true
  unfold Disk.status
  generalize disk.find true (folder.path tail) = one, other.find true (folder'.path tail) = two at found
  cases found <;> rfl

theorem ownStatus : other.ownStatus (folder'.path tail) = disk.ownStatus (folder.path tail) := by
  have found := renames.find within false
  unfold Disk.ownStatus
  generalize disk.find false (folder.path tail) = one, other.find false (folder'.path tail) = two at found
  cases found <;> rfl

/-- Only the folder that the renamed one stands in has another name in it. -/
theorem list (aside : ∀ entry, disk.find true (folder.path tail) ≠ .ok (folder.dropLast, entry)) :
    other.list (folder'.path tail) = disk.list (folder.path tail) := by
  have found := renames.find within true
  unfold Disk.list
  generalize disk.find true (folder.path tail) = one, other.find true (folder'.path tail) = two at found aside
  cases found with
  | @found place entry clear =>
    cases entry with
    | folder =>
      have apart : place ≠ folder.dropLast := by
        rintro rfl
        exact aside _ rfl
      exact congrArg Except.ok (renames.namesBelow clear apart)
    | file | link => rfl
  | failed error => rfl

end RenamesFolder

end Disk

end Querymap
