import Querymap.Proofs.Disk.Renamed
import Querymap.Proofs.Glob.Matches

/-! Patterns behind the path of a folder. If no wildcard stands in the path, it is taken as it is written: the
pattern is valid if it is valid alone, and its matches are those of the pattern alone from the folder on. -/
namespace Querymap

namespace Glob

/-- A pattern that stands for a text alone. -/
def Pattern.exactly (text : List Char) : Pattern := text.map .char

theorem literal?_exactly (text : List Char) : (Pattern.exactly text).literal? = some text := by
  induction text with
  | nil => rfl
  | cons c rest ih =>
    change (Pattern.literal? (Pattern.exactly rest)).map (c :: ·) = _
    rw [ih]
    rfl

theorem toOption_map {ε α β : Type} (result : Except ε α) (f : α → β) :
    (result.map f).toOption = result.toOption.map f := by
  cases result <;> rfl

/-- Where a text stands only matters to where it is at fault. -/
theorem toOption_readItems {before before' : Option Char}
    (edge : before.all (· == '/') = before'.all (· == '/')) (fuel position position' : Nat)
    (text : List Char) :
    (readItems fuel position before text).toOption = (readItems fuel position' before' text).toOption := by
  induction fuel generalizing position position' before before' text with
  | zero => cases text <;> rfl
  | succ fuel ih =>
    cases text with
    | nil => rfl
    | cons c rest =>
      have found (item : Item) (length : Nat) (last : Char) (rest : List Char) :
          ((readItems fuel (position + length) (some last) rest).map (item :: ·)).toOption =
            ((readItems fuel (position' + length) (some last) rest).map (item :: ·)).toOption := by
        rw [toOption_map, toOption_map, ih rfl (position + length) (position' + length) rest]
      unfold readItems
      dsimp only
      split
      · exact found _ _ _ _
      split
      · split
        · rfl
        · rw [edge]
          split
          · split
            · rfl
            · exact found _ _ _ _
            · rfl
          · rfl
        · exact found _ _ _ _
      split
      · split
        · split
          · exact found _ _ _ _
          · rfl
        · split
          · exact found _ _ _ _
          · rfl
      · exact found _ _ _ _

/-- Characters that are no wildcards stand for themselves. -/
theorem readItems_plain {plain : List Char} (fixed : plain.any isWild = false) (fuel position : Nat)
    (before : Option Char) (rest : List Char) :
    readItems (plain.length + fuel) position before (plain ++ rest) =
      (readItems fuel (position + plain.length) (plain.getLast?.or before) rest).map
        (Pattern.exactly plain ++ ·) := by
  induction plain generalizing position before with
  | nil =>
    rw [List.length_nil, Nat.zero_add]
    change readItems fuel position before rest = (readItems fuel position before rest).map id
    cases readItems fuel position before rest <;> rfl
  | cons c plain ih =>
    rw [List.any_cons, Bool.or_eq_false_iff] at fixed
    obtain ⟨own, others⟩ := fixed
    have noAny : c ≠ '?' := by rintro rfl; contradiction
    have noStar : c ≠ '*' := by rintro rfl; contradiction
    have noBracket : c ≠ '[' := by rintro rfl; contradiction
    have last : (c :: plain).getLast?.or before = plain.getLast?.or (some c) := by
      cases plain with
      | nil => rfl
      | cons next plain => rw [List.getLast?_cons_cons, List.getLast?_cons]; rfl
    have size : (c :: plain).length + fuel = plain.length + fuel + 1 := by
      rw [List.length_cons]
      omega
    have next : position + 1 + plain.length = position + (c :: plain).length := by
      rw [List.length_cons]
      omega
    rw [size, List.cons_append, readItems.eq_def]
    simp only [noAny, noStar, noBracket, ↓reduceIte, ih others, last, next]
    cases readItems fuel (position + (c :: plain).length) (plain.getLast?.or (some c)) rest <;> rfl

theorem read_plain {text : List Char} (fixed : text.any isWild = false) :
    Pattern.read text = .ok (Pattern.exactly text) := by
  have whole := readItems_plain fixed 0 0 none []
  rw [List.append_nil, Nat.add_zero] at whole
  rw [Pattern.read, whole, readItems]
  simp [Except.map]

/-- A path in front of a pattern does not make it invalid or valid. -/
theorem toOption_read_append {plain : List Char} (fixed : plain.any isWild = false) (text : List Char) :
    (Pattern.read (plain ++ '/' :: text)).toOption =
      (Pattern.read text).toOption.map (Pattern.exactly (plain ++ ['/']) ++ ·) := by
  have fixed : (plain ++ ['/']).any isWild = false := by
    rw [List.any_append, fixed]
    rfl
  have whole := readItems_plain fixed text.length 0 none text
  have size : (plain ++ '/' :: text).length = (plain ++ ['/']).length + text.length := by simp; omega
  have spelled : plain ++ '/' :: text = (plain ++ ['/']) ++ text := by simp
  rw [Pattern.read, size, spelled, whole, toOption_map, Pattern.read]
  refine congrArg (Option.map _) (toOption_readItems ?_ _ _ _ _)
  rw [List.getLast?_concat]
  rfl

/-- The pieces of a path with a text behind it, but for the empty one in front. -/
theorem pieces_drop_spelled {place : Place} (named : ∀ name ∈ place, '/' ∉ name.toList) (text : List Char) :
    pieces ((place.spelled ++ '/' :: text).drop 1) = place.map String.toList ++ pieces text := by
  obtain ⟨rest, begins⟩ := Place.exists_spelled_eq place text
  have whole := Place.pieces_spelled named text
  rw [begins, ← List.nil_append ('/' :: rest), Path.pieces_cons rest List.not_mem_nil] at whole
  have cut : Text.splitAt (· == '/') rest = place.map String.toList ++ Text.splitAt (· == '/') text :=
    (List.cons.inj whole).2
  have filled : Text.splitAt (· == '/') text ≠ [] := Path.pieces_ne_nil text
  rw [begins]
  change pieces rest = _
  simp only [pieces, cut, List.getLast?_append_of_ne_nil _ filled, List.dropLast_append_of_ne_nil filled]
  split <;> rfl

theorem mapM_exactly {texts : List (List Char)} (fixed : ∀ text ∈ texts, text.any isWild = false) :
    texts.mapM Pattern.read = .ok (texts.map Pattern.exactly) := by
  induction texts with
  | nil => rfl
  | cons text texts ih =>
    obtain ⟨own, others⟩ := List.forall_mem_cons.1 fixed
    rw [List.mapM_cons, read_plain own, ih others]
    rfl

theorem reads_of_relative {text : String} {glob : Glob} (relative : (⟨text⟩ : Path).isAbsolute = false)
    (read : ofPath ⟨text⟩ = .ok glob) : List.Forall₂ Reads (pieces text.toList) glob.names := by
  unfold ofPath at read
  rw [relative] at read
  dsimp only [bind, Except.bind] at read
  split at read
  · contradiction
  · split at read
    · contradiction
    · next names mapped =>
      cases read
      exact forall₂_of_mapM (fun _ _ => reads_of_read) mapped

theorem pieces_ne_nil {text : List Char} (filled : text ≠ []) : pieces text ≠ [] := by
  intro none
  rcases pieces_eq text with same | same <;> rw [none] at same
  · exact Path.pieces_ne_nil text same
  · exact filled (by rw [← Path.intercalate_pieces text, same]; rfl)

theorem filled_of_isGlob {text : String} (wild : isGlob text = true) : text.toList ≠ [] := by
  intro empty
  rw [isGlob_eq, empty] at wild
  contradiction

theorem names_ne_nil {text : String} {glob : Glob} (relative : (⟨text⟩ : Path).isAbsolute = false)
    (wild : isGlob text = true) (read : ofPath ⟨text⟩ = .ok glob) : glob.names ≠ [] := by
  have reads := reads_of_relative relative read
  obtain ⟨piece, others, cut⟩ := List.exists_cons_of_ne_nil (pieces_ne_nil (filled_of_isGlob wild))
  intro none
  rw [cut, none] at reads
  cases reads

/-- A pattern behind a path. -/
def based (place : Place) (glob : Glob) : Glob :=
  ⟨true, place.map (Pattern.exactly ·.toList) ++ glob.names, glob.onlyFolders⟩

/-- Behind the path of a folder without wildcards a pattern is read as it is alone. -/
theorem toOption_ofPath {place : Place} (proper : ∀ name ∈ place, '/' ∉ name.toList)
    (fixed : ∀ name ∈ place, isGlob name = false) (named : place ≠ []) {text : String}
    (relative : (⟨text⟩ : Path).isAbsolute = false) (filled : text.toList ≠ []) :
    (ofPath (place.path ('/' :: text.toList))).toOption = (ofPath ⟨text⟩).toOption.map (based place) := by
  have plain : place.spelled.any isWild = false := by
    rw [Place.spelled, List.any_flatMap, List.any_eq_false]
    intro name member
    rw [List.any_cons, ← isGlob_eq, fixed name member]
    decide
  -- The whole text is read for its faults, the names are read one by one.
  have read := toOption_read_append plain text.toList
  have cut := pieces_drop_spelled proper text.toList
  have names : (place.map String.toList ++ pieces text.toList).mapM Pattern.read =
      ((pieces text.toList).mapM Pattern.read).map (place.map (Pattern.exactly ·.toList) ++ ·) := by
    have first := @mapM_exactly (place.map String.toList) fun name member => by
      obtain ⟨own, inside, rfl⟩ := List.mem_map.1 member
      exact fixed own inside
    rw [List.mapM_append, first, List.map_map]
    cases (pieces text.toList).mapM Pattern.read <;> rfl
  have ends : (place.spelled ++ '/' :: text.toList).getLast? = text.toList.getLast? := by
    rw [List.getLast?_append_of_ne_nil _ (List.cons_ne_nil _ _), ← List.singleton_append,
      List.getLast?_append_of_ne_nil _ filled]
  unfold ofPath
  simp only [Place.isAbsolute_path named, Place.toList_path, relative, Bool.false_eq_true, ↓reduceIte, cut,
    names, ends]
  cases whole : Pattern.read text.toList with
  | error error =>
    rw [whole] at read
    cases spelled : Pattern.read (place.spelled ++ '/' :: text.toList) with
    | error error => rfl
    | ok pattern => rw [spelled] at read; contradiction
  | ok pattern =>
    rw [whole] at read
    cases spelled : Pattern.read (place.spelled ++ '/' :: text.toList) with
    | error error => rw [spelled] at read; contradiction
    | ok pattern =>
      cases (pieces text.toList).mapM Pattern.read <;> rfl

/-- A name that stands in a folder leads on. -/
theorem expandWithin_exactly {disk : Disk} {onlyFolders : Bool} {depth : Nat} {name : String}
    {rest : List Pattern} {folder : Path} (proper : Disk.ProperName name)
    (absolute : folder.isAbsolute = true) (stands : (disk.ownStatus (folder.join ⟨name⟩)).isOk = true)
    (more : rest ≠ []) :
    expandWithin disk onlyFolders (depth + 1) (Pattern.exactly name.toList :: rest) folder =
      expandWithin disk onlyFolders depth rest (folder.join ⟨name⟩) := by
  have filled : rest.isEmpty = false := by simpa using more
  have inner : (name.toList == ['.']) = false := by
    refine beq_false_of_ne fun same => proper.inner ?_
    rw [← String.toList_inj, same]
    rfl
  have down : (name.toList == ['.', '.']) = false := by
    refine beq_false_of_ne fun same => proper.down ?_
    rw [← String.toList_inj, same]
    rfl
  rw [expandWithin, expandName]
  simp only [literal?_exactly, child_eq_join absolute, String.ofList_toList, inner, down, stands,
    Bool.or_self, Bool.false_eq_true, ↓reduceIte, onward, filled, Bool.not_false]

/-- The matches of a pattern behind the path of a folder are those of the pattern from there on. -/
theorem expand_based {disk : Disk} {place : Place} (direct : disk.Direct place)
    (fits : Text.byteLength place.spelled < Disk.pathLimit) {glob : Glob} (more : glob.names ≠ []) :
    (based place glob).expand disk =
      expandWithin disk glob.onlyFolders (glob.names.length + Disk.pathLimit) glob.names (place.path []) := by
  let first (place : Place) : List Pattern := place.map (Pattern.exactly ·.toList)
  have one (depth : Nat) (name : String) (rest : List Pattern) (filled : rest ≠ []) (done todo : Place)
      (split : done ++ name :: todo = place) (folder : Path) (absolute : folder.isAbsolute = true)
      (next : folder.join ⟨name⟩ = Place.path (done ++ [name]) []) :
      expandWithin disk glob.onlyFolders (depth + 1) (Pattern.exactly name.toList :: rest) folder =
        expandWithin disk glob.onlyFolders depth rest (Place.path (done ++ [name]) []) := by
    have leads : done ++ [name] <+: place := ⟨todo, by simp [← split]⟩
    have stands := (direct.above leads (by simp)).ownStatus
      (Nat.lt_of_le_of_lt (Place.byteLength_spelled_le leads) fits)
    rw [expandWithin_exactly (direct.proper name (leads.subset (by simp))) absolute (by rw [next, stands]; rfl)
      filled, next]
  have run (done todo : Place) (named : done ≠ []) (split : done ++ todo = place) (depth : Nat) :
      expandWithin disk glob.onlyFolders (todo.length + depth) (first todo ++ glob.names) (done.path []) =
        expandWithin disk glob.onlyFolders depth glob.names (place.path []) := by
    induction todo generalizing done with
    | nil =>
      rw [← split, List.append_nil, List.length_nil, Nat.zero_add]
      rfl
    | cons name todo ih =>
      have size : (name :: todo).length + depth = todo.length + depth + 1 := by
        rw [List.length_cons]
        omega
      have relative := Disk.isAbsolute_of_whole (direct.proper name (by simp [← split])).whole
      have next : (done.path []).join ⟨name⟩ = Place.path (done ++ [name]) [] := by
        rw [(direct.above ⟨_, split⟩ named).join_path relative, Place.path, Place.path, Place.spelled_concat,
          List.append_nil]
        rfl
      rw [size]
      exact (one _ _ _ (by simp [more]) done todo split _ (Place.isAbsolute_path named []) next).trans
        (ih (done ++ [name]) (by simp) (by simp [← split]))
  obtain ⟨name, todo, rfl⟩ := List.exists_cons_of_ne_nil direct.named
  have size : (based (name :: todo) glob).names.length + Disk.pathLimit =
      todo.length + (glob.names.length + Disk.pathLimit) + 1 := by
    simp only [based, List.map_cons, List.cons_append, List.length_cons, List.length_append, List.length_map]
    omega
  have next : (⟨"/"⟩ : Path).join ⟨name⟩ = Place.path ([] ++ [name]) [] := by
    have relative := Disk.isAbsolute_of_whole (direct.proper name List.mem_cons_self).whole
    have filled : ("/" : String).isEmpty = false := by decide
    have ends : (("/" : String).toList.getLast? == some '/') = true := by decide
    rw [Path.join, relative, filled, if_neg (by decide), if_pos ends]
    refine congrArg Path.mk (String.toList_inj.1 ?_)
    simp [Place.spelled]
  rw [expand, size]
  exact (one _ _ _ (by simp [more]) [] todo rfl _ (by decide) next).trans (run [name] todo (by simp) rfl _)

end Glob

end Querymap
