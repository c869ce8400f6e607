import Mathlib.Data.List.TakeDrop
import Querymap.Proofs.Disk.Lexical
import Querymap.Scan

/-! How far the matches of a wildcard pattern lie from its fixed part. What is read from a name without a
wildcard stands for that name alone, so the matches are found below a folder of the same components as the
fixed part, and they stay below it unless names that match `..` lead out again. -/
namespace Querymap.Glob

/-- A character that makes a text a wildcard pattern. -/
def isWild (c : Char) : Bool := c == '*' || c == '?' || c == '['

theorem isGlob_eq (text : String) : isGlob text = text.toList.any isWild := rfl

/-- How a pattern is read: other characters stand for themselves, and an item for more than itself begins
with a wildcard. -/
inductive Reads : List Char → Pattern → Prop
  | nil : Reads [] []
  | char {c : Char} {rest : List Char} {items : Pattern} : isWild c = false → Reads rest items →
      Reads (c :: rest) (.char c :: items)
  | wild {c : Char} {rest after : List Char} {item : Item} {items : Pattern} : isWild c = true →
      (∀ c, item ≠ .char c) → after <:+ rest → Reads after items → Reads (c :: rest) (item :: items)

theorem bracket?_suffix {text inner after : List Char} (found : bracket? text = some (inner, after)) :
    after <:+ text := by
  unfold bracket? at found
  split at found
  · contradiction
  · next first rest =>
    rw [List.span_eq_takeWhile_dropWhile] at found
    split at found
    · next more closing later cut =>
      obtain ⟨_, rfl⟩ := Prod.mk.inj (Option.some.inj found)
      have ends : closing :: later <:+ rest := by
        rw [← (Prod.mk.inj cut).2]
        exact List.dropWhile_suffix _
      exact ((List.suffix_cons closing later).trans ends).trans (List.suffix_cons first rest)
    · contradiction

theorem exists_of_map_eq_ok {ε α β : Type} {result : Except ε α} {f : α → β} {value : β}
    (mapped : result.map f = .ok value) : ∃ inner, result = .ok inner ∧ f inner = value := by
  cases result with
  | error => contradiction
  | ok inner => exact ⟨inner, rfl, Except.ok.inj mapped⟩

theorem reads_of_readItems {fuel position : Nat} {before : Option Char} {text : List Char}
    {items : Pattern} (enough : text.length ≤ fuel)
    (read : readItems fuel position before text = .ok items) : Reads text items := by
  induction fuel generalizing position before text items with
  | zero =>
    rw [List.length_eq_zero_iff.1 (Nat.le_zero.1 enough)] at read ⊢
    rw [readItems] at read
    cases read
    exact .nil
  | succ fuel ih =>
    cases text with
    | nil =>
      rw [readItems] at read
      cases read
      exact .nil
    | cons c rest =>
      have shorter : rest.length ≤ fuel := Nat.le_of_succ_le_succ enough
      have wild {after : List Char} {item : Item} {position : Nat} {before : Option Char}
          (begins : isWild c = true) (kind : ∀ c, item ≠ .char c) (suffix : after <:+ rest)
          (read : (readItems fuel position before after).map (item :: ·) = .ok items) :
          Reads (c :: rest) items := by
        obtain ⟨later, inner, rfl⟩ := exists_of_map_eq_ok read
        exact .wild begins kind suffix (ih (Nat.le_trans suffix.length_le shorter) inner)
      unfold readItems at read
      dsimp only at read
      split at read
      · next any => exact wild (by simp [any, isWild]) (by simp) (List.suffix_refl _) read
      split at read
      · next star =>
        have begins : isWild c = true := by simp [star, isWild]
        split at read
        · contradiction
        · next rest =>
          split at read
          · split at read
            · cases read
              exact .wild begins (by simp) (List.nil_suffix) .nil
            · next after =>
              exact wild begins (by simp)
                ((List.suffix_cons '/' after).trans (List.suffix_cons '*' _)) read
            · contradiction
          · contradiction
        · exact wild begins (by simp) (List.suffix_refl _) read
      split at read
      · next opening =>
        have begins : isWild c = true := by simp [opening, isWild]
        split at read
        · next rest =>
          split at read
          · next found =>
            exact wild begins (by simp) ((bracket?_suffix found).trans (List.suffix_cons '!' rest)) read
          · contradiction
        · split at read
          · next found => exact wild begins (by simp) (bracket?_suffix found) read
          · contradiction
      · next noAny noStar noBracket =>
        obtain ⟨later, inner, rfl⟩ := exists_of_map_eq_ok read
        exact .char (by simp [isWild, noAny, noStar, noBracket]) (ih shorter inner)

theorem reads_of_read {text : List Char} {pattern : Pattern} (read : Pattern.read text = .ok pattern) :
    Reads text pattern :=
  reads_of_readItems (Nat.le_refl _) read

namespace Reads

variable {text : List Char} {pattern : Pattern}

theorem mem_of_char (reads : Reads text pattern) {c : Char} (member : .char c ∈ pattern) : c ∈ text := by
  induction reads with
  | nil => contradiction
  | char _ _ ih =>
    rcases List.mem_cons.1 member with same | member
    · exact Item.char.inj same ▸ List.mem_cons_self
    · exact List.mem_cons_of_mem _ (ih member)
  | wild _ kind suffix _ ih =>
    rcases List.mem_cons.1 member with same | member
    · exact absurd same.symm (kind c)
    · exact List.mem_cons_of_mem _ (suffix.subset (ih member))

theorem literal?_eq (reads : Reads text pattern) :
    pattern.literal? = if text.any isWild then none else some text := by
  induction reads with
  | nil => rfl
  | char plain _ ih =>
    rw [Pattern.literal?, ih, List.any_cons, plain, Bool.false_or]
    split <;> rfl
  | @wild c rest after item items begins kind =>
    rw [List.any_cons, begins, Bool.true_or, if_pos rfl]
    cases item <;> first | exact absurd rfl (kind _) | rfl

end Reads

theorem forall₂_of_mapM {ε α β : Type} {f : α → Except ε β} {R : α → β → Prop}
    (each : ∀ a b, f a = .ok b → R a b) {inputs : List α} {results : List β}
    (mapped : inputs.mapM f = .ok results) : List.Forall₂ R inputs results := by
  induction inputs generalizing results with
  | nil =>
    cases mapped
    exact .nil
  | cons input rest ih =>
    rw [List.mapM_cons] at mapped
    cases first : f input with
    | error => rw [first] at mapped; cases mapped
    | ok result =>
      cases others : rest.mapM f with
      | error => rw [first, others] at mapped; cases mapped
      | ok results =>
        rw [first, others] at mapped
        cases mapped
        exact .cons (each _ _ first) (ih others)

/-- No piece stands behind a separator at the end of a pattern. -/
theorem pieces_eq (text : List Char) :
    Path.pieces text = pieces text ∨ Path.pieces text = pieces text ++ [[]] := by
  unfold pieces
  dsimp only
  split
  · next ends =>
    obtain ⟨before, split⟩ := List.getLast?_eq_some_iff.1 (beq_iff_eq.1 ends)
    refine .inr ?_
    rw [split, List.dropLast_concat]
    exact split
  · exact .inl rfl

theorem notMem_of_mem_pieces {text : List Char} : ∀ piece ∈ pieces text, '/' ∉ piece := by
  intro piece member
  refine @Path.notMem_of_mem_pieces text piece ?_
  rcases pieces_eq text with same | same <;> rw [same]
  · exact member
  · exact List.mem_append_left _ member

theorem reads_of_ofPath {path : Path} {glob : Glob} {text : List Char}
    (spelled : path.spelling.toList = '/' :: text) (read : ofPath path = .ok glob) :
    glob.absolute = true ∧ List.Forall₂ Reads (pieces text) glob.names := by
  have absolute : path.isAbsolute = true := by rw [Path.isAbsolute, spelled]; rfl
  unfold ofPath at read
  rw [absolute, spelled] at read
  dsimp only [bind, Except.bind] at read
  split at read
  · contradiction
  · split at read
    · contradiction
    · next names mapped =>
      cases read
      exact ⟨rfl, forall₂_of_mapM (fun _ _ => reads_of_read) mapped⟩

theorem child_eq_join {folder : Path} (absolute : folder.isAbsolute = true) (name : String) :
    child folder name = folder.join ⟨name⟩ := by
  refine if_neg fun same => ?_
  have relative : (⟨"."⟩ : Path).isAbsolute = false := by decide
  rw [Path.isAbsolute_of_same same, relative] at absolute
  contradiction

theorem isAbsolute_join {folder : Path} (absolute : folder.isAbsolute = true) (path : Path) :
    (folder.join path).isAbsolute = true := by
  rw [← Path.root_mem_components_iff, Path.components_join]
  rw [← Path.root_mem_components_iff] at absolute
  split
  · next stands =>
    rcases stands with own | none
    · exact Path.root_mem_components_iff.2 own
    · rw [none] at absolute
      contradiction
  · exact List.mem_append_left _ absolute

/-- Whether a pattern stands for a special name of a folder. -/
def Pattern.standsFor (pattern : Pattern) (name : String) : Bool :=
  pattern.head? == some (.char '.') && pattern.isMatch name.toList

/-- How names lead from a folder to a match. -/
inductive Leads (disk : Disk) : List Pattern → Path → Path → Prop
  | here (path : Path) : Leads disk [] path path
  | literal {pattern : Pattern} {name : List Char} {rest : List Pattern} {folder found : Path} :
      pattern.literal? = some name → Leads disk rest (child folder (String.ofList name)) found →
      Leads disk (pattern :: rest) folder found
  | special {pattern : Pattern} {name : String} {rest : List Pattern} {folder found : Path} :
      disk.isFolder folder = true → name = ".." ∨ name = "." → pattern.standsFor name = true →
      Leads disk rest (folder.join ⟨name⟩) found → Leads disk (pattern :: rest) folder found
  | named {pattern : Pattern} {name : String} {names : List String} {rest : List Pattern}
      {folder found : Path} : disk.isFolder folder = true → disk.list folder = .ok names → name ∈ names →
      pattern.isFolders = false → pattern.isMatch name.toList = true →
      Leads disk rest (child folder name) found → Leads disk (pattern :: rest) folder found
  | skip {pattern : Pattern} {rest : List Pattern} {folder found : Path} :
      disk.isFolder folder = true → pattern.isFolders = true → Leads disk rest folder found →
      Leads disk (pattern :: rest) folder found
  | deeper {pattern : Pattern} {name : String} {names : List String} {rest : List Pattern}
      {folder found : Path} : disk.isFolder folder = true → disk.list folder = .ok names → name ∈ names →
      pattern.isFolders = true → Leads disk (pattern :: rest) (child folder name) found →
      Leads disk (pattern :: rest) folder found

section

variable {disk : Disk} {onlyFolders : Bool} {pattern : Pattern} {patterns rest : List Pattern}
  {folder path found : Path}

namespace Leads

theorem skips (inside : disk.isFolder folder = true) (leads : Leads disk rest folder found)
    {front : List Pattern} (folders : ∀ pattern ∈ front, pattern.isFolders = true) :
    Leads disk (front ++ rest) folder found := by
  induction front with
  | nil => exact leads
  | cons pattern front ih =>
    obtain ⟨first, others⟩ := List.forall_mem_cons.1 folders
    exact .skip inside first (ih others)

/-- Further patterns for folders make no difference behind one of them. -/
theorem insert (wide : pattern.isFolders = true) (leads : Leads disk (pattern :: rest) folder found)
    {front : List Pattern} (folders : ∀ pattern ∈ front, pattern.isFolders = true) :
    Leads disk (pattern :: (front ++ rest)) folder found := by
  have plain : pattern = [.folders] := by simpa [Pattern.isFolders] using wide
  generalize whole : pattern :: rest = all at leads
  induction leads with
  | here => contradiction
  | literal exact =>
    cases whole
    rw [plain] at exact
    contradiction
  | special _ _ stands =>
    cases whole
    rw [plain] at stands
    contradiction
  | named _ _ _ narrow =>
    cases whole
    rw [wide] at narrow
    contradiction
  | skip inside wide leads =>
    cases whole
    exact .skip inside wide (leads.skips inside folders)
  | deeper inside listed member wide _ ih =>
    cases whole
    exact .deeper inside listed member wide (ih rfl)

end Leads

theorem fileName?_child {name : String} (proper : Disk.ProperName name) (folder : Path) :
    (child folder name).fileName? = some name := by
  have own := proper.pieceComponents
  have relative := Disk.isAbsolute_of_whole proper.whole
  have alone : (⟨name⟩ : Path).components = [.name name] := by
    rw [Path.components_eq, relative]
    exact own true
  have last : (child folder name).components.getLast? = some (.name name) := by
    unfold child
    split
    · rw [alone]
      rfl
    · rw [Path.components_join, own false]
      split
      · rw [alone]
        rfl
      · exact List.getLast?_concat
  rw [Path.fileName?, last]

section

variable {expand : List Pattern → Path → List Path} {name : String} {names : List String}
  (sound : ∀ {patterns : List Pattern} {folder : Path},
    found ∈ expand patterns folder → Leads disk patterns folder found)
include sound

theorem leads_of_mem_onward (member : found ∈ onward disk onlyFolders expand rest path) :
    Leads disk rest path found := by
  unfold onward at member
  split at member
  · exact sound member
  · next last =>
    obtain rfl : rest = [] := by simpa using last
    split at member
    · exact List.mem_singleton.1 member ▸ .here _
    · contradiction

theorem leads_of_mem_ifMatched (proper : Disk.ProperName name)
    (member : found ∈ ifMatched disk onlyFolders expand pattern rest (child folder name)) :
    pattern.isMatch name.toList = true ∧ Leads disk rest (child folder name) found := by
  rw [ifMatched, fileName?_child proper] at member
  obtain ⟨fits, member⟩ := List.mem_ite_nil_right.1 member
  exact ⟨fits, leads_of_mem_onward sound member⟩

theorem leads_of_mem_visit (inside : disk.isFolder folder = true) (listed : disk.list folder = .ok names)
    (below : name ∈ names) (proper : Disk.ProperName name)
    (member : found ∈ visit disk onlyFolders expand pattern rest (child folder name)) :
    Leads disk (pattern :: rest) folder found := by
  unfold visit at member
  split at member
  · next wide =>
    have folders : ∀ pattern ∈ rest.takeWhile Pattern.isFolders, pattern.isFolders = true :=
      List.all_eq_true.1 List.all_takeWhile
    rw [← List.takeWhile_append_dropWhile (p := Pattern.isFolders) (l := rest)]
    dsimp only at member
    cases goes : rest.dropWhile Pattern.isFolders with
    | nil =>
      rw [goes] at member
      obtain ⟨deeper, member⟩ := List.mem_ite_nil_right.1 member
      refine .deeper inside listed below wide ?_
      rcases List.mem_cons.1 member with rfl | member
      · exact .skip deeper wide ((Leads.here _).skips deeper folders)
      · exact (sound (List.mem_ite_nil_right.1 member).2).insert wide folders
    | cons next later =>
      rw [goes] at member
      rcases List.mem_append.1 member with member | member
      · obtain ⟨fits, leads⟩ := leads_of_mem_ifMatched sound proper member
        have narrow : next.isFolders = false := by
          have := List.head?_dropWhile_not Pattern.isFolders rest
          simpa [goes] using this
        exact .skip inside wide ((Leads.named inside listed below narrow fits leads).skips inside folders)
      · have leads := sound (List.mem_ite_nil_right.1 member).2
        exact .deeper inside listed below wide (leads.insert wide folders)
  · next narrow =>
    obtain ⟨fits, leads⟩ := leads_of_mem_ifMatched sound proper member
    exact .named inside listed below (Bool.eq_false_iff.2 narrow) fits leads

theorem leads_of_mem_expandName (named : disk.Named)
    (member : found ∈ expandName disk onlyFolders expand pattern rest folder) :
    Leads disk (pattern :: rest) folder found := by
  unfold expandName at member
  split at member
  · next name exact =>
    exact .literal exact (leads_of_mem_onward sound (List.mem_ite_nil_right.1 member).2)
  · split at member
    · next names inside listed =>
      rcases List.mem_append.1 member with special | regular
      · obtain ⟨name, kept, member⟩ := List.mem_flatMap.1 special
        obtain ⟨offered, matched⟩ := List.mem_filter.1 kept
        obtain ⟨begins, which⟩ := List.mem_ite_nil_right.1 offered
        refine .special inside (by simpa using which) ?_ (leads_of_mem_onward sound member)
        rw [Pattern.standsFor, begins, matched]
        rfl
      · obtain ⟨name, below, member⟩ := List.mem_flatMap.1 regular
        exact leads_of_mem_visit sound inside listed below (named.of_mem_list listed below) member
    · contradiction

end

/-- Every match is led to. -/
theorem leads_of_mem_expandWithin (named : disk.Named) {fuel : Nat}
    (member : found ∈ expandWithin disk onlyFolders fuel patterns folder) :
    Leads disk patterns folder found := by
  induction fuel generalizing patterns folder with
  | zero => contradiction
  | succ fuel ih =>
    cases patterns with
    | nil => contradiction
    | cons pattern rest => exact leads_of_mem_expandName ih named member

theorem Pattern.eq_of_isMatch {text other : List Char} (exact : pattern.literal? = some text)
    (matched : pattern.isMatch other = true) : other = text := by
  induction pattern generalizing text other with
  | nil =>
    cases exact
    simpa [Pattern.isMatch] using matched
  | cons item items ih =>
    cases item with
    | char c =>
      obtain ⟨rest, later, rfl⟩ := Option.map_eq_some_iff.1 exact
      cases other with
      | nil => contradiction
      | cons first others =>
        have parts : first = c ∧ Pattern.isMatch items others = true := by
          simpa [Pattern.isMatch] using matched
        rw [parts.1, ih later parts.2]
    | _ => contradiction

theorem Pattern.isFolders_eq_false_of_literal {text : List Char} (exact : pattern.literal? = some text) :
    pattern.isFolders = false := by
  refine Bool.eq_false_iff.2 fun wide => ?_
  rw [show pattern = [.folders] by simpa [Pattern.isFolders] using wide] at exact
  contradiction

/-- Names without wildcards lead to a folder spelled by them. -/
theorem Leads.join_of_literal {text : List Char} (absolute : folder.isAbsolute = true)
    (exact : pattern.literal? = some text) (leads : Leads disk (pattern :: rest) folder found) :
    Leads disk rest (folder.join ⟨String.ofList text⟩) found := by
  have narrow := Pattern.isFolders_eq_false_of_literal exact
  cases leads with
  | literal own leads =>
    cases exact.symm.trans own
    rwa [child_eq_join absolute] at leads
  | special _ _ stands leads =>
    obtain ⟨_, matched⟩ := Bool.and_eq_true_iff.1 stands
    rwa [← Pattern.eq_of_isMatch exact matched, String.ofList_toList]
  | named _ _ _ _ matched leads =>
    rwa [← Pattern.eq_of_isMatch exact matched, String.ofList_toList, ← child_eq_join absolute]
  | skip _ wide => cases narrow.symm.trans wide
  | deeper _ _ _ wide => cases narrow.symm.trans wide

theorem Leads.isFolder (wild : pattern.literal? = none) (leads : Leads disk (pattern :: rest) folder found) :
    disk.isFolder folder = true := by
  cases leads with
  | literal exact => cases wild.symm.trans exact
  | special inside | named inside | skip inside | deeper inside => exact inside

theorem components_join_piece {piece : List Char} (absolute : folder.isAbsolute = true)
    (whole : '/' ∉ piece) : (folder.join ⟨String.ofList piece⟩).components =
      folder.components ++ Path.pieceComponents false [piece] := by
  have relative : (⟨String.ofList piece⟩ : Path).isAbsolute = false :=
    Disk.isAbsolute_of_whole (by simpa using whole)
  have filled : folder.components ≠ [] := List.ne_nil_of_mem (Path.root_mem_components_iff.2 absolute)
  rw [Path.components_join, if_neg (by simp [relative, filled]), String.toList_ofList,
    Path.pieces_of_not_mem whole]

/-- The names before the first one with a wildcard lead to a folder, and the others go on from it. -/
theorem Leads.fixed {pieces : List (List Char)} (reads : List.Forall₂ Reads pieces patterns)
    (absolute : folder.isAbsolute = true) (whole : ∀ piece ∈ pieces, '/' ∉ piece)
    (wild : ∃ piece ∈ pieces, piece.any isWild = true) (leads : Leads disk patterns folder found) :
    ∃ inner, inner.components =
        folder.components ++ Path.pieceComponents false (pieces.takeWhile (!·.any isWild)) ∧
      disk.isFolder inner = true ∧
      Leads disk (patterns.dropWhile (·.literal?.isSome)) inner found := by
  induction reads generalizing folder with
  | nil =>
    obtain ⟨_, member, _⟩ := wild
    contradiction
  | @cons piece pattern pieces rest read reads ih =>
    obtain ⟨plain, others⟩ := List.forall_mem_cons.1 whole
    by_cases begins : piece.any isWild = true
    · have open? : pattern.literal? = none := by rw [read.literal?_eq, if_pos begins]
      refine ⟨folder, ?_, leads.isFolder open?, ?_⟩
      · simp [begins, Path.pieceComponents]
      · simpa [open?] using leads
    · have exact : pattern.literal? = some piece := by rw [read.literal?_eq, if_neg begins]
      have later : ∃ piece ∈ pieces, piece.any isWild = true := by
        obtain ⟨other, member, wild⟩ := wild
        rcases List.mem_cons.1 member with rfl | member
        · exact absurd wild begins
        · exact ⟨other, member, wild⟩
      obtain ⟨inner, components, inside, leads⟩ :=
        ih (isAbsolute_join absolute _) others later (leads.join_of_literal absolute exact)
      refine ⟨inner, ?_, inside, ?_⟩
      · rw [components, components_join_piece absolute plain,
          List.takeWhile_cons_of_pos (by simpa using begins), List.append_assoc]
        simp [Path.pieceComponents]
      · rwa [List.dropWhile_cons_of_pos (by simp [exact])]

theorem notMem_of_reads {pieces : List (List Char)} (reads : List.Forall₂ Reads pieces patterns)
    (whole : ∀ piece ∈ pieces, '/' ∉ piece) : ∀ pattern ∈ patterns, .char '/' ∉ pattern := by
  induction reads with
  | nil => exact nofun
  | cons read _ ih =>
    obtain ⟨plain, others⟩ := List.forall_mem_cons.1 whole
    exact List.forall_mem_cons.2 ⟨fun separated => plain (read.mem_of_char separated), ih others⟩

/-- Whether matches of patterns, from so many folders below a start, never lie above it. -/
def staysBelow : Nat → List Pattern → Bool
  | _, [] => true
  | depth, pattern :: rest =>
    if pattern.standsFor ".." then 0 < depth && staysBelow (depth - 1) rest
    else if pattern.standsFor "." || pattern.isEmpty || pattern.isFolders then staysBelow depth rest
    else staysBelow (depth + 1) rest

theorem staysBelow_mono {depth more : Nat} (deeper : depth ≤ more)
    (stays : staysBelow depth patterns = true) : staysBelow more patterns = true := by
  induction patterns generalizing depth more with
  | nil => rfl
  | cons pattern rest ih =>
    rw [staysBelow] at stays ⊢
    split at stays
    · next up =>
      obtain ⟨inside, later⟩ := Bool.and_eq_true_iff.1 stays
      have inside : 0 < depth := by simpa using inside
      rw [if_pos up, ih (Nat.sub_le_sub_right deeper 1) later]
      simpa using Nat.lt_of_lt_of_le inside deeper
    · next up =>
      rw [if_neg up]
      split at stays
      · next same => rw [if_pos same, ih deeper stays]
      · next down => rw [if_neg down, ih (Nat.succ_le_succ deeper) stays]

section

variable {depth : Nat} (stays : staysBelow depth (pattern :: rest) = true)
include stays

theorem staysBelow_up (up : pattern.standsFor ".." = true) :
    ∃ above, depth = above + 1 ∧ staysBelow above rest = true := by
  rw [staysBelow, if_pos up] at stays
  obtain ⟨inside, later⟩ := Bool.and_eq_true_iff.1 stays
  have inside : 0 < depth := by simpa using inside
  exact ⟨depth - 1, by omega, later⟩

theorem staysBelow_down : staysBelow (depth + 1) rest = true := by
  by_cases up : pattern.standsFor ".." = true
  · obtain ⟨above, rfl, later⟩ := staysBelow_up stays up
    exact staysBelow_mono (by omega) later
  · rw [staysBelow, if_neg up] at stays
    split at stays
    · exact staysBelow_mono (Nat.le_succ depth) stays
    · exact stays

theorem staysBelow_same
    (same : (pattern.standsFor "." || pattern.isEmpty || pattern.isFolders) = true) :
    staysBelow depth rest = true := by
  by_cases up : pattern.standsFor ".." = true
  · obtain ⟨above, rfl, later⟩ := staysBelow_up stays up
    exact staysBelow_mono (Nat.le_succ above) later
  · rwa [staysBelow, if_neg up, if_pos same] at stays

end

/-- A path of so many names below a place at least. -/
def Below (disk : Disk) (place : Place) (depth : Nat) (path : Path) : Prop :=
  path.isAbsolute = true ∧ ∃ names, depth ≤ names.length ∧ disk.resolved path = place ++ names

section

variable {place : Place} {depth : Nat} {name : String} (below : Below disk place depth path)
include below

theorem Below.resolved_join (whole : '/' ∉ name.toList) : disk.resolved (path.join ⟨name⟩) =
    if name = "" then disk.resolved path else Disk.onto (disk.resolved path) name := by
  refine Disk.resolved_join (fun empty => ?_) whole disk
  have absolute := below.1
  rw [Path.isAbsolute, empty] at absolute
  contradiction

theorem Below.down (filled : name ≠ "") (inner : name ≠ ".") (up : name ≠ "..")
    (whole : '/' ∉ name.toList) : Below disk place (depth + 1) (path.join ⟨name⟩) := by
  obtain ⟨names, deep, resolved⟩ := below.2
  refine ⟨isAbsolute_join below.1 _, names ++ [name], by simpa using deep, ?_⟩
  rw [below.resolved_join whole, if_neg filled, Disk.onto, if_neg inner, if_neg up, resolved,
    List.append_assoc]

theorem Below.same (same : name = "" ∨ name = ".") : Below disk place depth (path.join ⟨name⟩) := by
  obtain ⟨names, deep, resolved⟩ := below.2
  refine ⟨isAbsolute_join below.1 _, names, deep, ?_⟩
  rcases same with rfl | rfl
  · rw [below.resolved_join (by simp), if_pos rfl, resolved]
  · rw [below.resolved_join (by decide), if_neg (by decide), Disk.onto, if_pos rfl, resolved]

end

theorem Below.up {place : Place} {depth : Nat} (below : Below disk place (depth + 1) path) :
    Below disk place depth (path.join ⟨".."⟩) := by
  obtain ⟨names, deep, resolved⟩ := below.2
  have filled : names ≠ [] := List.ne_nil_of_length_pos (by omega)
  refine ⟨isAbsolute_join below.1 _, names.dropLast, by rw [List.length_dropLast]; omega, ?_⟩
  rw [below.resolved_join (by decide), if_neg (by decide), Disk.onto, if_neg (by decide), if_pos rfl,
    resolved, List.dropLast_append_of_ne_nil filled]

theorem Pattern.eq_map_of_literal {text : List Char} (exact : pattern.literal? = some text) :
    pattern = text.map .char := by
  induction pattern generalizing text with
  | nil =>
    cases exact
    rfl
  | cons item items ih =>
    cases item with
    | char c =>
      obtain ⟨rest, later, rfl⟩ := Option.map_eq_some_iff.1 exact
      rw [ih later]
      rfl
    | _ => contradiction

/-- Matches stay below a place as the patterns do. -/
theorem Leads.staysBelow (named : disk.Named) {place : Place} {depth : Nat}
    (leads : Leads disk patterns folder found) (below : Below disk place depth folder)
    (whole : ∀ pattern ∈ patterns, .char '/' ∉ pattern) (stays : Glob.staysBelow depth patterns = true) :
    Below disk place 0 found := by
  induction leads generalizing depth with
  | here path => exact ⟨below.1, below.2.imp fun _ inside => ⟨Nat.zero_le _, inside.2⟩⟩
  | @literal pattern name _ folder _ exact _ ih =>
    obtain ⟨first, others⟩ := List.forall_mem_cons.1 whole
    have spelled := Pattern.eq_map_of_literal exact
    have uncut : '/' ∉ (String.ofList name).toList := by
      rw [String.toList_ofList]
      exact fun member => first (spelled ▸ List.mem_map_of_mem member)
    rw [child_eq_join below.1] at ih
    by_cases none : name = []
    · subst none
      exact ih (below.same (.inl rfl)) others (staysBelow_same stays (by simp [spelled]))
    by_cases inner : name = ['.']
    · subst inner
      exact ih (below.same (.inr rfl)) others (staysBelow_same stays (by rw [spelled]; rfl))
    by_cases up : name = ['.', '.']
    · subst up
      obtain ⟨above, rfl, later⟩ := staysBelow_up stays (by rw [spelled]; rfl)
      exact ih below.up others later
    · refine ih (below.down ?_ ?_ ?_ uncut) others (staysBelow_down stays)
      · simpa using none
      · exact fun same => inner (by rw [← String.toList_ofList (l := name), same]; rfl)
      · exact fun same => up (by rw [← String.toList_ofList (l := name), same]; rfl)
  | special inside which stands _ ih =>
    have others := (List.forall_mem_cons.1 whole).2
    rcases which with rfl | rfl
    · obtain ⟨above, rfl, later⟩ := staysBelow_up stays stands
      exact ih below.up others later
    · exact ih (below.same (.inr rfl)) others (staysBelow_same stays (by rw [stands]; rfl))
  | named inside listed member narrow matched _ ih =>
    have proper := named.of_mem_list listed member
    rw [child_eq_join below.1] at ih
    exact ih (below.down proper.filled proper.inner proper.down proper.whole)
      (List.forall_mem_cons.1 whole).2 (staysBelow_down stays)
  | skip inside wide _ ih =>
    exact ih below (List.forall_mem_cons.1 whole).2 (staysBelow_same stays (by simp [wide]))
  | deeper inside listed member wide _ ih =>
    have proper := named.of_mem_list listed member
    rw [child_eq_join below.1] at ih
    exact ih (below.down proper.filled proper.inner proper.down proper.whole) whole
      (staysBelow_mono (Nat.le_succ _) stays)

end

end Querymap.Glob
