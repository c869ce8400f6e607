import Querymap.Proofs.Scan.Growth

/-! The folders that are watched for the inputs. Every file of a scan lies below the folder of its input. That
folder may be left to another one whose components begin it, which holds the file too unless the components
that follow lead out again. -/
namespace Querymap

namespace Path

/-- Whether components, from so many folders below a start, never lead above it. -/
def staysBelow : Nat → List Component → Bool
  | _, [] => true
  | depth, .parent :: rest => 0 < depth && staysBelow (depth - 1) rest
  | depth, .name _ :: rest => staysBelow (depth + 1) rest
  | depth, _ :: rest => staysBelow depth rest

end Path

open Disk

section

variable {disk : Disk} {base path file folder : Path} {inputs : List String} {withCompiled : Bool}
  {text : String}

namespace Scan

theorem prefix_of_mem_below (named : disk.Named) {depth : Nat} (absolute : folder.isAbsolute = true)
    (found : file ∈ (below disk withCompiled depth folder).files) :
    disk.resolved folder <+: disk.resolved file ∧ disk.isFile file = true := by
  induction depth generalizing folder with
  | zero => contradiction
  | succ depth ih =>
    obtain ⟨names, name, listed, member, inside⟩ := exists_of_mem_below found
    have proper := named.of_mem_list listed member
    have leads : disk.resolved folder <+: disk.resolved (folder.join ⟨name⟩) := by
      rw [resolved_join (Path.filled_of_isAbsolute absolute) proper.whole, if_neg proper.filled, onto,
        if_neg proper.inner, if_neg proper.down]
      exact List.prefix_append _ _
    rcases mem_ofEntry.1 inside with ⟨exact, _, rfl⟩ | ⟨_, _, later⟩
    · exact ⟨leads, exact⟩
    · obtain ⟨further, exact⟩ := ih (Glob.isAbsolute_join absolute _) later
      exact ⟨leads.trans further, exact⟩

theorem prefix_of_mem_collect (named : disk.Named) (absolute : path.isAbsolute = true)
    (found : file ∈ (collect disk withCompiled path).files) :
    disk.resolved path <+: disk.resolved file ∧ disk.isFile file = true := by
  unfold collect at found
  split at found
  · next exact =>
    obtain rfl := List.mem_singleton.1 found
    exact ⟨List.prefix_refl _, exact⟩
  · split at found
    · contradiction
    · exact prefix_of_mem_below named absolute found

/-- A component that no wildcard stands in. -/
def isFixed : Path.Component → Bool
  | .name text => !Glob.isGlob text
  | _ => true

theorem fixedPart_eq (path : Path) : fixedPart path = .ofComponents (path.components.takeWhile isFixed) := rfl

theorem takeWhile_isFixed (pieces : List (List Char)) :
    (Path.pieceComponents false pieces).takeWhile isFixed =
      Path.pieceComponents false (pieces.takeWhile (!·.any Glob.isWild)) := by
  induction pieces with
  | nil => rfl
  | cons piece rest ih =>
    have own : Path.Component.ofPiece false piece = [] ∨ Path.Component.ofPiece false piece = [.parent] ∨
        Path.Component.ofPiece false piece = [.name (String.ofList piece)] := by
      unfold Path.Component.ofPiece
      split <;> simp
    by_cases wild : piece.any Glob.isWild = true
    · have named : Path.Component.ofPiece false piece = [.name (String.ofList piece)] := by
        unfold Path.Component.ofPiece
        split <;> first | rfl | contradiction
      rw [Path.pieceComponents, named, List.singleton_append, List.takeWhile_cons_of_neg,
        List.takeWhile_cons_of_neg (by simpa using wild)]
      · rfl
      · simpa [isFixed, Glob.isGlob_eq] using wild
    · have fixed : ∀ component ∈ Path.Component.ofPiece false piece, isFixed component = true := by
        rcases own with own | own | own <;> simp [own, isFixed, Glob.isGlob_eq, wild]
      rw [Path.pieceComponents, List.takeWhile_append_of_pos fixed, ih,
        List.takeWhile_cons_of_pos (by simpa using wild), Path.pieceComponents]

theorem exists_wild_piece {text : List Char} (wild : text.any Glob.isWild = true) :
    ∃ piece ∈ Path.pieces text, piece.any Glob.isWild = true := by
  obtain ⟨c, inside, wild⟩ := List.any_eq_true.1 wild
  have apart : c ≠ '/' := by
    rintro rfl
    contradiction
  obtain ⟨piece, member, inside⟩ := (Path.mem_iff_exists_piece apart).1 inside
  exact ⟨piece, member, List.any_eq_true.2 ⟨c, inside, wild⟩⟩

theorem pieceComponents_pieces (text : List Char) :
    Path.pieceComponents false (Glob.pieces text) = Path.pieceComponents false (Path.pieces text) := by
  rcases Glob.pieces_eq text with same | same
  · rw [same]
  · rw [same]
    by_cases none : Glob.pieces text = []
    · rw [none]
      rfl
    · rw [Path.pieceComponents_append none]
      exact (List.append_nil _).symm

/-- The matches of a pattern lie below a folder of the same components as its fixed part. -/
theorem exists_of_mem_expand (named : disk.Named) {glob : Glob} (absolute : path.isAbsolute = true)
    (wild : Glob.isGlob path.spelling = true) (read : Glob.ofPath path = .ok glob)
    (member : file ∈ glob.expand disk) :
    ∃ inner, inner.components = path.components.takeWhile isFixed ∧ disk.isFolder inner = true ∧
      Glob.Leads disk (glob.names.dropWhile (·.literal?.isSome)) inner file ∧
      ∀ pattern ∈ glob.names.dropWhile (·.literal?.isSome), .char '/' ∉ pattern := by
  obtain ⟨text, spelled⟩ := List.head?_eq_some_iff.1 (beq_iff_eq.1 absolute)
  obtain ⟨rooted, reads⟩ := Glob.reads_of_ofPath spelled read
  have leads := Glob.leads_of_mem_expandWithin named member
  rw [rooted, if_pos rfl] at leads
  have whole := @Glob.notMem_of_mem_pieces text
  have wild : ∃ piece ∈ Glob.pieces text, piece.any Glob.isWild = true := by
    rw [Glob.isGlob_eq, spelled, List.any_cons] at wild
    obtain ⟨piece, member, wild⟩ := exists_wild_piece (by simpa [Glob.isWild] using wild)
    refine ⟨piece, ?_, wild⟩
    rcases Glob.pieces_eq text with same | same <;> rw [same] at member
    · exact member
    · refine (List.mem_append.1 member).resolve_right fun last => ?_
      rw [List.mem_singleton.1 last] at wild
      contradiction
  obtain ⟨inner, components, inside, leads⟩ := leads.fixed reads rfl whole wild
  refine ⟨inner, ?_, inside, leads, fun pattern member =>
    Glob.notMem_of_reads reads whole pattern ((List.dropWhile_sublist _).subset member)⟩
  have root : (⟨"/"⟩ : Path).components = [.root] := by decide
  have own : path.components = .root :: Path.pieceComponents false (Glob.pieces text) := by
    rw [Path.components_eq, if_pos absolute, spelled, ← List.nil_append ('/' :: text),
      Path.pieces_cons _ List.not_mem_nil, pieceComponents_pieces]
    rfl
  rw [components, root, own, List.takeWhile_cons_of_pos rfl, takeWhile_isFixed]
  rfl

/-- The folder watched for an input is one, and what the input stands for lies below it. -/
structure Holds (disk : Disk) (folder file : Path) : Prop where
  absolute : folder.isAbsolute = true
  isFolder : disk.isFolder folder = true
  isFile : disk.isFile file = true
  leads : disk.resolved folder <+: disk.resolved file

/-- No match of a pattern among the inputs lies above its fixed part. -/
def MatchesStay (base : Path) (inputs : List String) : Prop :=
  ∀ text ∈ inputs, Glob.isGlob text = true → ∀ glob ∈ (Glob.ofPath (base.join ⟨text⟩)).toOption,
    Glob.staysBelow 0 (glob.names.dropWhile (·.literal?.isSome)) = true

theorem holds_fixedPart (tree : disk.IsTree) (named : disk.Named) {glob : Glob} {matched : Path}
    (absolute : path.isAbsolute = true) (wild : Glob.isGlob path.spelling = true)
    (read : Glob.ofPath path = .ok glob)
    (stays : Glob.staysBelow 0 (glob.names.dropWhile (·.literal?.isSome)) = true)
    (member : matched ∈ glob.expand disk) (found : file ∈ (collect disk withCompiled matched).files) :
    Holds disk (fixedPart path) file := by
  obtain ⟨inner, components, inside, leads, whole⟩ := exists_of_mem_expand named absolute wild read member
  obtain ⟨rest, first⟩ : ∃ rest, inner.components = .root :: rest := by
    rw [components, Path.components_eq, if_pos absolute]
    exact ⟨_, List.takeWhile_cons_of_pos rfl⟩
  have inAbsolute : inner.isAbsolute = true := Path.root_mem_components_iff.1 (first ▸ List.mem_cons_self)
  have same : fixedPart path = .ofComponents (.root :: rest) := by rw [fixedPart_eq, ← components, first]
  have begins : .root :: rest <+: inner.components := first ▸ List.prefix_refl _
  obtain ⟨own, shorter⟩ := Path.components_ofComponents inAbsolute begins
  rw [← same] at own shorter
  have absolute : (fixedPart path).isAbsolute = true :=
    Path.root_mem_components_iff.1 (own ▸ List.mem_cons_self)
  have accepts : Accepts (fixedPart path) := by
    obtain ⟨place, found⟩ := isFolder_iff.1 inside
    exact (accepts_of_find found).of_sublist (Path.filled_of_isAbsolute absolute) shorter
  have resolved : disk.resolved inner = disk.resolved (fixedPart path) := by
    rw [Disk.resolved, Disk.resolved, start, start, if_pos absolute, if_pos inAbsolute, Path.route,
      Path.route, own, first]
  have below := leads.staysBelow named ⟨inAbsolute, [], Nat.le_refl _, by rw [resolved, List.append_nil]⟩
    whole stays
  obtain ⟨matchAbsolute, names, _, leads⟩ := below
  obtain ⟨later, isFile⟩ := prefix_of_mem_collect named matchAbsolute found
  rw [← own] at begins
  have folder := isFolder_of_leading tree accepts inAbsolute begins inside
  have further : disk.resolved (fixedPart path) <+: disk.resolved matched := by
    rw [leads]
    exact List.prefix_append _ names
  exact ⟨absolute, folder.1, isFile, further.trans later⟩

theorem exists_parent?_holds (tree : disk.IsTree) (absolute : path.isAbsolute = true)
    (exact : disk.isFile path = true) : ∃ folder, path.parent? = some folder ∧ Holds disk folder path := by
  obtain ⟨place, content, found⟩ := isFile_iff.1 exact
  obtain ⟨folder, name, middle, parent, start, route, inner, up, reached, above⟩ :=
    (aims_of_find tree found).parent tree
  obtain ⟨last, split, inside⟩ := Path.components_eq_of_parent? parent
  have own : folder.isAbsolute = true := by
    rwa [← Path.isAbsolute_eq_of_components_append split (by simpa using inside.symm)]
  have accepts : Accepts folder :=
    (accepts_of_find found).of_sublist (Path.filled_of_isAbsolute own) (Path.parent?_prefix parent).sublist
  refine ⟨folder, parent, own, (isFolder_iff_route tree accepts).2 ⟨middle, start ▸ reached, above⟩, exact, ?_⟩
  have further : disk.resolved path = disk.resolved folder ++ [name] := by
    rw [resolved, resolved, start, route, along_append]
    exact along_eq_append (by simp [inner, up]) _
  exact further ▸ List.prefix_append _ _

theorem isFolder_of_mem_below {depth : Nat} (found : file ∈ (below disk withCompiled depth path).files) :
    disk.isFolder path = true := by
  refine Decidable.byContradiction fun outside => ?_
  rw [files_below_of_not_isFolder outside] at found
  contradiction

theorem not_isFolder_of_isFile (exact : disk.isFile path = true) : disk.isFolder path = false := by
  refine Bool.eq_false_iff.2 fun inside => ?_
  rw [isFile_eq_false_of_isFolder inside] at exact
  contradiction

theorem isGlob_join (wild : Glob.isGlob text = true) : Glob.isGlob (base.join ⟨text⟩).spelling = true := by
  rw [Glob.isGlob_eq] at wild ⊢
  unfold Path.join
  split
  · exact wild
  · split <;> simp [wild]

/-- Whatever an input stands for lies in the folder that is watched for it. -/
theorem holds_root (tree : disk.IsTree) (named : disk.Named) (absolute : base.isAbsolute = true)
    (stay : MatchesStay base inputs) (listed : text ∈ inputs)
    (found : file ∈ (input disk base withCompiled text).files) :
    Holds disk (root disk base text) file := by
  have joined : (base.join ⟨text⟩).isAbsolute = true := Glob.isAbsolute_join absolute _
  unfold input at found
  unfold root
  dsimp only at found ⊢
  split at found
  · next wild =>
    rw [if_pos wild]
    split at found
    · next glob read =>
      obtain ⟨_, part, found⟩ := mem_files_concat.1 found
      obtain ⟨matched, member, rfl⟩ := List.mem_map.1 part
      exact holds_fixedPart tree named joined (isGlob_join wild) read
        (stay text listed wild glob (by rw [read]; rfl)) member found
    · contradiction
  · next plain =>
    rw [if_neg plain]
    split at found
    · unfold collect at found
      split at found
      · next exact =>
        obtain rfl := List.mem_singleton.1 found
        obtain ⟨folder, parent, holds⟩ := exists_parent?_holds tree joined exact
        rw [not_isFolder_of_isFile exact, parent]
        exact holds
      · split at found
        · contradiction
        · have inside := isFolder_of_mem_below found
          rw [if_pos inside]
          obtain ⟨leads, exact⟩ := prefix_of_mem_below named joined found
          exact ⟨joined, inside, exact, leads⟩
    · contradiction

/-- Where a watched folder begins with another one, it lies in that one. -/
def RootsNest (disk : Disk) (base : Path) (inputs : List String) : Prop :=
  ∀ a ∈ inputs, ∀ b ∈ inputs, (root disk base a).startsWith (root disk base b) = true →
    Path.staysBelow 0 ((root disk base a).components.drop (root disk base b).components.length) = true

end Scan

theorem prefix_of_staysBelow {names : Place} {components : List Path.Component} {place : Place}
    (inside : .root ∉ components) (plain : ∀ text, .name text ∈ components → text ≠ "." ∧ text ≠ "..")
    (stays : Path.staysBelow names.length components = true) :
    place <+: along (place ++ names) (components.filterMap Path.Component.name?) := by
  induction components generalizing names with
  | nil => exact List.prefix_append place names
  | cons component rest ih =>
    obtain ⟨other, later⟩ := not_or.1 (mt List.mem_cons.2 inside)
    have others : ∀ text, .name text ∈ rest → text ≠ "." ∧ text ≠ ".." :=
      fun text member => plain text (List.mem_cons_of_mem _ member)
    cases component with
    | root => contradiction
    | current => exact ih later others stays
    | parent =>
      obtain ⟨deep, stays⟩ := Bool.and_eq_true_iff.1 stays
      have deep : 0 < names.length := by simpa using deep
      have up : along (place ++ names) ((Path.Component.parent :: rest).filterMap Path.Component.name?) =
          along (place ++ names.dropLast) (rest.filterMap Path.Component.name?) := by
        rw [← List.dropLast_append_of_ne_nil (List.ne_nil_of_length_pos deep)]
        rfl
      rw [up]
      exact ih later others (by rwa [List.length_dropLast])
    | name text =>
      obtain ⟨inner, up⟩ := plain text List.mem_cons_self
      have down : onto (place ++ names) text = place ++ (names ++ [text]) := by
        rw [onto, if_neg inner, if_neg up, List.append_assoc]
      have further : place <+: along (place ++ (names ++ [text])) (rest.filterMap Path.Component.name?) :=
        ih later others (by rwa [List.length_append])
      rwa [← down] at further

theorem exists_mem_watchRoots {root : Path} (member : root ∈ inputs.map (Scan.root disk base))
    (there : disk.exists? root = true) :
    ∃ kept ∈ watchRoots disk base inputs, kept.components <+: root.components ∧
      kept ∈ inputs.map (Scan.root disk base) ∧ disk.exists? kept = true := by
  have run : ∀ (size : Nat), ∀ other ∈ sortPaths ((inputs.map (Scan.root disk base)).filter disk.exists?),
      other.components.length = size → other.components <+: root.components →
        ∃ kept ∈ watchRoots disk base inputs, kept.components <+: root.components := by
    intro size
    induction size using Nat.strongRecOn with
    | ind size ih =>
      intro other sorted length leads
      by_cases kept : other ∈ watchRoots disk base inputs
      · exact ⟨other, kept, leads⟩
      · obtain ⟨above, more, apart, begins⟩ : ∃ above ∈
            sortPaths ((inputs.map (Scan.root disk base)).filter disk.exists?),
            above.same other = false ∧ other.startsWith above = true := by
          have left := mt (fun none => List.mem_filter.2 ⟨sorted, none⟩) kept
          simpa using left
        have upper : above.components <+: other.components := List.isPrefixOf_iff_prefix.1 begins
        have shorter : above.components.length < size := by
          refine length ▸ Nat.lt_of_le_of_ne upper.length_le fun same => ?_
          rw [Path.same_iff.2 (upper.eq_of_length same)] at apart
          contradiction
        exact ih _ shorter above more rfl (upper.trans leads)
  obtain ⟨own, sorted, equal⟩ := exists_mem_sortPaths (List.mem_filter.2 ⟨member, there⟩)
  obtain ⟨kept, watched, leads⟩ := run _ own sorted rfl
    (Path.components_eq_of_compare_eq equal ▸ List.prefix_refl _)
  obtain ⟨listed, exists?⟩ := List.mem_filter.1 (mem_of_mem_sortPaths (List.mem_filter.1 watched).1)
  exact ⟨kept, watched, leads, listed, exists?⟩

theorem resolved_leads {other : Path} (absolute : path.isAbsolute = true)
    (own : other.isAbsolute = true) (leads : other.components <+: path.components)
    (stays : Path.staysBelow 0 (path.components.drop other.components.length) = true) :
    disk.resolved other <+: disk.resolved path := by
  obtain ⟨rest, split⟩ := leads
  rw [← split, List.drop_left] at stays
  have filled : other.components ≠ [] := List.ne_nil_of_mem (Path.root_mem_components_iff.2 own)
  have inside : .root ∉ rest := by
    intro member
    obtain ⟨before, after, rfl⟩ := List.append_of_mem member
    rw [← List.append_assoc] at split
    exact filled (List.append_eq_nil_iff.1 (Path.eq_nil_of_root split.symm)).1
  have plain : ∀ text, .name text ∈ rest → text ≠ "." ∧ text ≠ ".." := fun text member =>
    Path.plain_of_mem_components (split ▸ List.mem_append_right _ member)
  have whole : disk.resolved path = along (disk.resolved other ++ []) (rest.filterMap Path.Component.name?) := by
    rw [List.append_nil, resolved, resolved, start, start, if_pos absolute, if_pos own, Path.route,
      Path.route, ← split, List.filterMap_append, along_append]
  exact whole ▸ prefix_of_staysBelow inside plain stays

/-- Every file of a scan lies below a folder that is watched, unless roots or matches lead out again. -/
theorem exists_root_above (tree : disk.IsTree) (named : disk.Named) (linkless : disk.Linkless)
    (absolute : base.isAbsolute = true) (nest : Scan.RootsNest disk base inputs)
    (stay : Scan.MatchesStay base inputs) (found : file ∈ (scan disk base inputs withCompiled).files) :
    ∃ root ∈ watchRoots disk base inputs, ∃ place names, disk.find true root = .ok (place, .folder) ∧
      disk.place? file = some (place ++ names) := by
  obtain ⟨text, listed, inside⟩ := Scan.exists_input_of_mem_scan found
  have holds := Scan.holds_root tree named absolute stay listed inside
  obtain ⟨_, folder⟩ := isFolder_iff.1 holds.isFolder
  obtain ⟨root, watched, leads, ofInput, exists?⟩ :=
    exists_mem_watchRoots (List.mem_map_of_mem listed) (exists?_iff.2 ⟨_, _, folder⟩)
  obtain ⟨_, _, reached⟩ := exists?_iff.1 exists?
  obtain ⟨isFolder, own⟩ :=
    isFolder_of_leading tree (accepts_of_find reached) holds.absolute leads holds.isFolder
  obtain ⟨place, stands⟩ := isFolder_iff.1 isFolder
  obtain ⟨last, content, leadsOn⟩ := isFile_iff.1 holds.isFile
  obtain ⟨other, member, rfl⟩ := List.mem_map.1 ofInput
  have nested := nest text listed other member (List.isPrefixOf_iff_prefix.2 leads)
  obtain ⟨names, whole⟩ := (resolved_leads holds.absolute own leads nested).trans holds.leads
  refine ⟨_, watched, place, names, stands, ?_⟩
  rw [linkless.place_of_find stands, whole, ← linkless.place_of_find leadsOn, Disk.place?, leadsOn]
  rfl

end

namespace SharedPages

/-- Pages in a folder, and others in a folder beside it. -/
def disk : Disk where
  entries := [
    (["p"], .folder), (["p", "index.html"], .file (some "<p id=a>")),
    (["p", "views"], .folder), (["p", "views", "old"], .folder),
    (["p", "views", "menu.html"], .file (some "<b id=c>")),
    (["shared"], .folder), (["shared", "nav.html"], .file (some "<i id=b>"))]
  here := ["p"]

theorem isTree : disk.IsTree := ⟨by decide, by decide⟩

theorem named : disk.Named := by decide

theorem linkless : disk.Linkless := by
  simp [Linkless, disk]

end SharedPages

/-- Roots that lead up beside other roots, and one that leads up inside another. -/
theorem exists_root_above_sharedPages :
    ∃ root ∈ watchRoots SharedPages.disk ⟨"/p"⟩ ["views", "views/old/../*.html", "../shared/*/../nav.html",
        "../shared/*.html"], ∃ place names,
      SharedPages.disk.find true root = .ok (place, .folder) ∧
        SharedPages.disk.place? ⟨"/p/../shared/nav.html"⟩ = some (place ++ names) :=
  @exists_root_above SharedPages.disk ⟨"/p"⟩ ⟨"/p/../shared/nav.html"⟩ _ false SharedPages.isTree
    SharedPages.named SharedPages.linkless (by decide +kernel) (by unfold Scan.RootsNest; decide +kernel)
    (by unfold Scan.MatchesStay; decide +kernel) (by decide +kernel)

/-- A root leads out of the root that it begins with, and is dropped for it. -/
theorem shared_page_unwatched :
    ⟨"/p/../shared/nav.html"⟩ ∈ (scan SharedPages.disk ⟨"/p"⟩ ["index.html", "../shared"] false).files ∧
      ¬∃ root ∈ watchRoots SharedPages.disk ⟨"/p"⟩ ["index.html", "../shared"], ∃ place names,
        SharedPages.disk.find true root = .ok (place, .folder) ∧
          SharedPages.disk.place? ⟨"/p/../shared/nav.html"⟩ = some (place ++ names) := by
  refine ⟨by decide, ?_⟩
  rintro ⟨root, watched, place, names, found, led⟩
  have alone : watchRoots SharedPages.disk ⟨"/p"⟩ ["index.html", "../shared"] = [⟨"/p"⟩] := by
    decide
  have stands : SharedPages.disk.find true ⟨"/p"⟩ = .ok (["p"], .folder) := by decide
  have leads : SharedPages.disk.place? ⟨"/p/../shared/nav.html"⟩ = some ["shared", "nav.html"] := by
    decide
  rw [alone, List.mem_singleton] at watched
  subst watched
  cases stands.symm.trans found
  simp [leads] at led

end Querymap
