import Querymap.Path
import Querymap.Proofs.Text.Trim

/-! Parents, joined paths and added extensions by their components. How a path is spelled makes no
difference to the file that they lead to. -/
namespace Querymap.Path

theorem same_iff {a b : Path} : a.same b = true ↔ a.components = b.components := by
  simp only [same, beq_iff_eq]

namespace Component

/-- What a piece between separators stands for; the first piece of a relative path is a leading one. -/
def ofPiece (leading : Bool) : List Char → List Component
  | [] => []
  | ['.'] => if leading then [.current] else []
  | ['.', '.'] => [.parent]
  | piece => [.name (String.ofList piece)]

theorem ofPiece_append_of_name {leading other : Bool} {piece : List Char} {text : String}
    (named : ofPiece leading piece = [.name text]) (tail : List Char) (long : 1 < tail.length) :
    ofPiece other (piece ++ tail) = [.name (text ++ String.ofList tail)] := by
  unfold ofPiece at named
  split at named
  · contradiction
  · cases leading <;> simp at named
  · simp at named
  · next filled notDot notDots =>
    obtain rfl : String.ofList piece = text := by simpa using named
    obtain ⟨a, rest, rfl⟩ := List.exists_cons_of_ne_nil filled
    have longer : 2 < (a :: rest ++ tail).length := by
      simp only [List.length_append, List.length_cons]
      omega
    unfold ofPiece
    split
    · next empty => simp [empty] at longer
    · next dot => simp [dot] at longer
    · next dots => simp [dots] at longer
    · rw [String.ofList_append]

end Component

/-- The components that pieces stand for. -/
def pieceComponents (leading : Bool) : List (List Char) → List Component
  | [] => []
  | piece :: rest => Component.ofPiece leading piece ++ pieceComponents false rest

theorem pieceComponents_append {leading : Bool} {before : List (List Char)} (nonempty : before ≠ [])
    (after : List (List Char)) :
    pieceComponents leading (before ++ after) =
      pieceComponents leading before ++ pieceComponents false after := by
  induction before generalizing leading with
  | nil => contradiction
  | cons piece rest ih =>
    cases rest with
    | nil => simp [pieceComponents]
    | cons next rest =>
      have later := @ih false (List.cons_ne_nil next rest)
      simp only [List.cons_append, pieceComponents, List.append_assoc] at later ⊢
      rw [later]

/-- The pieces of a text between separators. -/
abbrev pieces (text : List Char) : List (List Char) := Text.splitAt (· == '/') text

theorem scan_cons (leading : Bool) (offset : Nat) (piece : List Char) (rest : List (List Char)) :
    scan leading offset (piece :: rest) =
      (Component.ofPiece leading piece).map (·, offset + piece.length) ++
        scan false (offset + piece.length + 1) rest := by
  unfold Component.ofPiece
  split
  · rfl
  · cases leading <;> rfl
  · rfl
  · next filled notDot notDots =>
    rw [scan]
    · rfl
    · exact filled
    · exact notDot
    · exact notDots

theorem components_scan (leading : Bool) (offset : Nat) (pieces : List (List Char)) :
    (scan leading offset pieces).map (·.1) = pieceComponents leading pieces := by
  induction pieces generalizing leading offset with
  | nil => rfl
  | cons piece rest ih =>
    rw [scan_cons, List.map_append, ih, List.map_map, pieceComponents]
    simp only [Function.comp_def, List.map_id']

theorem components_eq (path : Path) :
    path.components =
      if path.isAbsolute then .root :: pieceComponents false (pieces path.spelling.toList)
      else pieceComponents true (pieces path.spelling.toList) := by
  simp only [components, marks]
  split <;> simp only [List.map_cons, components_scan]

theorem pieces_of_not_mem {piece : List Char} (whole : '/' ∉ piece) : pieces piece = [piece] := by
  induction piece with
  | nil => rfl
  | cons c rest ih =>
    obtain ⟨apart, others⟩ := not_or.1 (mt List.mem_cons.2 whole)
    have other : (c == '/') = false := beq_false_of_ne (Ne.symm apart)
    simp only [pieces] at ih
    simp [pieces, Text.splitAt, other, ih others]

theorem pieces_cons {piece : List Char} (rest : List Char) (whole : '/' ∉ piece) :
    pieces (piece ++ '/' :: rest) = piece :: pieces rest := by
  refine Text.splitAt_append rest (fun c member => beq_false_of_ne ?_) (beq_self_eq_true '/')
  rintro rfl
  exact whole member

/-- A text is one piece, or a piece with a separator and a further text behind it. -/
theorem pieces_induction {motive : List Char → Prop}
    (one : ∀ piece, '/' ∉ piece → motive piece)
    (more : ∀ piece rest, '/' ∉ piece → motive rest → motive (piece ++ '/' :: rest))
    (text : List Char) : motive text := by
  by_cases cut : '/' ∈ text
  · obtain ⟨piece, rest, same, whole⟩ := List.eq_append_cons_of_mem cut
    have shorter : rest.length < text.length := by
      rw [same, List.length_append, List.length_cons]
      omega
    exact same ▸ more piece rest whole (pieces_induction one more rest)
  · exact one text cut
termination_by text.length

theorem Component.ofPiece_cases (leading : Bool) (piece : List Char) :
    ofPiece leading piece = [] ∨ ∃ component, ofPiece leading piece = [component] := by
  unfold ofPiece
  split
  · exact .inl rfl
  · cases leading
    · exact .inl rfl
    · exact .inr ⟨_, rfl⟩
  · exact .inr ⟨_, rfl⟩
  · exact .inr ⟨_, rfl⟩

theorem Component.lt_add_length {leading : Bool} {piece : List Char} {component : Component}
    (own : ofPiece leading piece = [component]) (offset : Nat) : offset < offset + piece.length := by
  cases piece with
  | nil => contradiction
  | cons c rest => simp

/-- A component found in some pieces is that of the first piece or of a later one. -/
theorem scan_cons_eq_append {leading : Bool} {offset : Nat} {piece : List Char}
    {rest : List (List Char)} {before after : List (Component × Nat)} {component : Component}
    {stop : Nat} (found : scan leading offset (piece :: rest) = before ++ (component, stop) :: after) :
    (Component.ofPiece leading piece = [component] ∧ before = [] ∧ stop = offset + piece.length) ∨
      ∃ later, before.map (·.1) = Component.ofPiece leading piece ++ later.map (·.1) ∧
        scan false (offset + piece.length + 1) rest = later ++ (component, stop) :: after := by
  rw [scan_cons] at found
  rcases Component.ofPiece_cases leading piece with none | ⟨first, one⟩
  · rw [none, List.map_nil, List.nil_append] at found
    exact .inr ⟨before, by rw [none, List.nil_append], found⟩
  · rw [one, List.map_singleton, List.singleton_append] at found
    rcases List.cons_eq_append_iff.1 found with ⟨rfl, here⟩ | ⟨later, rfl, there⟩
    · obtain ⟨same, _⟩ := List.cons.inj here
      obtain ⟨rfl, rfl⟩ := Prod.mk.inj same
      exact .inl ⟨one, rfl, rfl⟩
    · exact .inr ⟨later, by rw [one, List.map_cons, List.singleton_append], there⟩

/-- A text cut off behind one of its components keeps the components up to there. What is added to it
there goes into the last piece. -/
theorem scan_take {leading : Bool} {offset : Nat} {text : List Char}
    {before after : List (Component × Nat)} {component : Component} {stop : Nat}
    (found : scan leading offset (pieces text) = before ++ (component, stop) :: after) :
    offset < stop ∧ ∃ first piece, Component.ofPiece first piece = [component] ∧
      ∀ tail, '/' ∉ tail → pieceComponents leading (pieces (text.take (stop - offset) ++ tail)) =
        before.map (·.1) ++ Component.ofPiece first (piece ++ tail) := by
  induction text using pieces_induction generalizing leading offset before with
  | one piece whole =>
    rw [pieces_of_not_mem whole] at found
    rcases scan_cons_eq_append found with ⟨own, rfl, rfl⟩ | ⟨later, _, there⟩
    · refine ⟨Component.lt_add_length own offset, leading, piece, own, fun tail plain => ?_⟩
      have uncut : '/' ∉ piece ++ tail := by simp [whole, plain]
      rw [Nat.add_sub_cancel_left, List.take_length, pieces_of_not_mem uncut]
      simp only [pieceComponents, List.map_nil, List.nil_append, List.append_nil]
    · simp [scan] at there
  | more piece rest whole ih =>
    rw [pieces_cons rest whole] at found
    rcases scan_cons_eq_append found with ⟨own, rfl, rfl⟩ | ⟨later, split, there⟩
    · refine ⟨Component.lt_add_length own offset, leading, piece, own, fun tail plain => ?_⟩
      have uncut : '/' ∉ piece ++ tail := by simp [whole, plain]
      rw [Nat.add_sub_cancel_left, List.take_left, pieces_of_not_mem uncut]
      simp only [pieceComponents, List.map_nil, List.nil_append, List.append_nil]
    · obtain ⟨behind, first, last, own, kept⟩ := ih there
      refine ⟨by omega, first, last, own, fun tail plain => ?_⟩
      have cut : (piece ++ '/' :: rest).take (stop - offset) ++ tail =
          piece ++ '/' :: (rest.take (stop - (offset + piece.length + 1)) ++ tail) := by
        rw [show stop - offset = piece.length + (stop - (offset + piece.length + 1) + 1) by omega,
          List.take_length_add_append, List.take_succ_cons, List.append_assoc, List.cons_append]
      rw [cut, pieces_cons _ whole, pieceComponents, kept tail plain, split, List.append_assoc]

theorem head?_take_append {text : List Char} {stop : Nat} (tail : List Char) (filled : text ≠ [])
    (positive : stop ≠ 0) : (text.take stop ++ tail).head? = text.head? := by
  obtain ⟨c, rest, rfl⟩ := List.exists_cons_of_ne_nil filled
  obtain ⟨count, rfl⟩ := Nat.exists_eq_succ_of_ne_zero positive
  rfl

/-- A path cut off behind a component, with more characters in its last piece. -/
theorem components_take {path : Path} {before after : List (Component × Nat)}
    {component : Component} {stop : Nat} (found : path.marks = before ++ (component, stop) :: after)
    (inside : component ≠ .root) :
    ∃ first piece, Component.ofPiece first piece = [component] ∧ ∀ tail, '/' ∉ tail →
      (⟨String.ofList (path.spelling.toList.take stop ++ tail)⟩ : Path).components =
        before.map (·.1) ++ Component.ofPiece first (piece ++ tail) := by
  have filled : path.spelling.toList ≠ [] := by
    intro empty
    simp [marks, isAbsolute, empty, Text.splitAt, scan] at found
  unfold marks at found
  dsimp only at found
  split at found
  · next absolute =>
    rcases List.cons_eq_append_iff.1 found with ⟨rfl, here⟩ | ⟨later, rfl, there⟩
    · obtain ⟨root, _⟩ := List.cons.inj here
      exact absurd (congrArg Prod.fst root) inside
    · obtain ⟨positive, first, piece, own, kept⟩ := scan_take there
      refine ⟨first, piece, own, fun tail plain => ?_⟩
      have head := head?_take_append tail filled (Nat.ne_of_gt positive)
      rw [isAbsolute] at absolute
      rw [components_eq, isAbsolute, String.toList_ofList, head, if_pos absolute,
        ← Nat.sub_zero stop, kept tail plain, List.map_cons, List.cons_append]
  · next relative =>
    obtain ⟨positive, first, piece, own, kept⟩ := scan_take found
    refine ⟨first, piece, own, fun tail plain => ?_⟩
    have head := head?_take_append tail filled (Nat.ne_of_gt positive)
    rw [isAbsolute] at relative
    rw [components_eq, isAbsolute, String.toList_ofList, head, if_neg relative,
      ← Nat.sub_zero stop, kept tail plain]

theorem Component.ofPiece_ne_root {leading : Bool} {piece : List Char} :
    ofPiece leading piece ≠ [.root] := by
  unfold ofPiece
  split
  · simp
  · cases leading <;> simp
  · simp
  · simp

/-- A root is the first component, and is spelled by the first separator. -/
theorem root_marks {path : Path} {before after : List (Component × Nat)} {stop : Nat}
    (found : path.marks = before ++ (.root, stop) :: after) :
    before = [] ∧ stop = 1 ∧ path.isAbsolute = true := by
  unfold marks at found
  dsimp only at found
  split at found
  · next absolute =>
    rcases List.cons_eq_append_iff.1 found with ⟨rfl, here⟩ | ⟨later, rfl, there⟩
    · obtain ⟨root, _⟩ := List.cons.inj here
      exact ⟨rfl, congrArg Prod.snd root, absolute⟩
    · obtain ⟨_, first, piece, own, _⟩ := scan_take there
      exact absurd own Component.ofPiece_ne_root
  · obtain ⟨_, first, piece, own, _⟩ := scan_take found
    exact absurd own Component.ofPiece_ne_root

/-- The spelling up to the end of a component has the components up to it. -/
theorem components_cut {path : Path} {before after : List (Component × Nat)}
    {component : Component} {stop : Nat} (found : path.marks = before ++ (component, stop) :: after) :
    (⟨String.ofList (path.spelling.toList.take stop)⟩ : Path).components =
      before.map (·.1) ++ [component] := by
  by_cases inside : component = .root
  · subst inside
    obtain ⟨rfl, rfl, absolute⟩ := root_marks found
    simp only [isAbsolute, beq_iff_eq] at absolute
    obtain ⟨rest, same⟩ := List.head?_eq_some_iff.1 absolute
    rw [same, List.take_succ_cons, List.take_zero]
    simp [components_eq, isAbsolute, Text.splitAt, pieceComponents, Component.ofPiece]
  · obtain ⟨first, piece, own, kept⟩ := components_take found inside
    have uncut := kept [] (by simp)
    rwa [List.append_nil, List.append_nil, own] at uncut

/-- The components above the last one. -/
def above : List Component → Option (List Component)
  | [] | .root :: _ => none
  | _ :: rest => some rest.reverse

theorem components_parent? (path : Path) :
    path.parent?.map (·.components) = above path.components.reverse := by
  have reversed : path.components.reverse = path.marks.reverse.map (·.1) := by
    rw [components, List.map_reverse]
  rw [reversed, parent?]
  split
  · next none => rw [none]; rfl
  · next root => rw [root]; rfl
  · next mark inside alone =>
    rw [alone]
    obtain ⟨component, stop⟩ := mark
    cases component with
    | root => exact absurd rfl (inside stop)
    | current | parent | name => rfl
  · next mark component stop rest inside two =>
    have found : path.marks = rest.reverse ++ (component, stop) :: [mark] := by
      rw [← List.reverse_reverse path.marks, two]
      simp
    rw [two, Option.map_some, components_cut found]
    obtain ⟨last, stop⟩ := mark
    cases last with
    | root => exact absurd rfl (inside _)
    | current | parent | name => simp [above]

/-- Components whose last one is a name with characters behind it. -/
def extended (tail : List Char) (components : List Component) : List Component :=
  match components.getLast? with
  | some (.name text) => components.dropLast ++ [.name (text ++ String.ofList tail)]
  | _ => components

theorem components_addExtension (path : Path) {extension : String} (plain : '/' ∉ extension.toList)
    (filled : extension.toList ≠ []) :
    (path.addExtension extension).components =
      extended ('.' :: extension.toList) path.components := by
  have last : path.components.getLast? = path.marks.getLast?.map (·.1) := by
    rw [components, List.getLast?_map]
  rw [addExtension, extended, last]
  split
  · next text stop named =>
    obtain ⟨before, found⟩ := List.getLast?_eq_some_iff.1 named
    obtain ⟨first, piece, own, kept⟩ := components_take found (by simp)
    have long : 1 < ('.' :: extension.toList).length := by
      have := List.length_pos_iff.2 filled
      simpa using this
    rw [named, kept _ (by simpa using plain), Component.ofPiece_append_of_name own _ long,
      components, found]
    simp
  · next other =>
    cases ends : path.marks.getLast? with
    | none => rfl
    | some mark =>
      obtain ⟨component, stop⟩ := mark
      cases component with
      | name text => exact absurd ends (other text stop)
      | root | current | parent => rfl

theorem pieces_append (before after : List Char) :
    pieces (before ++ '/' :: after) = pieces before ++ pieces after := by
  induction before using pieces_induction with
  | one piece whole => rw [pieces_cons _ whole, pieces_of_not_mem whole, List.singleton_append]
  | more piece rest whole ih =>
    rw [List.append_assoc, List.cons_append, pieces_cons _ whole, ih, pieces_cons _ whole,
      List.cons_append]

theorem pieces_ne_nil (text : List Char) : pieces text ≠ [] := by
  induction text using pieces_induction with
  | one piece whole => simp [pieces_of_not_mem whole]
  | more piece rest whole => simp [pieces_cons _ whole]

theorem components_separated (before after : List Char) :
    (⟨String.ofList (before ++ '/' :: after)⟩ : Path).components =
      (⟨String.ofList (before ++ ['/'])⟩ : Path).components ++ pieceComponents false (pieces after) := by
  have head : (before ++ '/' :: after).head? = (before ++ ['/']).head? := by cases before <;> rfl
  simp only [components_eq, isAbsolute, String.toList_ofList, head, pieces_append,
    pieceComponents_append (pieces_ne_nil before)]
  split <;> simp [Text.splitAt, pieceComponents, Component.ofPiece]

theorem components_ends_separated {text : List Char} (filled : text ≠ []) :
    (⟨String.ofList (text ++ ['/'])⟩ : Path).components = (⟨String.ofList text⟩ : Path).components := by
  have head : (text ++ ['/']).head? = text.head? := by
    obtain ⟨c, rest, rfl⟩ := List.exists_cons_of_ne_nil filled
    rfl
  simp only [components_eq, isAbsolute, String.toList_ofList, head, pieces_append,
    pieceComponents_append (pieces_ne_nil text)]
  split <;> simp [Text.splitAt, pieceComponents, Component.ofPiece]

theorem components_eq_nil_iff (path : Path) : path.components = [] ↔ path.spelling = "" := by
  constructor
  · intro none
    refine Decidable.byContradiction fun filled => ?_
    have filled : path.spelling.toList ≠ [] := by simpa using filled
    obtain ⟨c, rest, spelled⟩ := List.exists_cons_of_ne_nil filled
    rw [components_eq, isAbsolute, spelled] at none
    by_cases separator : c = '/'
    · simp [separator] at none
    · have other : (c == '/') = false := beq_false_of_ne separator
      have first : ∃ tail others, pieces (c :: rest) = (c :: tail) :: others := by
        unfold pieces Text.splitAt
        rw [other]
        cases Text.splitAt (· == '/') rest with
        | nil => exact ⟨[], [], rfl⟩
        | cons piece others => exact ⟨piece, others, rfl⟩
      obtain ⟨tail, others, cut⟩ := first
      have own : Component.ofPiece true (c :: tail) ≠ [] := by
        unfold Component.ofPiece
        split <;> simp_all
      simp [separator, cut, pieceComponents, own] at none
  · intro empty
    simp [components_eq, isAbsolute, empty, Text.splitAt, pieceComponents, Component.ofPiece]

theorem components_join (base path : Path) :
    (base.join path).components =
      if path.isAbsolute ∨ base.components = [] then path.components
      else base.components ++ pieceComponents false (pieces path.spelling.toList) := by
  have empty : base.spelling.isEmpty = true ↔ base.components = [] := by
    rw [components_eq_nil_iff, String.isEmpty_iff]
  simp only [join, Bool.or_eq_true, empty]
  split
  · rfl
  · next inside =>
    have filled : base.spelling.toList ≠ [] := by
      have := not_or.1 inside
      simpa [components_eq_nil_iff] using this.2
    split
    · next separated =>
      obtain ⟨text, spelled⟩ := List.getLast?_eq_some_iff.1 (beq_iff_eq.1 separated)
      have joined : base.spelling ++ path.spelling =
          String.ofList (text ++ '/' :: path.spelling.toList) := by
        rw [← String.toList_inj, String.toList_append, spelled, String.toList_ofList]
        simp
      have own : base.spelling = String.ofList (text ++ ['/']) := by
        rw [← spelled, String.ofList_toList]
      rw [joined, components_separated, ← own]
    · have joined : base.spelling ++ "/" ++ path.spelling =
          String.ofList (base.spelling.toList ++ '/' :: path.spelling.toList) := by
        rw [← String.toList_inj, String.toList_append, String.toList_append, String.toList_ofList]
        simp
      rw [joined, components_separated, components_ends_separated filled, String.ofList_toList]

/-- The special names are no names of components. -/
theorem plain_of_mem_components {path : Path} {text : String} (member : .name text ∈ path.components) :
    text ≠ "." ∧ text ≠ ".." := by
  have plain : ∀ (pieces : List (List Char)) (leading : Bool),
      .name text ∈ pieceComponents leading pieces → text ≠ "." ∧ text ≠ ".." := by
    intro pieces
    induction pieces with
    | nil => exact fun _ none => absurd none List.not_mem_nil
    | cons piece rest ih =>
      intro leading member
      rcases List.mem_append.1 member with own | later
      · unfold Component.ofPiece at own
        split at own
        · contradiction
        · cases leading <;> simp at own
        · simp at own
        · next filled notDot notDots =>
          obtain rfl : text = String.ofList piece := by simpa using own
          exact ⟨fun dot => notDot (by rw [← String.toList_ofList (l := piece), dot]; rfl),
            fun dots => notDots (by rw [← String.toList_ofList (l := piece), dots]; rfl)⟩
      · exact ih false later
  rw [components_eq] at member
  split at member
  · exact plain _ _ ((List.mem_cons.1 member).resolve_left nofun)
  · exact plain _ _ member

theorem notMem_of_mem_pieces {text piece : List Char} (member : piece ∈ pieces text) : '/' ∉ piece := by
  induction text using pieces_induction with
  | one whole plain =>
    rw [pieces_of_not_mem plain, List.mem_singleton] at member
    exact member ▸ plain
  | more first rest plain ih =>
    rw [pieces_cons _ plain] at member
    rcases List.mem_cons.1 member with rfl | member
    · exact plain
    · exact ih member

theorem mem_iff_exists_piece {text : List Char} {c : Char} (apart : c ≠ '/') :
    c ∈ text ↔ ∃ piece ∈ pieces text, c ∈ piece := by
  induction text using pieces_induction with
  | one piece whole => simp [pieces_of_not_mem whole]
  | more piece rest whole ih =>
    rw [pieces_cons _ whole, List.mem_append, List.mem_cons, ih]
    simp [apart]

theorem intercalate_pieces (text : List Char) : ['/'].intercalate (pieces text) = text := by
  induction text using pieces_induction with
  | one piece whole => simp [pieces_of_not_mem whole]
  | more piece rest whole ih =>
    rw [pieces_cons _ whole, List.intercalate_cons_of_ne_nil (pieces_ne_nil rest), ih]
    simp

theorem pieces_intercalate {all : List (List Char)} (filled : all ≠ [])
    (whole : ∀ piece ∈ all, '/' ∉ piece) : pieces (['/'].intercalate all) = all := by
  induction all with
  | nil => contradiction
  | cons piece rest ih =>
    obtain ⟨plain, others⟩ := List.forall_mem_cons.1 whole
    by_cases alone : rest = []
    · subst alone
      simpa using pieces_of_not_mem plain
    · rw [List.intercalate_cons_of_ne_nil alone, List.append_assoc, List.singleton_append,
        pieces_cons _ plain, ih alone others]

theorem intercalate_sublist {some all : List (List Char)} (sub : some.Sublist all) :
    (['/'].intercalate some).Sublist (['/'].intercalate all) := by
  induction sub with
  | slnil => exact List.Sublist.refl _
  | @cons some all piece sub ih =>
    by_cases alone : all = []
    · subst alone
      rw [List.sublist_nil.1 sub]
      exact List.nil_sublist _
    · rw [List.intercalate_cons_of_ne_nil alone]
      exact ih.trans (List.sublist_append_right _ _)
  | @cons_cons some all piece sub ih =>
    by_cases alone : all = []
    · subst alone
      exact List.sublist_nil.1 sub ▸ List.Sublist.refl _
    · rw [List.intercalate_cons_of_ne_nil alone]
      by_cases last : some = []
      · subst last
        rw [List.intercalate_singleton, List.append_assoc]
        exact List.sublist_append_left _ _
      · rw [List.intercalate_cons_of_ne_nil last]
        exact (List.Sublist.refl _).append ih

/-- How the plain spelling spells a component. -/
def Component.spelled? : Component → Option String
  | .root => none
  | .current => some "."
  | .parent => some ".."
  | .name text => some text

theorem ofComponents_eq (components : List Component) : ofComponents components =
    ⟨(if components.head? = some .root then "/" else "") ++
      String.intercalate "/" (components.filterMap Component.spelled?)⟩ := by
  unfold ofComponents
  congr 3

/-- Components of some pieces stand for some of these pieces. -/
theorem exists_pieces_of_prefix {all : List (List Char)} {components : List Component}
    (leads : components <+: pieceComponents false all) :
    ∃ some : List (List Char), some.Sublist all ∧ pieceComponents false some = components ∧
      components.filterMap Component.spelled? = some.map String.ofList := by
  induction all generalizing components with
  | nil =>
    rw [pieceComponents, List.prefix_nil] at leads
    exact ⟨[], List.Sublist.refl _, leads.symm, by rw [leads]; rfl⟩
  | cons piece rest ih =>
    rw [pieceComponents] at leads
    rcases Component.ofPiece_cases false piece with none | ⟨component, one⟩
    · rw [none, List.nil_append] at leads
      obtain ⟨some, sub, same, spelled⟩ := ih leads
      exact ⟨some, sub.cons piece, same, spelled⟩
    · rw [one, List.singleton_append] at leads
      rcases List.prefix_cons_iff.1 leads with rfl | ⟨others, rfl, leads⟩
      · exact ⟨[], List.nil_sublist _, rfl, rfl⟩
      · obtain ⟨some, sub, same, spelled⟩ := ih (List.cons_prefix_cons.1 leads).2
        have own : component.spelled? = .some (String.ofList piece) := by
          unfold Component.ofPiece at one
          split at one <;> simp_all [Component.spelled?]
          all_goals subst one; rfl
        refine ⟨piece :: some, sub.cons_cons piece, ?_, ?_⟩
        · rw [pieceComponents, one, same, List.singleton_append]
        · rw [List.filterMap_cons_some own, spelled, List.map_cons]

/-- The first components of an absolute path, plainly spelled, are a path that is no longer. -/
theorem components_ofComponents {path : Path} (absolute : path.isAbsolute = true)
    {components : List Component} (leads : .root :: components <+: path.components) :
    (ofComponents (.root :: components)).components = .root :: components ∧
      (ofComponents (.root :: components)).spelling.toList.Sublist path.spelling.toList := by
  obtain ⟨text, spelled⟩ := List.head?_eq_some_iff.1 (beq_iff_eq.1 absolute)
  have cut : pieces path.spelling.toList = [] :: pieces text := by
    rw [spelled]
    exact pieces_cons text List.not_mem_nil
  rw [components_eq, if_pos absolute, List.cons_prefix_cons, cut] at leads
  have later : components <+: pieceComponents false (pieces text) := leads.2
  obtain ⟨some, sub, same, names⟩ := exists_pieces_of_prefix later
  have own : (ofComponents (.root :: components)).spelling.toList = '/' :: ['/'].intercalate some := by
    rw [ofComponents_eq, List.filterMap_cons_none rfl, names]
    simp [String.toList_intercalate]
  refine ⟨?_, ?_⟩
  · rw [components_eq, isAbsolute, own, if_pos (by simp)]
    by_cases none : some = []
    · subst none
      rw [← same]
      simp [Text.splitAt, pieceComponents, Component.ofPiece]
    · have whole : ∀ piece ∈ some, '/' ∉ piece := fun piece member =>
        notMem_of_mem_pieces (sub.subset member)
      have begins : pieces ('/' :: ['/'].intercalate some) = [] :: some := by
        rw [← List.nil_append ('/' :: _), pieces_cons _ List.not_mem_nil, pieces_intercalate none whole]
      rw [begins, pieceComponents, same]
      rfl
  · rw [own, spelled]
    have shorter := intercalate_sublist sub
    rw [intercalate_pieces] at shorter
    exact shorter.cons_cons '/'

theorem filled_of_isAbsolute {path : Path} (absolute : path.isAbsolute = true) : path.spelling ≠ "" := by
  intro empty
  rw [isAbsolute, empty] at absolute
  contradiction

end Querymap.Path
