import Mathlib.Data.List.Basic
import Querymap.Proofs.Disk.Lexical
import Querymap.Proofs.Pug.Reach

/-! Includes in a tree without links. What an include with a name of its own leads to depends on the place of
its template alone; how the paths of both are spelled makes a difference to their length only. -/
namespace Querymap

namespace Path

/-- The extension that a path of some components has. -/
def extensionOf (components : List Component) : Option String :=
  match components.getLast? with
  | some (.name text) => (splitName text.toList).2.map String.ofList
  | _ => none

theorem extension?_eq (path : Path) : path.extension? = extensionOf path.components := by
  unfold extension? fileName? extensionOf
  rcases path.components.getLast? with _ | _ | _ | _ | text <;> rfl

/-- Components of an include, with the extension that it may leave out. -/
def completed (components : List Component) : List Component :=
  if (extensionOf components).isNone then extended ".pug".toList components else components

theorem completed_append {components : List Component} (filled : components ≠ []) (front : List Component) :
    completed (front ++ components) = front ++ completed components := by
  have extensions : extensionOf (front ++ components) = extensionOf components := by
    rw [extensionOf, List.getLast?_append_of_ne_nil _ filled, extensionOf]
  have extends_ : extended ".pug".toList (front ++ components) =
      front ++ extended ".pug".toList components := by
    rw [extended, List.getLast?_append_of_ne_nil _ filled, extended]
    split
    · rw [List.dropLast_append_of_ne_nil filled, List.append_assoc]
    · rfl
  rw [completed, extensions, extends_, completed]
  split <;> rfl

/-- A relative path goes on from where a folder leads. -/
theorem components_join_relative {text : String} (folder : Path) (relative : (⟨text⟩ : Path).isAbsolute = false) :
    ∃ front, (folder.join ⟨text⟩).components = front ++ pieceComponents false (pieces text.toList) ∧
      front.filterMap Component.name? = folder.route ∧ (.root ∈ front ↔ folder.isAbsolute = true) := by
  rw [components_join]
  by_cases empty : folder.components = []
  · obtain ⟨piece, rest, cut⟩ := List.exists_cons_of_ne_nil (pieces_ne_nil text.toList)
    have none : folder.route = [] := by rw [route, empty]; rfl
    have own : ¬folder.isAbsolute = true := by rw [← root_mem_components_iff, empty]; exact List.not_mem_nil
    rw [if_pos (.inr empty), components_eq, relative, cut, none]
    by_cases dot : piece = ['.']
    · subst dot
      exact ⟨[.current], rfl, rfl, by simp [own]⟩
    · refine ⟨[], ?_, rfl, by simp [own]⟩
      rw [List.nil_append]
      show Component.ofPiece true piece ++ _ = Component.ofPiece false piece ++ _
      congr 1
      unfold Component.ofPiece
      split <;> first | rfl | contradiction
  · rw [if_neg (by simp [relative, empty])]
    exact ⟨folder.components, rfl, rfl, root_mem_components_iff⟩

theorem components_complete (path : Path) :
    (if path.extension?.isNone then path.addExtension "pug" else path).components =
      completed path.components := by
  have plain : '/' ∉ "pug".toList := by decide
  have filled : "pug".toList ≠ [] := by decide
  rw [completed, ← extension?_eq]
  split
  · rw [components_addExtension path plain filled]
    rfl
  · rfl

end Path

namespace Disk

/-- A path whose last character is neither a separator nor a dot leads to no folder by its text. -/
theorem bare_of_getLast {text : String} {last : Char} (ends : text.toList.getLast? = some last)
    (apart : last ≠ '/') (plain : last ≠ '.') : Bare (steps text) := by
  have separated : endsInSeparator text = false := by
    rw [endsInSeparator, ends]
    simpa using apart
  obtain ⟨before, piece, pieces, tail⟩ : ∃ before piece, Path.pieces text.toList = before ++ [piece] ∧
      piece.getLast? = some last := by
    generalize text.toList = characters at ends
    induction characters using Path.pieces_induction with
    | one piece whole => exact ⟨[], piece, Path.pieces_of_not_mem whole, ends⟩
    | more piece rest whole ih =>
      rw [List.append_cons] at ends
      have filled : rest ≠ [] := by
        rintro rfl
        rw [List.append_nil, List.getLast?_concat] at ends
        exact apart (Option.some.inj ends).symm
      rw [List.getLast?_append_of_ne_nil _ filled] at ends
      obtain ⟨before, final, pieces, tail⟩ := ih ends
      exact ⟨piece :: before, final, by rw [Path.pieces_cons _ whole, pieces]; rfl, tail⟩
  have filled : piece.isEmpty = false := by
    cases piece with
    | nil => contradiction
    | cons => rfl
  have named : (names text).getLast? = some (String.ofList piece) := by
    rw [names_eq, pieces]
    simp [filled]
  rw [steps, separated, Bare]
  simp only [Bool.false_and, Bool.false_eq_true, if_false, named]
  intro dot
  have dot : piece = ['.'] := by simpa using congrArg String.toList (Option.some.inj dot)
  rw [dot] at tail
  exact plain (Option.some.inj tail).symm

/-- Whether a path ends in a dot is told by the part that was joined last. -/
theorem bare_join_iff {folder : Path} {text : String} (relative : (⟨text⟩ : Path).isAbsolute = false)
    (given : text ≠ "") : Bare (steps (folder.join ⟨text⟩).spelling) ↔ Bare (steps text) := by
  by_cases empty : folder.spelling = ""
  · have same : folder.join ⟨text⟩ = ⟨text⟩ := by simp [Path.join, empty]
    rw [same]
  · have filled : steps text ≠ [] := by
      have own := names_ne_nil given relative
      rw [steps]
      split <;> simp [own]
    rw [steps_join empty relative given, Bare, List.getLast?_append_of_ne_nil _ filled, Bare]

/-- Other characters than separators and dots stand in the names of a path. -/
theorem mem_iff_exists_route {path : Path} {c : Char} (apart : c ≠ '/') (plain : c ≠ '.') :
    c ∈ path.spelling.toList ↔ ∃ name ∈ path.route, c ∈ name.toList := by
  rw [Path.mem_iff_exists_piece apart, route_eq, names_eq]
  constructor
  · rintro ⟨piece, member, inside⟩
    refine ⟨String.ofList piece, List.mem_filter.2 ⟨List.mem_map_of_mem (List.mem_filter.2 ⟨member, ?_⟩), ?_⟩,
      by simpa using inside⟩
    · simpa using List.ne_nil_of_mem inside
    · have other : String.ofList piece ≠ "." := by
        intro dot
        obtain rfl : piece = ['.'] := by simpa using congrArg String.toList dot
        exact plain (List.mem_singleton.1 inside)
      simpa using other
  · rintro ⟨_, member, inside⟩
    obtain ⟨piece, kept, rfl⟩ := List.mem_map.1 (List.mem_filter.1 member).1
    exact ⟨piece, (List.mem_filter.1 kept).1, by simpa using inside⟩

section

variable {disk : Disk} {place last : Place} {names others : List String} {follow : Bool}

/-- Without links it makes no difference how many of them may be followed. -/
theorem Linkless.walk_eq_walk (linkless : disk.Linkless) (links left : Nat) :
    disk.walk follow links place names = disk.walk follow left place names := by
  have straight := (@Linkless.advance_eq disk follow place linkless names).2
  have settled : ∀ links, disk.walk follow links place names =
      (disk.advance follow place names).settle fun _ _ => .error .linkLoop := by
    intro links
    cases links with
    | zero => exact walk_zero
    | succ links =>
      rw [walk_succ]
      cases advanced : disk.advance follow place names with
      | redirected start rest => exact absurd advanced (straight start rest)
      | arrived | missing | failed => rfl
  rw [settled, settled]

theorem Linkless.walk_append (linkless : disk.Linkless) (tree : disk.IsTree) (left : Nat) {links : Nat}
    {middle : Place} (stands : disk.get? place = some .folder) (filled : others ≠ [])
    (reached : disk.walk true links place names = .ok (.found middle))
    (inside : disk.get? middle = some .folder) :
    disk.walk follow links place (names ++ others) = disk.walk follow left middle others := by
  obtain ⟨other, goes⟩ := Disk.walk_append tree stands links names
  rw [goes follow others filled, reached]
  exact (if_pos inside).trans (linkless.walk_eq_walk other left)

end

end Disk

namespace Pug

open Disk

/-- An include that names more than a folder. -/
def HasName (name : String) : Prop := (⟨name⟩ : Path).route ≠ []

/-- The components of an include behind those of its folder. -/
def included (name : String) : List Path.Component :=
  Path.completed (Path.pieceComponents false (Path.pieces name.toList))

section

variable {disk : Disk} {base other folder : Path} {name : String} {place target : Place}
  {content content' text : Option String}

theorem HasName.filled (named : HasName name) :
    Path.pieceComponents false (Path.pieces name.toList) ≠ [] := by
  intro none
  refine named ?_
  rw [Path.route, Path.components_eq]
  split
  · rw [none]
    rfl
  · rw [filterMap_name?_pieceComponents, ← filterMap_name?_pieceComponents false, none]
    rfl

theorem resolve_of_parent? (parent : base.parent? = some folder) :
    resolve base name = if (folder.join ⟨name⟩).extension?.isNone then
      (folder.join ⟨name⟩).addExtension "pug" else folder.join ⟨name⟩ := by
  rw [resolve, parent]

theorem resolve_eq_of_isAbsolute {folder' : Path} (absolute : (⟨name⟩ : Path).isAbsolute = true)
    (parent : base.parent? = some folder) (parent' : other.parent? = some folder') :
    resolve base name = resolve other name := by
  have joined (folder : Path) : folder.join ⟨name⟩ = ⟨name⟩ := by simp [Path.join, absolute]
  rw [resolve_of_parent? parent, resolve_of_parent? parent', joined, joined]

/-- A relative include goes on from the folder of its template. -/
theorem components_resolve (relative : (⟨name⟩ : Path).isAbsolute = false) (named : HasName name)
    (parent : base.parent? = some folder) :
    ∃ front, (resolve base name).components = front ++ included name ∧
      front.filterMap Path.Component.name? = folder.route ∧ (.root ∈ front ↔ folder.isAbsolute = true) := by
  obtain ⟨front, split, route, root⟩ := Path.components_join_relative folder relative
  refine ⟨front, ?_, route, root⟩
  rw [resolve_of_parent? parent, Path.components_complete, split, Path.completed_append named.filled]
  rfl

theorem root_notMem_included (name : String) : .root ∉ included name := by
  have plain := Path.root_notMem_pieceComponents false (Path.pieces name.toList)
  unfold included Path.completed Path.extended
  split
  · split
    · rw [List.mem_append, not_or]
      exact ⟨fun member => plain (List.dropLast_subset _ member), by simp⟩
    · exact plain
  · exact plain

/-- The names that lead from the folder of a template to its include. -/
theorem route_resolve (relative : (⟨name⟩ : Path).isAbsolute = false) (named : HasName name)
    (parent : base.parent? = some folder) (disk : Disk) :
    (resolve base name).route = folder.route ++ (included name).filterMap Path.Component.name? ∧
      disk.start (resolve base name) = disk.start folder := by
  obtain ⟨front, split, route, root⟩ := components_resolve relative named parent
  refine ⟨by rw [Path.route, split, List.filterMap_append, route], ?_⟩
  have same : (resolve base name).isAbsolute = folder.isAbsolute := by
    rw [Bool.eq_iff_iff, ← Path.root_mem_components_iff, split, List.mem_append,
      or_iff_left (root_notMem_included name), root]
  rw [start, start, same]

/-- The folder of a file in a tree without links is the one that its place is in. -/
theorem aims_folder (tree : disk.IsTree) (linkless : disk.Linkless) (aims : Aims disk base place content) :
    ∃ folder, base.parent? = some folder ∧ disk.start folder = disk.start base ∧
      disk.walk true linkLimit (disk.start folder) folder.route = .ok (.found place.dropLast) ∧
      disk.get? place.dropLast = some .folder := by
  obtain ⟨folder, last, middle, parent, start, route, inner, up, reached, inside⟩ := aims.parent tree
  have upper : middle = place.dropLast := by
    have whole := linkless.walk_eq aims.walked
    rw [route, along_append, ← linkless.walk_eq reached] at whole
    rw [whole, along_eq_append (by simp [inner, up]), List.dropLast_concat]
  subst upper
  exact ⟨folder, parent, start, start ▸ reached, inside⟩

/-- Templates at one place include the same files. -/
theorem aims_resolve (tree : disk.IsTree) (linkless : disk.Linkless)
    (aims : Aims disk base place content) (aims' : Aims disk other place content') (named : HasName name)
    (leads : Aims disk (resolve base name) target text) : Aims disk (resolve other name) target text := by
  obtain ⟨folder, parent, start, reached, inside⟩ := aims_folder tree linkless aims
  obtain ⟨folder', parent', start', reached', _⟩ := aims_folder tree linkless aims'
  cases absolute : (⟨name⟩ : Path).isAbsolute with
  | true => rwa [← resolve_eq_of_isAbsolute absolute parent parent']
  | false =>
    obtain ⟨route, begins⟩ := route_resolve absolute named parent disk
    obtain ⟨route', begins'⟩ := route_resolve absolute named parent' disk
    have walked := leads.walked
    rw [route, begins] at walked
    have filled : (included name).filterMap Path.Component.name? ≠ [] := by
      intro none
      rw [none, List.append_nil] at walked
      cases walked.symm.trans reached
      cases leads.stands.symm.trans inside
    refine ⟨?_, leads.stands⟩
    rw [route', begins', linkless.walk_append tree 0 (tree.start folder') filled reached' inside]
    rwa [linkless.walk_append tree 0 (tree.start folder) filled reached inside] at walked

theorem isTemplate_eq (path : Path) : isTemplate path =
    (Path.extensionOf path.components == some "pug" || Path.extensionOf path.components == some "jade") := by
  rw [isTemplate, Path.extension?_eq]

theorem included_ne_nil (named : HasName name) : included name ≠ [] := by
  have filled := named.filled
  unfold included Path.completed Path.extended
  split
  · split
    · simp
    · exact filled
  · exact filled

theorem isTemplate_resolve {folder' : Path} (named : HasName name) (parent : base.parent? = some folder)
    (parent' : other.parent? = some folder') :
    isTemplate (resolve base name) = isTemplate (resolve other name) := by
  cases absolute : (⟨name⟩ : Path).isAbsolute with
  | true => rw [resolve_eq_of_isAbsolute absolute parent parent']
  | false =>
    have extension {base folder : Path} (parent : base.parent? = some folder) :
        Path.extensionOf (resolve base name).components = Path.extensionOf (included name) := by
      obtain ⟨front, split, _⟩ := components_resolve absolute named parent
      rw [split, Path.extensionOf, List.getLast?_append_of_ne_nil _ (included_ne_nil named), Path.extensionOf]
    rw [isTemplate_eq, isTemplate_eq, extension parent, extension parent']

theorem bare_addExtension {path : Path} (none : path.extension?.isNone = true)
    (template : isTemplate (path.addExtension "pug") = true) :
    Disk.Bare (steps (path.addExtension "pug").spelling) := by
  unfold Path.addExtension at template ⊢
  split
  · refine @bare_of_getLast _ 'g' ?_ (by decide) (by decide)
    rw [String.toList_ofList]
    exact List.getLast?_append_of_ne_nil _ (List.cons_ne_nil _ _)
  · next other =>
    -- Nothing but a name can have an extension.
    split at template
    · next named => exact absurd named (other _ _)
    · rw [isTemplate, Option.isNone_iff_eq_none.1 none] at template
      contradiction

theorem bare_resolve {folder' : Path} (relative : (⟨name⟩ : Path).isAbsolute = false) (named : HasName name)
    (parent : base.parent? = some folder) (parent' : other.parent? = some folder')
    (template : isTemplate (resolve base name) = true) (bare : Disk.Bare (steps (resolve base name).spelling)) :
    Disk.Bare (steps (resolve other name).spelling) := by
  have given : name ≠ "" := by
    rintro rfl
    exact named rfl
  have extension (folder : Path) : (folder.join ⟨name⟩).extension? =
      Path.extensionOf (Path.pieceComponents false (Path.pieces name.toList)) := by
    obtain ⟨front, split, _⟩ := Path.components_join_relative folder relative
    rw [Path.extension?_eq, split, Path.extensionOf, List.getLast?_append_of_ne_nil _ named.filled,
      Path.extensionOf]
  have template' := isTemplate_resolve named parent parent' ▸ template
  rw [resolve_of_parent? parent, extension] at bare
  rw [resolve_of_parent? parent'] at template' ⊢
  split
  · next none =>
    rw [if_pos none] at template'
    exact bare_addExtension none template'
  · next some =>
    rw [extension] at some
    rw [if_neg some, bare_join_iff relative given] at bare
    rwa [bare_join_iff relative given]

theorem read_of_aims {path : Path} {text : String} (tree : disk.IsTree)
    (aims : Aims disk path place (some text)) (valid : '\x00' ∉ path.spelling.toList)
    (bare : Disk.Bare (steps path.spelling)) :
    disk.read path = .ok text ∨ disk.read path = .error .nameTooLong := by
  have filled : path.spelling ≠ "" := by
    intro empty
    obtain ⟨_, _, _, _, _, route, _⟩ := aims.parent tree
    rw [Path.route, (Path.components_eq_nil_iff path).2 empty] at route
    simp at route
  by_cases short : Text.byteLength path.spelling.toList < pathLimit
  · refine .inl (read_eq_ok_iff.2 ⟨place, ?_, aims.stands⟩)
    have found := aims.find ⟨filled, valid, short⟩ bare
    rw [Disk.place?, found]
    rfl
  · refine .inr ?_
    have long : disk.locate true path = .error .nameTooLong := by
      rw [locate, locateBy, if_neg (by simpa using filled), if_neg (by simpa using valid),
        if_pos (Nat.le_of_not_lt short)]
    rw [Disk.read, status, Disk.find, long]
    rfl

/-- Templates at one place include the same texts, if the paths do not get too long. -/
theorem read_resolve {inclusion : Inclusion} {included : Path} {text : String} (tree : disk.IsTree)
    (linkless : disk.Linkless) (found : disk.find true base = .ok (place, .file content))
    (found' : disk.find true other = .ok (place, .file content')) (named : HasName inclusion.name)
    (leads : Leads base inclusion included) (read : disk.read included = .ok text) :
    ∃ target, Aims disk included target (some text) ∧ Leads other inclusion (resolve other inclusion.name) ∧
      Aims disk (resolve other inclusion.name) target (some text) ∧
      (disk.read (resolve other inclusion.name) = .ok text ∨
        disk.read (resolve other inclusion.name) = .error .nameTooLong) := by
  obtain ⟨rfl, template⟩ := leads
  have aims := aims_of_find tree found
  have aims' := aims_of_find tree found'
  obtain ⟨folder, parent, _⟩ := aims_folder tree linkless aims
  obtain ⟨folder', parent', _⟩ := aims_folder tree linkless aims'
  obtain ⟨target, reached⟩ := read_eq_ok_iff_exists_find.1 read
  have own := aims_of_find tree reached
  have own' := aims_resolve tree linkless aims aims' named own
  refine ⟨target, own, ⟨rfl, isTemplate_resolve named parent parent' ▸ template⟩, own', ?_⟩
  cases absolute : (⟨inclusion.name⟩ : Path).isAbsolute with
  | true => exact .inl (resolve_eq_of_isAbsolute absolute parent parent' ▸ read)
  | false =>
    have bare := bare_resolve absolute named parent parent' template (bare_of_find tree reached)
    refine read_of_aims tree own' (fun bad => ?_) bare
    obtain ⟨name, member, inside⟩ := (mem_iff_exists_route (by decide) (by decide)).1 bad
    rw [(route_resolve absolute named parent' disk).1] at member
    rcases List.mem_append.1 member with before | behind
    · have bad : '\x00' ∈ folder'.spelling.toList :=
        (mem_iff_exists_route (by decide) (by decide)).2 ⟨name, before, inside⟩
      exact (accepts_of_find found').valid ((Path.parent?_prefix parent').subset bad)
    · refine (accepts_of_find reached).valid ((mem_iff_exists_route (by decide) (by decide)).2 ⟨name, ?_, inside⟩)
      rw [(route_resolve absolute named parent disk).1]
      exact List.mem_append_right _ behind

end

/-- A path from the root that never leads up. -/
structure Plain (path : Path) : Prop where
  absolute : path.isAbsolute = true
  down : ".." ∉ path.route

section

variable {disk : Disk} {base other : Path} {place : Place} {content content' : Option String}

theorem Plain.along_route (plain : Plain base) : along [] base.route = base.route := by
  refine (along_eq_append (fun name member => ⟨?_, ?_⟩) []).trans (List.nil_append _)
  · rintro rfl
    rw [route_eq] at member
    simpa using (List.mem_filter.1 member).2
  · rintro rfl
    exact plain.down member

theorem Plain.components_eq (plain : Plain base) : base.components = .root :: base.route.map .name := by
  have named : ∀ components : List Path.Component, .root ∉ components → .current ∉ components →
      ".." ∉ components.filterMap Path.Component.name? →
        (components.filterMap Path.Component.name?).map .name = components := by
    intro components
    induction components with
    | nil => exact fun _ _ _ => rfl
    | cons component rest ih =>
      intro inside inner down
      cases component with
      | root | current => simp at inside inner
      | parent => exact absurd List.mem_cons_self down
      | name text =>
        exact congrArg (Path.Component.name text :: ·) (ih (mt (List.mem_cons_of_mem _) inside)
          (mt (List.mem_cons_of_mem _) inner) (mt (List.mem_cons_of_mem _) down))
  obtain ⟨absolute, down⟩ := plain
  rw [Path.route, Path.components_eq, if_pos absolute] at down ⊢
  exact congrArg (Path.Component.root :: ·) (named _ (Path.root_notMem_pieceComponents _ _)
    (Path.current_notMem_pieceComponents _) down).symm

/-- Plain paths to one place have the same components. -/
theorem Plain.same (linkless : disk.Linkless) (plain : Plain base) (plain' : Plain other)
    (aims : Aims disk base place content) (aims' : Aims disk other place content') :
    base.same other = true := by
  have route {path : Path} {content : Option String} (plain : Plain path)
      (aims : Aims disk path place content) : place = path.route := by
    rw [linkless.walk_eq aims.walked, start, if_pos plain.absolute, plain.along_route]
  rw [Path.same_iff, plain.components_eq, plain'.components_eq, ← route plain aims, ← route plain' aims']

/-- An extension leads nowhere else. -/
theorem up_of_completed {components : List Path.Component}
    (up : ".." ∈ (Path.completed components).filterMap Path.Component.name?) :
    ".." ∈ components.filterMap Path.Component.name? := by
  unfold Path.completed Path.extended at up
  split at up
  · split at up
    · next text last =>
      rw [List.filterMap_append, List.mem_append] at up
      rcases up with before | own
      · exact (List.dropLast_sublist components).filterMap _ |>.subset before
      · have longer : ".." = text ++ String.ofList ".pug".toList := List.mem_singleton.1 own
        have lengths := congrArg (·.toList.length) longer
        simp at lengths
    · exact up
  · exact up

theorem root_mem_completed {components : List Path.Component} (member : .root ∈ components) :
    .root ∈ Path.completed components := by
  unfold Path.completed Path.extended
  split
  · split
    · next text last =>
      obtain ⟨before, rfl⟩ := List.getLast?_eq_some_iff.1 last
      simpa using member
    · exact member
  · exact member

/-- A plain include of a plain template is plain. -/
theorem Plain.resolve {name : String} {folder : Path} (plain : Plain base) (named : HasName name)
    (parent : base.parent? = some folder) (down : ".." ∉ (⟨name⟩ : Path).route) :
    Plain (resolve base name) := by
  obtain ⟨last, split, inside⟩ := Path.components_eq_of_parent? parent
  have absolute : folder.isAbsolute = true := by
    rw [← Path.isAbsolute_eq_of_components_append split (by simpa using inside.symm)]
    exact plain.absolute
  have above : ".." ∉ folder.route := fun up => plain.down (by
    rw [Path.route, split, List.filterMap_append]
    exact List.mem_append_left _ up)
  cases relative : (⟨name⟩ : Path).isAbsolute with
  | false =>
    obtain ⟨front, own, route, root⟩ := components_resolve relative named parent
    refine ⟨?_, fun up => ?_⟩
    · rw [← Path.root_mem_components_iff, own]
      exact List.mem_append_left _ (root.2 absolute)
    · rw [Path.route, own, List.filterMap_append, route] at up
      refine (List.mem_append.1 up).elim above fun up => down ?_
      have inner := up_of_completed up
      rw [filterMap_name?_pieceComponents] at inner
      rwa [route_eq, names_eq]
  | true =>
    have own : (Pug.resolve base name).components = Path.completed (⟨name⟩ : Path).components := by
      rw [resolve_of_parent? parent, Path.components_complete]
      simp [Path.join, relative]
    refine ⟨?_, fun up => down (up_of_completed (own ▸ up))⟩
    rw [← Path.root_mem_components_iff, own]
    exact root_mem_completed (Path.root_mem_components_iff.2 relative)

end

end Pug

end Querymap
