import Querymap.Scan

/-! Paths in order. Comparing paths is a total order of their components, so a sorted list of paths holds
no file twice. -/
namespace Querymap

namespace Path

/-- What tells components of one kind apart. -/
def Component.label : Component → String
  | .name text => text
  | _ => ""

theorem Component.compare_eq_lex :
    Component.compare = compareLex (compareOn rank) (compareOn label) := by
  funext a b
  cases a <;> cases b <;> rfl

instance : Std.TransCmp Component.compare := by
  rw [Component.compare_eq_lex]
  infer_instance

theorem compareComponents_eq_lex : compareComponents = List.compareLex Component.compare := by
  funext as bs
  induction as generalizing bs with
  | nil => cases bs <;> rfl
  | cons a as ih =>
    cases bs with
    | nil => rfl
    | cons b bs =>
      rw [compareComponents, ih, List.compareLex_cons_cons]

instance : Std.TransCmp compareComponents := by
  rw [compareComponents_eq_lex]
  infer_instance

instance : Std.TransCmp Path.compare where
  eq_swap {a b} := @Std.OrientedCmp.eq_swap _ compareComponents _ a.components b.components
  isLE_trans {a b c} :=
    @Std.TransCmp.isLE_trans _ compareComponents _ a.components b.components c.components

theorem compareComponents_append_left (front as bs : List Component) :
    compareComponents (front ++ as) (front ++ bs) = compareComponents as bs := by
  induction front with
  | nil => rfl
  | cons component front ih =>
    have same : component.compare component = .eq := Std.ReflCmp.compare_self
    rw [List.cons_append, List.cons_append, compareComponents, same, ih]
    rfl

theorem compare_self (path : Path) : path.compare path = .eq := Std.ReflCmp.compare_self

theorem Component.eq_of_compare_eq {a b : Component} (equal : a.compare b = .eq) : a = b := by
  rw [Component.compare_eq_lex, compareLex_eq_eq, compareOn, compareOn] at equal
  obtain ⟨ranks, labels⟩ := equal
  have ranks := Std.LawfulEqCmp.eq_of_compare ranks
  have labels := Std.LawfulEqCmp.eq_of_compare labels
  cases a <;> cases b <;> simp_all [rank, label]

theorem components_eq_of_compare_eq {a b : Path} (equal : a.compare b = .eq) :
    a.components = b.components := by
  have lists : ∀ as bs : List Component, compareComponents as bs = .eq → as = bs := by
    intro as
    induction as with
    | nil => intro bs equal; cases bs <;> first | rfl | contradiction
    | cons a as ih =>
      intro bs equal
      cases bs with
      | nil => contradiction
      | cons b bs =>
        obtain ⟨first, rest⟩ := Ordering.then_eq_eq.1 equal
        rw [Component.eq_of_compare_eq first, ih bs rest]
  exact lists _ _ equal

theorem compare_eq_eq_iff {a b : Path} : a.compare b = .eq ↔ a.components = b.components :=
  ⟨components_eq_of_compare_eq, fun same => by
    rw [compare, same]
    exact Std.ReflCmp.compare_self⟩

end Path

variable {path other : Path} {paths : List Path}

/-- Strictly increasing paths. -/
def Increasing (paths : List Path) : Prop := paths.Pairwise fun a b => a.compare b = .lt

theorem mem_of_mem_insertPath (member : other ∈ insertPath path paths) : other = path ∨ other ∈ paths := by
  induction paths with
  | nil => exact .inl (List.mem_singleton.1 member)
  | cons first rest ih =>
    rw [insertPath] at member
    split at member
    · exact List.mem_cons.1 member
    · exact .inr member
    · rcases List.mem_cons.1 member with rfl | member
      · exact .inr List.mem_cons_self
      · exact (ih member).imp_right (List.mem_cons_of_mem first)

theorem Increasing.insertPath (increasing : Increasing paths) (path : Path) :
    Increasing (Querymap.insertPath path paths) := by
  induction paths with
  | nil => exact List.pairwise_singleton _ _
  | cons first rest ih =>
    obtain ⟨least, ordered⟩ := List.pairwise_cons.1 increasing
    rw [Querymap.insertPath]
    split
    · next before =>
      refine List.pairwise_cons.2 ⟨fun other member => ?_, increasing⟩
      rcases List.mem_cons.1 member with rfl | member
      · exact before
      · exact Std.TransCmp.lt_trans before (least other member)
    · exact increasing
    · next behind =>
      refine List.pairwise_cons.2 ⟨fun other member => ?_, ih ordered⟩
      rcases mem_of_mem_insertPath member with rfl | member
      · exact Std.OrientedCmp.lt_of_gt behind
      · exact least other member

theorem increasing_sortPaths (paths : List Path) : Increasing (sortPaths paths) := by
  have run : ∀ (paths sorted : List Path), Increasing sorted →
      Increasing (paths.foldl (fun sorted path => Querymap.insertPath path sorted) sorted) := by
    intro paths
    induction paths with
    | nil => exact fun _ increasing => increasing
    | cons path rest ih => exact fun sorted increasing => ih _ (increasing.insertPath path)
  exact run paths [] .nil

theorem exists_mem_insertPath (path : Path) (paths : List Path) :
    ∃ kept ∈ insertPath path paths, kept.compare path = .eq := by
  induction paths with
  | nil => exact ⟨path, List.mem_singleton_self path, path.compare_self⟩
  | cons first rest ih =>
    rw [insertPath]
    split
    · exact ⟨path, List.mem_cons_self, path.compare_self⟩
    · next equal => exact ⟨first, List.mem_cons_self, Std.OrientedCmp.eq_symm equal⟩
    · obtain ⟨kept, member, equal⟩ := ih
      exact ⟨kept, List.mem_cons_of_mem first member, equal⟩

theorem mem_insertPath_of_mem (member : other ∈ paths) (path : Path) :
    other ∈ insertPath path paths := by
  induction paths with
  | nil => contradiction
  | cons first rest ih =>
    rw [insertPath]
    split
    · exact List.mem_cons_of_mem path member
    · exact member
    · rcases List.mem_cons.1 member with rfl | member
      · exact List.mem_cons_self
      · exact List.mem_cons_of_mem first (ih member)

theorem mem_of_mem_sortPaths (member : other ∈ sortPaths paths) : other ∈ paths := by
  have run : ∀ (paths sorted : List Path),
      other ∈ paths.foldl (fun sorted path => Querymap.insertPath path sorted) sorted →
        other ∈ sorted ∨ other ∈ paths := by
    intro paths
    induction paths with
    | nil => exact fun _ member => .inl member
    | cons path rest ih =>
      intro sorted member
      rcases ih _ member with inserted | later
      · exact (mem_of_mem_insertPath inserted).elim
          (fun same => .inr (same ▸ List.mem_cons_self)) .inl
      · exact .inr (List.mem_cons_of_mem path later)
  exact (run paths [] member).resolve_left List.not_mem_nil

/-- A path of a list is sorted in, perhaps by another spelling of it. -/
theorem exists_mem_sortPaths (member : path ∈ paths) :
    ∃ kept ∈ sortPaths paths, kept.compare path = .eq := by
  have run : ∀ (paths sorted : List Path),
      (∃ kept ∈ sorted, kept.compare path = .eq) ∨ path ∈ paths →
        ∃ kept ∈ paths.foldl (fun sorted path => Querymap.insertPath path sorted) sorted,
          kept.compare path = .eq := by
    intro paths
    induction paths with
    | nil => exact fun _ known => known.resolve_right List.not_mem_nil
    | cons first rest ih =>
      rintro sorted (⟨kept, member, equal⟩ | member)
      · exact ih _ (.inl ⟨kept, mem_insertPath_of_mem member first, equal⟩)
      · rcases List.mem_cons.1 member with rfl | later
        · exact ih _ (.inl (exists_mem_insertPath _ _))
        · exact ih _ (.inr later)
  exact run paths [] (.inr member)

theorem insertPath_of_lt (least : ∀ other ∈ paths, path.compare other = .lt) :
    insertPath path paths = path :: paths := by
  cases paths with
  | nil => rfl
  | cons first rest => rw [insertPath, least first List.mem_cons_self]

/-- A choice that does not tell the spellings of a path apart. -/
def Respects (keep : Path → Bool) (paths : List Path) : Prop :=
  ∀ a ∈ paths, ∀ b ∈ paths, a.compare b = .eq → keep a = keep b

theorem filter_insertPath {keep : Path → Bool} (increasing : Increasing paths)
    (respects : Respects keep (path :: paths)) : (insertPath path paths).filter keep =
      if keep path then insertPath path (paths.filter keep) else paths.filter keep := by
  induction paths with
  | nil =>
    cases kept : keep path <;> simp [insertPath, kept]
  | cons first rest ih =>
    obtain ⟨least, ordered⟩ := List.pairwise_cons.1 increasing
    rw [insertPath]
    split
    · next before =>
      rw [List.filter_cons]
      split
      · refine (insertPath_of_lt fun other member => ?_).symm
        rcases List.mem_cons.1 (List.mem_filter.1 member).1 with rfl | later
        · exact before
        · exact Std.TransCmp.lt_trans before (least other later)
      · rfl
    · next equal =>
      have same := respects path List.mem_cons_self first (by simp) equal
      split
      · next kept => rw [List.filter_cons_of_pos (same ▸ kept), insertPath, equal]
      · rfl
    · next behind =>
      have later := ih ordered fun a inside b inside' =>
        respects a (List.cons_subset_cons path (List.subset_cons_self first rest) inside) b
          (List.cons_subset_cons path (List.subset_cons_self first rest) inside')
      rw [List.filter_cons, later, List.filter_cons]
      split
      · split
        · rw [insertPath, behind]
        · rfl
      · rfl

/-- Choosing among paths and sorting them can be exchanged. -/
theorem filter_sortPaths {keep : Path → Bool} (respects : Respects keep paths) :
    (sortPaths paths).filter keep = sortPaths (paths.filter keep) := by
  have run : ∀ rest sorted : List Path, rest ⊆ paths → sorted ⊆ paths → Increasing sorted →
      (rest.foldl (fun sorted path => insertPath path sorted) sorted).filter keep =
        (rest.filter keep).foldl (fun sorted path => insertPath path sorted) (sorted.filter keep) := by
    intro rest
    induction rest with
    | nil => exact fun _ _ _ _ => rfl
    | cons path rest ih =>
      intro sorted inside among increasing
      obtain ⟨own, inside⟩ := List.cons_subset.1 inside
      have within : path :: sorted ⊆ paths := List.cons_subset.2 ⟨own, among⟩
      have known : insertPath path sorted ⊆ paths := fun other member =>
        within (List.mem_cons.2 (mem_of_mem_insertPath member))
      rw [List.foldl_cons, ih _ inside known (increasing.insertPath path),
        filter_insertPath increasing fun a one b two => respects a (within one) b (within two), List.filter_cons]
      split <;> rfl
  exact run paths [] (List.Subset.refl _) (List.nil_subset _) .nil

/-- A map of paths that keeps their order. -/
def KeepsOrder (image : Path → Path) (paths : List Path) : Prop :=
  ∀ a ∈ paths, ∀ b ∈ paths, (image a).compare (image b) = a.compare b

theorem insertPath_map {image : Path → Path} (keeps : KeepsOrder image (path :: paths)) :
    insertPath (image path) (paths.map image) = (insertPath path paths).map image := by
  induction paths with
  | nil => rfl
  | cons first rest ih =>
    have later := ih fun a inside b inside' =>
      keeps a (List.cons_subset_cons path (List.subset_cons_self first rest) inside) b
        (List.cons_subset_cons path (List.subset_cons_self first rest) inside')
    rw [List.map_cons, insertPath, insertPath, keeps path List.mem_cons_self first (by simp)]
    cases path.compare first with
    | lt => rfl
    | eq => rfl
    | gt => exact congrArg (image first :: ·) later

/-- Mapping paths and sorting them can be exchanged. -/
theorem sortPaths_map {image : Path → Path} (keeps : KeepsOrder image paths) :
    sortPaths (paths.map image) = (sortPaths paths).map image := by
  have run : ∀ rest sorted : List Path, rest ⊆ paths → sorted ⊆ paths →
      (rest.map image).foldl (fun sorted path => insertPath path sorted) (sorted.map image) =
        (rest.foldl (fun sorted path => insertPath path sorted) sorted).map image := by
    intro rest
    induction rest with
    | nil => exact fun _ _ _ => rfl
    | cons path rest ih =>
      intro sorted inside among
      obtain ⟨own, inside⟩ := List.cons_subset.1 inside
      have within : path :: sorted ⊆ paths := List.cons_subset.2 ⟨own, among⟩
      have known : insertPath path sorted ⊆ paths := fun other member =>
        within (List.mem_cons.2 (mem_of_mem_insertPath member))
      rw [List.map_cons, List.foldl_cons, List.foldl_cons,
        insertPath_map fun a one b two => keeps a (within one) b (within two), ih _ inside known]
  exact run paths [] (List.Subset.refl _) (List.nil_subset _)

theorem Increasing.nodup_spellings (increasing : Increasing paths) :
    (paths.map (·.spelling)).Nodup := by
  refine List.Pairwise.map _ ?_ increasing
  intro a b less same
  have equal : a = b := congrArg Path.mk same
  subst equal
  rw [Path.compare_self] at less
  contradiction

theorem increasing_scan (disk : Disk) (base : Path) (inputs : List String) (withCompiled : Bool) :
    Increasing (scan disk base inputs withCompiled).files :=
  increasing_sortPaths _

end Querymap
