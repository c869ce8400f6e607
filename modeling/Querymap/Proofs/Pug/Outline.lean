import Querymap.Proofs.Pug.TagLines

/-! The tree that lines outline by their depths: a line belongs to the nearest line before it that is less
deep. -/
namespace Querymap.Pug

/-- The nearest of the first lines, from the last one back, that is less deep than `limit`. -/
def nearest? (depth : Nat → Nat) (limit : Nat) : Nat → Option Nat
  | 0 => none
  | index + 1 => if depth index < limit then some index else nearest? depth limit index

/-- The nearest earlier line that is less deep than a line. -/
def parent? (depth : Nat → Nat) (index : Nat) : Option Nat := nearest? depth (depth index) index

/-- Of the first `count` lines, those with the given parent, or with none, in order. -/
def childrenOf (depth : Nat → Nat) (count : Nat) (parent : Option Nat) : List Nat :=
  (List.range count).filter (parent? depth · == parent)

def Row.depth (rows : List Row) (index : Nat) : Nat := (rows[index]?.map indent).getD 0

/-- Each line is a node, which has the nodes of its children below it; those of lines without a parent
make up the block. -/
def Outlines (rows : List Row) (block : Block) : Prop :=
  ∃ node : Nat → Node,
    block = (childrenOf (Row.depth rows) rows.length none).map node ∧
    ∀ index row, rows[index]? = some row →
      node index = row.tag ((childrenOf (Row.depth rows) rows.length (some index)).map node)

section Parents

variable {depth : Nat → Nat} {limit index earlier : Nat}

theorem nearest?_eq_some (found : nearest? depth limit index = some earlier) :
    earlier < index ∧ depth earlier < limit := by
  fun_induction nearest? depth limit index with
  | case1 => contradiction
  | case2 index less =>
    cases found
    exact ⟨Nat.lt_succ_self _, less⟩
  | case3 index _ ih => exact ⟨Nat.lt_succ_of_lt (ih found).1, (ih found).2⟩

/-- Lines after the nearest one that is less deep are not. -/
theorem le_depth_of_nearest? (before : earlier < index)
    (nearest : ∀ found ∈ nearest? depth limit index, found < earlier) : limit ≤ depth earlier := by
  fun_induction nearest? depth limit index with
  | case1 => omega
  | case2 index less =>
    have := nearest index rfl
    omega
  | case3 index deep ih =>
    rcases Nat.lt_succ_iff_lt_or_eq.1 before with before | rfl
    · exact ih before nearest
    · exact Nat.le_of_not_lt deep

/-- Among the later lines with no parent after a line, its children are those that are deeper. -/
theorem parent?_eq_some_iff {start : Nat} (after : start < index) :
    parent? depth index = some start ↔
      (∀ found ∈ parent? depth index, found < start + 1) ∧ depth start < depth index := by
  constructor
  · intro parent
    refine ⟨fun found same => ?_, (nearest?_eq_some parent).2⟩
    cases parent.symm.trans same
    exact Nat.lt_succ_self _
  · rintro ⟨first, deeper⟩
    have known : ¬∀ found ∈ parent? depth index, found < start := fun nearest =>
      Nat.not_lt_of_le (le_depth_of_nearest? after nearest) deeper
    obtain ⟨found, same, later⟩ : ∃ found ∈ parent? depth index, start ≤ found := by simpa using known
    have := first found same
    have equal : found = start := by omega
    exact equal ▸ same

theorem forall_parent?_lt_iff {start : Nat} (after : start < index) :
    (∀ found ∈ parent? depth index, found < start) ↔
      (∀ found ∈ parent? depth index, found < start + 1) ∧ depth index ≤ depth start := by
  constructor
  · intro first
    exact ⟨fun found same => Nat.lt_succ_of_lt (first found same), le_depth_of_nearest? after first⟩
  · rintro ⟨first, shallow⟩ found same
    have := first found same
    have apart : found ≠ start := by
      rintro rfl
      exact Nat.not_lt_of_le shallow (nearest?_eq_some same).2
    omega

theorem mem_childrenOf {count : Nat} {parent : Option Nat} :
    index ∈ childrenOf depth count parent ↔ index < count ∧ parent? depth index = parent := by
  rw [childrenOf, List.mem_filter, List.mem_range, beq_iff_eq]

end Parents

/-- Lines outline one block: a node is known once those of later lines are. -/
theorem Outlines.unique {rows : List Row} {block other : Block} (outlines : Outlines rows block)
    (others : Outlines rows other) : block = other := by
  obtain ⟨node, rfl, nodes⟩ := outlines
  obtain ⟨node', rfl, nodes'⟩ := others
  have same (left : Nat) : ∀ index < rows.length, rows.length ≤ index + left → node index = node' index := by
    induction left with
    | zero => omega
    | succ left ih =>
      intro index inside bound
      have found := List.getElem?_eq_getElem inside
      rw [nodes index _ found, nodes' index _ found]
      refine congrArg _ (List.map_congr_left fun child member => ?_)
      obtain ⟨within, parent⟩ := mem_childrenOf.1 member
      have := (nearest?_eq_some parent).1
      exact ih child within (by omega)
  refine List.map_congr_left fun index member => ?_
  exact same rows.length index (mem_childrenOf.1 member).1 (by omega)

/-- The last trees of a forest are the less deep ones, if depths do not increase. -/
theorem span_of_pairwise {α : Type} {depth : α → Nat} {trees : List α}
    (sorted : trees.Pairwise (depth · ≥ depth ·)) (limit : Nat) :
    trees.takeWhile (limit < depth ·) = trees.filter (limit < depth ·) ∧
      trees.dropWhile (limit < depth ·) = trees.filter (depth · ≤ limit) := by
  induction trees with
  | nil => exact ⟨rfl, rfl⟩
  | cons first rest ih =>
    obtain ⟨below, sorted⟩ := List.pairwise_cons.1 sorted
    by_cases deeper : limit < depth first
    · simp [deeper, Nat.not_le.2 deeper, ih sorted]
    · have none : rest.filter (limit < depth ·) = [] := by
        refine List.filter_eq_nil_iff.2 fun other member => ?_
        have := below other member
        simp only [decide_eq_true_eq]
        omega
      have all : rest.filter (depth · ≤ limit) = rest := by
        refine List.filter_eq_self.2 fun other member => ?_
        have := below other member
        simp only [decide_eq_true_eq]
        omega
      simp [deeper, Nat.le_of_not_lt deeper, none, all]

section Roots

variable (depth : Nat → Nat) (count : Nat)

/-- A line without a parent from `start` on. -/
def isRoot (start index : Nat) : Bool := (parent? depth index).all (· < start)

theorem isRoot_iff {start index : Nat} :
    isRoot depth start index = true ↔ ∀ found ∈ parent? depth index, found < start := by
  simp [isRoot, Option.all_eq_true]

/-- The lines from `start` on that have no parent among them. -/
def roots (start : Nat) : List Nat := (List.range' start (count - start)).filter (isRoot depth start)

theorem roots_pairwise (start : Nat) : (roots depth count start).Pairwise (depth · ≥ depth ·) := by
  refine List.Pairwise.imp_of_mem (fun {earlier later} first second before => ?_)
    (List.Pairwise.filter _ (List.pairwise_lt_range' 1))
  have inside := (List.mem_range'_1.1 (List.mem_filter.1 first).1).1
  have nearest := (isRoot_iff depth).1 (List.mem_filter.1 second).2
  exact le_depth_of_nearest? before fun found same => Nat.lt_of_lt_of_le (nearest found same) inside

theorem childrenOf_none : childrenOf depth count none = roots depth count 0 := by
  rw [childrenOf, roots, List.range_eq_range', Nat.sub_zero]
  refine List.filter_congr fun index _ => ?_
  rw [isRoot]
  cases parent? depth index <;> rfl

variable {depth count} {start : Nat}

theorem roots_eq_cons (inside : start < count) :
    roots depth count start =
      start :: (roots depth count (start + 1)).dropWhile (depth start < depth ·) := by
  have first : isRoot depth start start = true :=
    (isRoot_iff depth).2 fun found same => (nearest?_eq_some same).1
  rw [(span_of_pairwise (roots_pairwise ..) _).2, roots, roots, List.filter_filter,
    show count - start = count - (start + 1) + 1 by omega, List.range'_succ,
    List.filter_cons_of_pos first]
  congr 1
  refine List.filter_congr fun index member => Bool.eq_iff_iff.2 ?_
  have after := (List.mem_range'_1.1 member).1
  rw [Bool.and_eq_true, decide_eq_true_eq, isRoot_iff, isRoot_iff, forall_parent?_lt_iff after, and_comm]

theorem childrenOf_some (inside : start < count) :
    childrenOf depth count (some start) =
      (roots depth count (start + 1)).takeWhile (depth start < depth ·) := by
  have whole : List.range count =
      List.range (start + 1) ++ List.range' (start + 1) (count - (start + 1)) := by
    have split := @List.range'_append_1 0 (start + 1) (count - (start + 1))
    rw [Nat.zero_add, Nat.add_sub_cancel' inside] at split
    rw [List.range_eq_range', List.range_eq_range', split]
  have none : (List.range (start + 1)).filter (parent? depth · == some start) = [] := by
    refine List.filter_eq_nil_iff.2 fun index member same => ?_
    have := (nearest?_eq_some (beq_iff_eq.1 same)).1
    have := List.mem_range.1 member
    omega
  rw [(span_of_pairwise (roots_pairwise ..) _).1, childrenOf, whole, List.filter_append, none,
    List.nil_append, roots, List.filter_filter]
  refine List.filter_congr fun index member => Bool.eq_iff_iff.2 ?_
  have after := (List.mem_range'_1.1 member).1
  rw [Bool.and_eq_true, decide_eq_true_eq, isRoot_iff, beq_iff_eq, parent?_eq_some_iff after, and_comm]

end Roots

/-! Trees from the last line to the first: those deeper than a line after it are its children. -/

/-- The trees of lines, with the depths of their roots. -/
def forest : List Row → List (Nat × Node)
  | [] => []
  | row :: rest =>
    (row.indent, row.tag (((forest rest).takeWhile (row.indent < ·.1)).map (·.2))) ::
      (forest rest).dropWhile (row.indent < ·.1)

def grow (rows : List Row) : Block := (forest rows).map (·.2)

section Blocks

variable {below after : List Row} {level : Nat}

theorem forest_deeper (deep : ∀ row ∈ below, level < row.indent) :
    ∀ tree ∈ forest below, level < tree.1 := by
  induction below with
  | nil => simp [forest]
  | cons row rest ih =>
    obtain ⟨own, others⟩ := List.forall_mem_cons.1 deep
    refine List.forall_mem_cons.2 ⟨own, fun tree member => ?_⟩
    exact ih others tree (List.dropWhile_sublist _ |>.mem member)

theorem head?_forest (shallow : ∀ next ∈ after.head?, next.indent ≤ level) :
    ∀ tree ∈ (forest after).head?, tree.1 ≤ level := by
  cases after with
  | nil => simp [forest]
  | cons next rest =>
    rintro tree ⟨⟩
    exact shallow next rfl

/-- A line that is not deeper starts trees of its own. -/
theorem forest_append (deep : ∀ row ∈ below, level < row.indent)
    (shallow : ∀ next ∈ after.head?, next.indent ≤ level) :
    forest (below ++ after) = forest below ++ forest after := by
  induction below with
  | nil => rfl
  | cons row rest ih =>
    obtain ⟨own, others⟩ := List.forall_mem_cons.1 deep
    have stop : ∀ tree ∈ (forest after).head?, decide (row.indent < tree.1) = false := by
      intro tree head
      have := head?_forest shallow tree head
      simp only [decide_eq_false_iff_not]
      omega
    rw [List.cons_append, forest, forest, ih others, Text.takeWhile_append_stop _ stop,
      Text.dropWhile_append_stop _ stop, List.cons_append]

theorem grow_cons {row : Row} (deep : ∀ other ∈ below, row.indent < other.indent)
    (shallow : ∀ next ∈ after.head?, next.indent ≤ row.indent) :
    grow (row :: (below ++ after)) = row.tag (grow below) :: grow after := by
  have inside : ∀ tree ∈ forest below, decide (row.indent < tree.1) = true := fun tree member =>
    decide_eq_true (forest_deeper deep tree member)
  have stop : ∀ tree ∈ (forest after).head?, decide (row.indent < tree.1) = false := fun tree head =>
    decide_eq_false (Nat.not_lt.2 (head?_forest shallow tree head))
  rw [grow, forest, forest_append deep shallow, Text.takeWhile_append_all inside stop,
    Text.dropWhile_append_all inside stop]
  rfl

end Blocks

section Growth

variable {rows : List Row} {start : Nat}

theorem Row.depth_eq {row : Row} (found : rows[start]? = some row) : Row.depth rows start = row.indent := by
  rw [depth, found]
  rfl

theorem drop_eq_cons {row : Row} (found : rows[start]? = some row) :
    rows.drop start = row :: rows.drop (start + 1) := by
  obtain ⟨inside, same⟩ := List.getElem?_eq_some_iff.1 found
  rw [List.drop_eq_getElem_cons inside, same]

/-- The tree of a line, with the trees of the lines below it. -/
def treeAt (rows : List Row) (index : Nat) : Node :=
  ((forest (rows.drop index)).head?.map (·.2)).getD .text

theorem treeAt_eq {row : Row} (found : rows[start]? = some row) :
    treeAt rows start =
      row.tag (((forest (rows.drop (start + 1))).takeWhile (row.indent < ·.1)).map (·.2)) := by
  rw [treeAt, drop_eq_cons found, forest]
  rfl

theorem forest_drop (start : Nat) (inside : start ≤ rows.length) :
    forest (rows.drop start) =
      (roots (Row.depth rows) rows.length start).map fun index =>
        (Row.depth rows index, treeAt rows index) := by
  -- From the last line back: a line takes the deeper ones among the roots after it as its children.
  rcases Nat.lt_or_eq_of_le inside with less | rfl
  · have found := List.getElem?_eq_getElem less
    rw [roots_eq_cons less, List.map_cons, treeAt_eq found, drop_eq_cons found, forest, forest_drop _ less,
      List.dropWhile_map, Row.depth_eq found]
    rfl
  · simp [roots, forest]
termination_by rows.length - start

theorem outlines_grow (rows : List Row) : Outlines rows (grow rows) := by
  refine ⟨treeAt rows, ?_, fun index row found => ?_⟩
  · have whole := @forest_drop rows 0 (Nat.zero_le _)
    rw [List.drop_zero] at whole
    rw [grow, whole, childrenOf_none, List.map_map]
    rfl
  · have less := (List.getElem?_eq_some_iff.1 found).1
    rw [treeAt_eq found, forest_drop _ less, childrenOf_some less, List.takeWhile_map, Row.depth_eq found,
      List.map_map]
    rfl

end Growth

end Querymap.Pug
