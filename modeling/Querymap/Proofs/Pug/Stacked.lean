import Querymap.Proofs.Pug.Mirror

/-! Lines that stand one below the other, each deeper than the one before, with a block below the last
one. The block is read as it is on its own and goes into the tag of the last line. -/
namespace Querymap.Pug

/-- A text that is read as one tag, whatever lines follow it. -/
structure Lead where
  text : List Char
  name : String
  attributes : List Attribute
  /-- The nodes on the same line. -/
  inner : Block
  unchained : elseBranch? text = none
  reads : ∀ number lines, readLine number text lines =
    .ok (.tag name attributes inner, .block, ⟨lines, List.suffix_refl _⟩)

/-- Nodes within the tag of the last line of a stack. -/
def nest : List Lead → Block → Block
  | [], nodes => nodes
  | lead :: leads, nodes => [.tag lead.name lead.attributes (lead.inner ++ nest leads nodes)]

/-- A template of some texts, each deeper than the one before, and a block that is deeper than them
all. -/
structure Stack (texts : List (List Char)) (block : List Line) where
  content : String
  above : List Line
  layout : LineLayout
  cut : readLines content.toList = .ok (above ++ block.map layout.line)
  texts : above.map (·.text) = texts
  deeper : above.Pairwise (·.indent < ·.indent)
  below : ∀ line ∈ above, ∀ row ∈ block, line.indent < layout.column row.indent

section Blocks

variable {parent : Nat}

/-- Lines that are all deeper than `parent`: what is left of them would be at fault. -/
theorem readNodes_within {level : Nat} {lines : List Line} (deeper : ∀ line ∈ lines, parent < line.indent)
    (before : Block) :
    erase (readNodes (some parent) level before lines) =
      (whole (erase (readNodes none level before lines))).map (·, []) := by
  match lines, deeper with
  | [], _ =>
    rw [readNodes_nil, readNodes_nil]
    rfl
  | line :: others, deeper =>
    obtain ⟨first, behind⟩ := List.forall_mem_cons.1 deeper
    have later {left : List Line} (suffix : left <:+ others) : ∀ line ∈ left, parent < line.indent :=
      fun line member => behind line (suffix.subset member)
    rcases Nat.lt_trichotomy line.indent level with shallow | rfl | deep
    · rw [readNodes_shallow shallow, readNodes_shallow shallow, if_pos (by simpa using first),
        if_neg (by simp)]
      rfl
    · cases branches : elseBranch? line.text with
      | some chained =>
        cases before with
        | nil =>
          rw [readNodes_stray branches (by simp), readNodes_stray branches (by simp)]
          rfl
        | cons last earlier =>
          cases takes : takesBranch chained last with
          | false =>
            rw [readNodes_stray branches (by simpa using takes),
              readNodes_stray branches (by simpa using takes)]
            rfl
          | true =>
            rw [readNodes_chained branches takes, readNodes_chained branches takes]
            cases below : erase (readBlock (some line.indent) others) with
            | error => rfl
            | ok result =>
              obtain ⟨branch, left⟩ := result
              obtain ⟨suffix, _⟩ := erase_eq_ok below
              have fewer := suffix.length_le
              exact readNodes_within (later suffix) _
      | none =>
        rw [readNodes_unchained branches, readNodes_unchained branches]
        cases readLine line.number line.text others with
        | error => rfl
        | ok result =>
          obtain ⟨node, children, rest, suffix⟩ := result
          simp only [Except.bind]
          cases below : erase (readChildren line.indent children rest) with
          | error => rfl
          | ok result =>
            obtain ⟨nodes, left⟩ := result
            obtain ⟨suffix', _⟩ := erase_eq_ok below
            have fewer := (suffix'.trans suffix).length_le
            exact readNodes_within (later (suffix'.trans suffix)) _
    · rw [readNodes_deep deep, readNodes_deep deep]
      rfl
termination_by lines.length
decreasing_by
  all_goals
    simp only [List.length_cons]
    omega

theorem readBlock_within {lines : List Line} (deeper : ∀ line ∈ lines, parent < line.indent) :
    erase (readBlock (some parent) lines) =
      (whole (erase (readBlock none lines))).map (·, []) := by
  cases lines with
  | nil => rw [readBlock, readBlock]; rfl
  | cons first others =>
    have inside := deeper first List.mem_cons_self
    rw [readBlock_none, readBlock, if_neg (by simpa using inside)]
    exact readNodes_within deeper []

end Blocks

/-- A line of a stack takes what is below it. -/
theorem readNodes_lead {parent : Option Nat} {number indent : Nat} {lead : Lead} {lines : List Line}
    {read : Except ParseError Block} (above : ∀ column ∈ parent, column < indent)
    (below : erase (readBlock (some indent) lines) = read.map (·, [])) :
    erase (readNodes parent indent [] (⟨number, indent, lead.text⟩ :: lines)) =
      (read.map fun nodes => [.tag lead.name lead.attributes (lead.inner ++ nodes)]).map (·, []) := by
  refine (readNodes_cons rfl lead.unchained (lead.reads number lines)).trans ?_
  rw [readChildren, below]
  cases read with
  | error => rfl
  | ok nodes => exact readNodes_end (by simp [Outside]) above

/-- The lines of a stack that stand below a line take the block below them. -/
theorem readBlock_stack {leads : List Lead} {above lines : List Line} {parent : Nat}
    (texts : above.map (·.text) = leads.map Lead.text)
    (deeper : (parent :: above.map (·.indent)).Pairwise (· < ·))
    (below : ∀ column ∈ parent :: above.map (·.indent), ∀ row ∈ lines, column < row.indent) :
    erase (readBlock (some parent) (above ++ lines)) =
      ((whole (erase (readBlock none lines))).map (nest leads)).map (·, []) := by
  induction above generalizing leads parent with
  | nil =>
    obtain rfl := List.map_eq_nil_iff.1 texts.symm
    rw [List.nil_append, readBlock_within (below parent List.mem_cons_self)]
    cases whole (erase (readBlock none lines)) <;> rfl
  | cons line above ih =>
    cases leads with
    | nil => cases texts
    | cons lead leads =>
      obtain ⟨number, indent, text⟩ := line
      obtain ⟨rfl, others⟩ := List.cons.inj texts
      obtain ⟨first, deeper⟩ := List.pairwise_cons.1 deeper
      have inside : parent < indent := first indent List.mem_cons_self
      have read := ih others deeper fun column member =>
        below column (List.mem_cons_of_mem _ member)
      rw [List.cons_append, readBlock, if_neg (by simpa using inside)]
      refine (readNodes_lead (by simpa using inside) read).trans ?_
      cases whole (erase (readBlock none lines)) <;> rfl

/-- A stack is at fault where its block is; otherwise the nodes of the block are within all of its
tags. -/
theorem parse_stack {leads : List Lead} {texts : List (List Char)} {block : List Line}
    (stack : Stack texts block) (read : texts = leads.map Lead.text) {alone : String}
    (cut : readLines alone.toList = .ok block) :
    parse stack.content = (renumbered stack.layout.number (parse alone)).map (nest leads) := by
  obtain ⟨content, above, layout, cut', texts, deeper, below⟩ := stack
  subst read
  rw [parse_eq_whole cut', parse_eq_whole cut, ← whole_moved]
  have below' : ∀ column ∈ above.map (·.indent), ∀ row ∈ block.map layout.line, column < row.indent := by
    simpa using below
  cases above with
  | nil =>
    obtain rfl := List.map_eq_nil_iff.1 texts.symm
    rw [List.nil_append]
    cases whole (erase (readBlock none (block.map layout.line))) <;> rfl
  | cons line above =>
    cases leads with
    | nil => cases texts
    | cons lead leads =>
      obtain ⟨number, indent, text⟩ := line
      obtain ⟨rfl, others⟩ := List.cons.inj texts
      have read := readBlock_stack others (List.pairwise_map.2 deeper) below'
      rw [List.cons_append, readBlock, if_neg (by simp), readNodes_lead (by simp) read]
      cases whole (erase (readBlock none (block.map layout.line))) <;> rfl

end Querymap.Pug
