import Querymap.Proofs.Pug.Heads

/-! Reading a template that was written out gives its tree again. -/
namespace Querymap.Pug

section Trees

variable (layout : Layout) {parent : Option Nat} (level number : Nat) {left : List Line}

/-- The lines of a block that was written are read as the block with its line numbers. -/
def Layout.ReadsBlock (block : Block) : Prop :=
  ∀ parent level number before left, Outside (some level) left →
    erase (readNodes parent level before (layout.printBlock level number block ++ left)) =
      erase (readNodes parent level ((numbered number block).reverse ++ before) left)

theorem Layout.lt_inner : ∀ indent ∈ some level, indent < layout.inner level number := by
  rintro indent ⟨⟩
  exact Nat.lt_of_lt_of_le (Nat.lt_succ_self level) (Nat.le_add_right _ _)

theorem printNode_cons {node : Node} (printable : node.Printable) :
    ∃ tail, layout.printNode level number node =
      ⟨number, level, layout.head number node⟩ :: tail := by
  cases node with
  | each block alternate => cases alternate <;> exact ⟨_, rfl⟩
  | group => contradiction
  | _ => exact ⟨_, rfl⟩

theorem printBlock_cons {block : Block} (printable : Printable block) (nonempty : block ≠ []) :
    ∃ text tail, layout.printBlock level number block = ⟨number, level, text⟩ :: tail := by
  cases block with
  | nil => exact absurd rfl nonempty
  | cons node rest =>
    obtain ⟨tail, same⟩ := printNode_cons layout level number printable.1
    rw [Layout.printBlock, same]
    exact ⟨_, _, rfl⟩

variable {layout} {level number}

/-- A block below a line is read up to the lines outside it. -/
theorem readBlock_printed {block : Block} (printable : Printable block)
    (reads : layout.ReadsBlock block) (deeper : ∀ indent ∈ parent, indent < level)
    (outside : Outside parent left) :
    erase (readBlock parent (layout.printBlock level number block ++ left)) =
      .ok (numbered number block, left) := by
  have shallow : Outside (some level) left := by
    intro line head
    obtain ⟨indent, member, shallow⟩ := outside line head
    exact ⟨level, rfl, Nat.le_trans shallow (Nat.le_of_lt (deeper indent member))⟩
  by_cases empty : block = []
  · subst empty
    rw [Layout.printBlock, List.nil_append]
    cases left with
    | nil => rw [readBlock]; rfl
    | cons line others =>
      obtain ⟨indent, rfl, shallow⟩ := outside line rfl
      rw [readBlock, if_pos (by simpa using shallow)]
      rfl
  · have read := reads parent level number [] left shallow
    obtain ⟨text, tail, first⟩ := printBlock_cons layout level number printable empty
    rw [first, List.cons_append] at read ⊢
    have inside : ¬parent.any (level ≤ ·) = true := by
      cases parent with
      | none => simp
      | some indent => simpa using deeper indent rfl
    rw [readBlock, if_neg inside, read, readNodes_end outside deeper]
    simp

/-- A node with one block: its line and the lines of the block. -/
theorem readNodes_headed {node : Node} {block before : Block} (printable : node.Printable)
    (kind : node.children = .block) (inside : Printable block) (reads : layout.ReadsBlock block)
    (outside : Outside (some level) left) :
    erase (readNodes parent level before (⟨number, level, layout.head number node⟩ ::
      (layout.printBlock (layout.inner level (number + 1)) (number + 1) block ++ left))) =
    erase (readNodes parent level
      ((node.bare number).extend (numbered (number + 1) block) :: before) left) := by
  refine readNodes_line rfl (elseBranch?_head layout number printable)
    (readLine_head layout number _ printable) ?_
  rw [kind, readChildren]
  exact readBlock_printed inside reads (layout.lt_inner level (number + 1)) outside

/-- A node without blocks: its line alone. -/
theorem readNodes_leaf {node : Node} {before : Block} (printable : node.Printable)
    (kind : node.children = .none ∨ node.children = .raw) (outside : Outside (some level) left) :
    erase (readNodes parent level before (⟨number, level, layout.head number node⟩ :: left)) =
      erase (readNodes parent level ((node.bare number).extend [] :: before) left) := by
  refine readNodes_line rfl (elseBranch?_head layout number printable)
    (readLine_head layout number _ printable) ?_
  rcases kind with kind | kind <;> rw [kind]
  · exact readChildren_none outside
  · exact readChildren_raw outside

/-- A branch with its block, after the node that it belongs to. -/
theorem readNodes_branched {last attached : Node} {block before : Block} {text : List Char}
    {chained : Bool} (branches : elseBranch? text = some chained) (printable : Printable block)
    (reads : layout.ReadsBlock block) (outside : Outside (some level) left)
    (attaches : attachBranch? chained (numbered (number + 1) block) last = some attached) :
    erase (readNodes parent level (last :: before) (⟨number, level, text⟩ ::
      (layout.printBlock (layout.inner level (number + 1)) (number + 1) block ++ left))) =
    erase (readNodes parent level (attached :: before) left) :=
  readNodes_branch rfl branches
    (readBlock_printed printable reads (layout.lt_inner level (number + 1)) outside) attaches

/-- Further conditions before the rest of an alternate. -/
def chain : List Block → Alternate → Alternate
  | [], last => last
  | block :: blocks, last => .elseIf block (chain blocks last)

theorem append?_chain (blocks : List Block) (branch : Alternate) :
    (chain blocks .none).append? branch = some (chain blocks branch) := by
  induction blocks with
  | nil => rfl
  | cons block blocks ih => simp [chain, Alternate.append?, ih]

theorem chain_concat (blocks : List Block) (block : Block) (last : Alternate) :
    chain (blocks ++ [block]) last = chain blocks (.elseIf block last) := by
  induction blocks with
  | nil => rfl
  | cons first blocks ih => simp [chain, ih]

theorem outside_alternate (alternate : Alternate) (outside : Outside (some level) left) :
    Outside (some level) (layout.printAlternate level number alternate ++ left) := by
  cases alternate with
  | none => exact outside
  | elseIf | otherwise => exact outside_line

theorem outside_block {block : Block} (printable : Printable block)
    (outside : Outside (some level) left) :
    Outside (some level) (layout.printBlock level number block ++ left) := by
  by_cases empty : block = []
  · subst empty
    exact outside
  · obtain ⟨text, tail, first⟩ := printBlock_cons layout level number printable empty
    rw [first]
    exact outside_line

/-- The lines of an alternate are read as the end of the conditional before them. -/
def Layout.ReadsAlternate (alternate : Alternate) : Prop :=
  ∀ parent level number before consequent blocks left, Outside (some level) left →
    erase (readNodes parent level (.conditional consequent (chain blocks .none) :: before)
      (layout.printAlternate level number alternate ++ left)) =
    erase (readNodes parent level
      (.conditional consequent (chain blocks (alternate.numbered number)) :: before) left)

def Layout.ReadsNode (node : Node) : Prop :=
  ∀ parent level number before left, Outside (some level) left →
    erase (readNodes parent level before (layout.printNode level number node ++ left)) =
      erase (readNodes parent level (node.numbered number :: before) left)

mutual

theorem readsNode : (node : Node) → node.Printable → layout.ReadsNode node
  | .tag _ _ block, printable | .mixin _ block, printable | .call _ _ block, printable
  | .named _ block, printable => by
    intro parent level number before left outside
    exact readNodes_headed printable rfl printable.2 (readsBlock block printable.2) outside
  | .loop block, printable | .case block, printable | .when block, printable
  | .code block, printable | .each block none, printable => by
    intro parent level number before left outside
    exact readNodes_headed printable rfl printable (readsBlock block printable) outside
  | .conditional consequent alternate, printable => by
    intro parent level number before left outside
    rw [Layout.printNode, List.cons_append, List.append_assoc, readNodes_headed printable rfl
      printable.1 (readsBlock consequent printable.1) (outside_alternate alternate outside)]
    exact readsAlternate alternate printable.2 parent level _ before _ [] left outside
  | .each block (some alternate), printable => by
    intro parent level number before left outside
    rw [Layout.printNode, List.cons_append, List.append_assoc, List.cons_append, readNodes_headed
      printable rfl printable.1 (readsBlock block printable.1) outside_line]
    exact readNodes_branched rfl printable.2 (readsBlock alternate printable.2) outside rfl
  | .include .., printable | .inherits _, printable | .text, printable | .doctype, printable => by
    intro parent level number before left outside
    exact readNodes_leaf printable (.inl rfl) outside
  | .comment, printable => by
    intro parent level number before left outside
    exact readNodes_leaf printable (.inr rfl) outside

theorem readsBlock : (block : List Node) → Printable block → layout.ReadsBlock block
  | [], _ => fun _ _ _ _ _ _ => rfl
  | node :: rest, printable => by
    intro parent level number before left outside
    rw [Layout.printBlock, List.append_assoc, readsNode node printable.1 _ _ _ _ _
      (outside_block printable.2 outside), readsBlock rest printable.2 _ _ _ _ _ outside, numbered,
      List.reverse_cons, List.append_assoc, List.singleton_append]

theorem readsAlternate : (alternate : Alternate) → alternate.Printable →
    layout.ReadsAlternate alternate
  | .none, _ => fun _ _ _ _ _ _ _ _ => rfl
  | .elseIf block next, printable => by
    intro parent level number before consequent blocks left outside
    have condition := elseBranch?_elseIf (layout.phrase number).trimmed
    rw [Layout.printAlternate, List.cons_append, List.append_assoc,
      readNodes_branched condition printable.1 (readsBlock block printable.1)
        (outside_alternate next outside)
        (by rw [attachBranch?, if_pos rfl, append?_chain, Option.map_some, ← chain_concat])]
    have rest := readsAlternate next printable.2 parent level (number + (height block + 1)) before
      consequent (blocks ++ [numbered (number + 1) block]) left outside
    rwa [chain_concat _ _ (next.numbered _)] at rest
  | .otherwise block, printable => by
    intro parent level number before consequent blocks left outside
    have final : elseBranch? "else".toList = some false := rfl
    exact readNodes_branched final printable (readsBlock block printable) outside
      (by rw [attachBranch?, if_neg (by simp), append?_chain]; rfl)

end

/-- Lines that are numbered from `number` on, `height` of them. -/
structure Spans (number height : Nat) (lines : List Line) : Prop where
  successive : Successive number lines
  length : lines.length = height

theorem Spans.cons {height : Nat} {text : List Char} {lines : List Line}
    (trimmed : Text.Trimmed text) (spans : Spans (number + 1) height lines) :
    Spans number (height + 1) (⟨number, level, text⟩ :: lines) :=
  ⟨⟨⟨rfl, trimmed⟩, spans.successive⟩, by rw [List.length_cons, spans.length]⟩

theorem Spans.append {first second : Nat} {before after : List Line}
    (starts : Spans number first before) (ends : Spans (number + first) second after) :
    Spans number (first + second) (before ++ after) := by
  refine ⟨successive_append.2 ⟨starts.successive, ?_⟩, ?_⟩
  · rw [starts.length]
    exact ends.successive
  · rw [List.length_append, starts.length, ends.length]

mutual

theorem spans_printNode (layout : Layout) (level number : Nat) :
    (node : Node) → node.Printable → Spans number node.height (layout.printNode level number node)
  | .tag _ _ block, printable | .mixin _ block, printable | .call _ _ block, printable
  | .named _ block, printable =>
    .cons (trimmed_head layout number printable) (spans_printBlock layout _ _ block printable.2)
  | .loop block, printable | .case block, printable | .when block, printable
  | .code block, printable | .each block none, printable =>
    .cons (trimmed_head layout number printable) (spans_printBlock layout _ _ block printable)
  | .conditional consequent alternate, printable =>
    (Spans.cons (trimmed_head layout number printable)
      (spans_printBlock layout _ _ consequent printable.1)).append
        (spans_printAlternate layout _ _ alternate printable.2)
  | .each block (some alternate), printable =>
    (Spans.cons (trimmed_head layout number printable)
      (spans_printBlock layout _ _ block printable.1)).append
        (.cons trimmed_else (spans_printBlock layout _ _ alternate printable.2))
  | .include .., printable | .inherits _, printable | .text, printable | .doctype, printable
  | .comment, printable =>
    .cons (trimmed_head layout number printable) ⟨trivial, rfl⟩

theorem spans_printBlock (layout : Layout) (level number : Nat) :
    (block : List Node) → Printable block →
      Spans number (height block) (layout.printBlock level number block)
  | [], _ => ⟨trivial, rfl⟩
  | node :: rest, printable =>
    (spans_printNode layout level number node printable.1).append
      (spans_printBlock layout level _ rest printable.2)

theorem spans_printAlternate (layout : Layout) (level number : Nat) :
    (alternate : Alternate) → alternate.Printable →
      Spans number alternate.height (layout.printAlternate level number alternate)
  | .none, _ => ⟨trivial, rfl⟩
  | .elseIf block next, printable =>
    (Spans.cons (trimmed_elseIf (layout.phrase number).trimmed)
      (spans_printBlock layout _ _ block printable.1)).append
        (spans_printAlternate layout _ _ next printable.2)
  | .otherwise block, printable =>
    .cons trimmed_else (spans_printBlock layout _ _ block printable)

end

end Trees

/-- Reading undoes writing, for every tree that can be written and in every layout. The includes of the
tree that is read have the numbers of their lines. -/
theorem parse_print (layout : Layout) (block : Block) (printable : Printable block) :
    parse (layout.print block) = .ok (numbered 1 block) := by
  have written := spans_printBlock layout (layout.deeper 1) 1 block printable
  have read : erase (readBlock none (layout.printBlock (layout.deeper 1) 1 block ++ [])) =
      .ok (numbered 1 block, []) :=
    readBlock_printed printable (readsBlock block printable) (by simp) (by simp [Outside])
  rw [List.append_nil] at read
  refine parse_of_lines ?_ read
  rw [Layout.print, String.toList_ofList, readLines_print written.successive]

/-- Blocks at uneven depths. -/
def uneven : Layout where
  deeper number := number % 4
  phrase _ :=
    { text := "item".toList ++ (" in ".toList ++ "items".toList)
      trimmed := (Text.Trimmed.of_any (by decide) (by decide)).append _ (by decide)
        (.of_any (by decide) (by decide))
      plain := by decide }

/-- A list with a branch for no items, and a chain of conditions. -/
def menu : Block := [
  .tag "ul" [⟨"class", .literal "a\"b"⟩, ⟨"hidden", .boolean⟩] [
    .each [.include "row.pug" 3] (some [.text])],
  .conditional [.call "card" [⟨"id", .literal "c"⟩] []] (.elseIf [] (.otherwise [.comment]))]

theorem parse_print_menu : Printable menu ∧ parse (uneven.print menu) = .ok menu ∧
    uneven.print menu =
      " ul(class=\"a\\\"b\",hidden)\n    each item in items\n        include row.pug\n    else\n" ++
      "      | item in items\n if item in items\n     +card()(id=\"c\")\n" ++
      " else if item in items\n else\n    // item in items\n" := by
  have printable : Printable menu := by
    simp only [menu, Printable, Node.Printable, Alternate.Printable]
    decide
  exact ⟨printable, parse_print uneven menu printable, by decide +kernel⟩

end Querymap.Pug
