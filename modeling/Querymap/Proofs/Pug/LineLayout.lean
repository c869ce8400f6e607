import Mathlib.Order.Monotone.Basic
import Mathlib.Order.Nat
import Querymap.Pug.Parser

/-! Layouts of a template: other numbers for its lines and other columns for its indentation. What is read
in another layout has other numbers in its nodes and errors, and leaves the same lines. -/
namespace Querymap.Pug

/-- New numbers for the lines of a template and new columns in the same order. -/
structure LineLayout where
  number : Nat → Nat
  column : Nat → Nat
  increasing : StrictMono column

mutual

/-- A node with new numbers for the lines of its includes. -/
def Node.renumber (number : Nat → Nat) : Node → Node
  | .include path line => .include path (number line)
  | .tag name attributes block => .tag name attributes (renumber number block)
  | .conditional consequent alternate =>
    .conditional (renumber number consequent) (alternate.renumber number)
  | .mixin name block => .mixin name (renumber number block)
  | .call name attributes block => .call name attributes (renumber number block)
  | .each block none => .each (renumber number block) none
  | .each block (some alternate) => .each (renumber number block) (some (renumber number alternate))
  | .loop block => .loop (renumber number block)
  | .case block => .case (renumber number block)
  | .when block => .when (renumber number block)
  | .named name block => .named name (renumber number block)
  | .code block => .code (renumber number block)
  | .group block => .group (renumber number block)
  | .text => .text
  | .comment => .comment
  | .doctype => .doctype
  | .inherits path => .inherits path

def renumber (number : Nat → Nat) : List Node → Block
  | [] => []
  | node :: rest => node.renumber number :: renumber number rest

def Alternate.renumber (number : Nat → Nat) : Alternate → Alternate
  | .none => .none
  | .elseIf block next => .elseIf (Querymap.Pug.renumber number block) (next.renumber number)
  | .otherwise block => .otherwise (Querymap.Pug.renumber number block)

end

def ParseError.renumber (number : Nat → Nat) (error : ParseError) : ParseError :=
  ⟨number error.line, error.fault⟩

/-- What is read from a template with new numbers. -/
def renumbered (number : Nat → Nat) : Except ParseError Block → Except ParseError Block
  | .error error => .error (error.renumber number)
  | .ok block => .ok (renumber number block)

theorem renumber_eq_map (number : Nat → Nat) (block : Block) :
    renumber number block = block.map (Node.renumber number) := by
  induction block with
  | nil => rfl
  | cons node rest ih => rw [renumber, ih, List.map_cons]

mutual

theorem Node.renumber_id (node : Node) : node.renumber id = node := by
  cases node with
  | each block alternate => cases alternate <;> simp only [Node.renumber, renumber_id]
  | conditional consequent alternate =>
    simp only [Node.renumber, renumber_id, Alternate.renumber_id]
  | «include» => rfl
  | _ => simp only [Node.renumber, renumber_id]

theorem renumber_id (block : Block) : renumber id block = block := by
  cases block with
  | nil => rfl
  | cons node rest => rw [renumber, Node.renumber_id, renumber_id]

theorem Alternate.renumber_id (alternate : Alternate) : alternate.renumber id = alternate := by
  cases alternate with
  | none => rfl
  | elseIf block next => rw [Alternate.renumber, Pug.renumber_id, Alternate.renumber_id]
  | otherwise block => rw [Alternate.renumber, Pug.renumber_id]

end

theorem renumber_append (number : Nat → Nat) (first second : Block) :
    renumber number (first ++ second) = renumber number first ++ renumber number second := by
  simp only [renumber_eq_map, List.map_append]

theorem renumber_reverse (number : Nat → Nat) (block : Block) :
    renumber number block.reverse = (renumber number block).reverse := by
  simp only [renumber_eq_map, List.map_reverse]

theorem Node.renumber_extend (number : Nat → Nat) (node : Node) (nodes : Block) :
    (node.extend nodes).renumber number = (node.renumber number).extend (Pug.renumber number nodes) := by
  cases node with
  | each block alternate =>
    cases alternate <;> simp only [extend, Node.renumber, renumber_append]
  | _ => simp only [extend, Node.renumber, renumber_append]

theorem Alternate.renumber_append? (number : Nat → Nat) (alternate branch : Alternate) :
    ((alternate.append? branch).map (Alternate.renumber number)) =
      (alternate.renumber number).append? (branch.renumber number) := by
  match alternate with
  | .none => rfl
  | .otherwise _ => rfl
  | .elseIf block next =>
    simp only [append?, Alternate.renumber, ← renumber_append? number next branch, Option.map_map]
    rfl

theorem attachBranch?_renumber (number : Nat → Nat) (chained : Bool) (branch : Block) (node : Node) :
    attachBranch? chained (renumber number branch) (node.renumber number) =
      (attachBranch? chained branch node).map (Node.renumber number) := by
  cases node with
  | conditional consequent alternate =>
    have moved : (if chained then Alternate.elseIf (renumber number branch) .none
        else .otherwise (renumber number branch)) =
        (if chained then Alternate.elseIf branch .none else .otherwise branch).renumber number := by
      cases chained <;> rfl
    simp only [Node.renumber, attachBranch?, moved, ← Alternate.renumber_append?, Option.map_map]
    rfl
  | each block alternate => cases alternate <;> cases chained <;> rfl
  | _ => rfl

theorem attachBranch?_getD_renumber (number : Nat → Nat) (chained : Bool) (branch : Block) (node : Node) :
    (attachBranch? chained (renumber number branch) (node.renumber number)).getD (node.renumber number) =
      ((attachBranch? chained branch node).getD node).renumber number := by
  rw [attachBranch?_renumber]
  cases attachBranch? chained branch node <;> rfl

theorem takesBranch_renumber (number : Nat → Nat) (chained : Bool) (node : Node) :
    takesBranch chained (node.renumber number) = takesBranch chained node := by
  have same := attachBranch?_renumber number chained [] node
  rw [renumber] at same
  rw [takesBranch, takesBranch, same, Option.isSome_map]

namespace LineLayout

variable (layout : LineLayout)

theorem column_lt_iff {a b : Nat} : layout.column a < layout.column b ↔ a < b :=
  layout.increasing.lt_iff_lt

theorem column_le_iff {a b : Nat} : layout.column a ≤ layout.column b ↔ a ≤ b :=
  layout.increasing.le_iff_le

theorem any_column_lt (parent : Option Nat) (indent : Nat) :
    (parent.map layout.column).any (· < layout.column indent) = parent.any (· < indent) := by
  cases parent with
  | none => rfl
  | some column => simp [layout.column_lt_iff]

theorem any_le_column (parent : Option Nat) (indent : Nat) :
    (parent.map layout.column).any (layout.column indent ≤ ·) = parent.any (indent ≤ ·) := by
  cases parent with
  | none => rfl
  | some column => simp [layout.column_le_iff]

def line (line : Line) : Line :=
  ⟨layout.number line.number, layout.column line.indent, line.text⟩

@[simp] theorem line_number (line : Line) : (layout.line line).number = layout.number line.number := rfl
@[simp] theorem line_indent (line : Line) : (layout.line line).indent = layout.column line.indent := rfl
@[simp] theorem line_text (line : Line) : (layout.line line).text = line.text := rfl

/-- The layout that a template has already. -/
def unmoved : LineLayout := ⟨id, id, strictMono_id⟩

theorem map_unmoved (lines : List Line) : lines.map unmoved.line = lines := List.map_id lines

/-- The nodes of a block and the lines behind it in the new layout. -/
def moved (result : Block × List Line) : Block × List Line :=
  (renumber layout.number result.1, result.2.map layout.line)

/-- Two results, the second one of a reading in the new layout. -/
inductive Mirrors {α β : Type} (same : α → β → Prop) : Except ParseError α → Except ParseError β → Prop
  | failed (error : ParseError) :
      Mirrors same (.error error) (.error (error.renumber layout.number))
  | done {a : α} {b : β} (alike : same a b) : Mirrors same (.ok a) (.ok b)

/-- A value, and the lines that are left in the new layout. -/
inductive Leaves {α : Type} {lines lines' : List Line} (value : α → α) :
    α × Rest lines → α × Rest lines' → Prop
  | intro (a : α) {rest : Rest lines} {rest' : Rest lines'} (moved : rest'.1 = rest.1.map layout.line) :
      Leaves value (a, rest) (value a, rest')

/-- Two values, and the lines that are left in the new layout. -/
inductive Leaves₂ {α β : Type} {lines lines' : List Line} (value : α → α) :
    α × β × Rest lines → α × β × Rest lines' → Prop
  | intro (a : α) (b : β) {rest : Rest lines} {rest' : Rest lines'}
      (moved : rest'.1 = rest.1.map layout.line) : Leaves₂ value (a, b, rest) (value a, b, rest')

theorem Mirrors.bind {α β γ δ : Type} {layout : LineLayout} {same : α → β → Prop} {same' : γ → δ → Prop}
    {read : Except ParseError α} {read' : Except ParseError β} {next : α → Except ParseError γ}
    {next' : β → Except ParseError δ} (mirrors : layout.Mirrors same read read')
    (following : ∀ a b, read = .ok a → same a b → layout.Mirrors same' (next a) (next' b)) :
    layout.Mirrors same' (read.bind next) (read'.bind next') := by
  cases mirrors with
  | failed error => exact .failed error
  | done alike => exact following _ _ rfl alike

def form : Form → Form
  | .node node children => .node (node.renumber layout.number) children
  | .prose text => .prose text
  | .when expansion => .when expansion
  | .call name attributes expansion => .call name attributes expansion
  | .tag name attributes tail => .tag name attributes tail

end LineLayout

end Querymap.Pug
