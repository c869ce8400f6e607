import Querymap.Proofs.Pug.AttributeList
import Querymap.Proofs.Pug.Lines
import Querymap.Pug.Parser

/-! Templates written out, one node a line. A layout gives the depth of every block and the texts that
nodes leave out. -/
namespace Querymap.Pug

/-- A text that nodes leave out: an expression, prose or a comment, without tags in it. -/
structure Phrase where
  text : List Char
  trimmed : Text.Trimmed text
  plain : ':' ∉ text ∧ '#' ∉ text

structure Layout where
  /-- How far from the column after its parent's a block is indented, by the number of its first
  line. -/
  deeper : Nat → Nat
  phrase : Nat → Phrase

def Layout.inner (layout : Layout) (level number : Nat) : Nat := level + 1 + layout.deeper number

/-- Names made of word characters that are no keywords. -/
structure IsName (name : String) : Prop where
  nonempty : name.toList ≠ []
  word : ∀ c ∈ name.toList, Text.isWord c = true
  free : name ∉ keywords

instance (name : String) : Decidable (IsName name) :=
  decidable_of_iff (name.toList ≠ [] ∧ name.toList.all Text.isWord = true ∧ name ∉ keywords)
    ⟨fun ⟨nonempty, word, free⟩ => ⟨nonempty, List.all_eq_true.1 word, free⟩,
      fun ⟨nonempty, word, free⟩ => ⟨nonempty, List.all_eq_true.2 word, free⟩⟩

/-- Paths without white space and without a filter before them. -/
structure IsPath (path : String) : Prop where
  nonempty : path.toList ≠ []
  solid : ∀ c ∈ path.toList, Text.isBlank c = false
  unfiltered : path.toList.head? ≠ some ':'

instance (path : String) : Decidable (IsPath path) :=
  decidable_of_iff (path.toList ≠ [] ∧ path.toList.all (!Text.isBlank ·) = true ∧
    path.toList.head? ≠ some ':')
    ⟨fun ⟨nonempty, solid, unfiltered⟩ => ⟨nonempty, by simpa using solid, unfiltered⟩,
      fun ⟨nonempty, solid, unfiltered⟩ => ⟨nonempty, by simpa using solid, unfiltered⟩⟩

mutual

/-- Nodes that a line each can stand for. -/
def Node.Printable : Node → Prop
  | .tag name attributes block =>
    (IsName name ∧ ∀ attr ∈ attributes, attr.Printable) ∧ Printable block
  | .call name attributes block =>
    (IsName name ∧ ∀ attr ∈ attributes, attr.Printable) ∧ Printable block
  | .mixin name block | .named name block => IsName name ∧ Printable block
  | .conditional consequent alternate => Printable consequent ∧ alternate.Printable
  | .each block none => Printable block
  | .each block (some alternate) => Printable block ∧ Printable alternate
  | .loop block | .case block | .when block | .code block => Printable block
  | .include path _ | .inherits path => IsPath path
  | .text | .comment | .doctype => True
  | .group _ => False

def Printable : List Node → Prop
  | [] => True
  | node :: rest => node.Printable ∧ Printable rest

def Alternate.Printable : Alternate → Prop
  | .none => True
  | .elseIf block next => Printable block ∧ next.Printable
  | .otherwise block => Printable block

end

mutual

/-- The number of lines that a node is written on. -/
def Node.height : Node → Nat
  | .tag _ _ block | .mixin _ block | .call _ _ block | .each block none | .loop block
  | .case block | .when block | .named _ block | .code block => height block + 1
  | .conditional consequent alternate => height consequent + 1 + alternate.height
  | .each block (some alternate) => height block + 1 + (height alternate + 1)
  | .include .. | .text | .comment | .doctype | .inherits _ => 1
  | .group block => height block

def height : List Node → Nat
  | [] => 0
  | node :: rest => node.height + height rest

def Alternate.height : Alternate → Nat
  | .none => 0
  | .elseIf block next => height block + 1 + next.height
  | .otherwise block => height block + 1

end

mutual

/-- A node whose first line has a given number; its includes get the numbers of their lines. -/
def Node.numbered (number : Nat) : Node → Node
  | .tag name attributes block => .tag name attributes (numbered (number + 1) block)
  | .conditional consequent alternate =>
    .conditional (numbered (number + 1) consequent)
      (alternate.numbered (number + (height consequent + 1)))
  | .include path _ => .include path number
  | .mixin name block => .mixin name (numbered (number + 1) block)
  | .call name attributes block => .call name attributes (numbered (number + 1) block)
  | .each block none => .each (numbered (number + 1) block) none
  | .each block (some alternate) =>
    .each (numbered (number + 1) block)
      (some (numbered (number + (height block + 1) + 1) alternate))
  | .loop block => .loop (numbered (number + 1) block)
  | .case block => .case (numbered (number + 1) block)
  | .when block => .when (numbered (number + 1) block)
  | .named name block => .named name (numbered (number + 1) block)
  | .code block => .code (numbered (number + 1) block)
  | .text => .text
  | .comment => .comment
  | .doctype => .doctype
  | .inherits path => .inherits path
  | .group block => .group (numbered number block)

def numbered (number : Nat) : List Node → List Node
  | [] => []
  | node :: rest => node.numbered number :: numbered (number + node.height) rest

def Alternate.numbered (number : Nat) : Alternate → Alternate
  | .none => .none
  | .elseIf block next =>
    .elseIf (numbered (number + 1) block) (next.numbered (number + (height block + 1)))
  | .otherwise block => .otherwise (numbered (number + 1) block)

end

/-- Attributes without white space, their values in double quotes. -/
def spell (attributes : List Attribute) : List Spelled := attributes.map (⟨[], '"', ·⟩)

/-- The attributes of a node in parentheses; nothing for none. -/
def printGroup (attributes : List Attribute) : List Char :=
  if attributes.isEmpty then [] else '(' :: (printAttributes [] (spell attributes) ++ [')'])

/-- Attributes of a call stand behind its arguments. -/
def printCallGroup (attributes : List Attribute) : List Char :=
  if attributes.isEmpty then [] else '(' :: ')' :: printGroup attributes

/-- A word and what it applies to. -/
def led (word : String) (text : List Char) : List Char := word.toList ++ ' ' :: text

namespace Layout

/-- The line of a node, which all its blocks are below. -/
def head (layout : Layout) (number : Nat) : Node → List Char
  | .tag name attributes _ => name.toList ++ printGroup attributes
  | .conditional .. => led "if" (layout.phrase number).text
  | .include path _ => led "include" path.toList
  | .mixin name _ => led "mixin" name.toList
  | .call name attributes _ => '+' :: (name.toList ++ printCallGroup attributes)
  | .each .. => led "each" (layout.phrase number).text
  | .loop _ => led "while" (layout.phrase number).text
  | .case _ => led "case" (layout.phrase number).text
  | .when _ => led "when" (layout.phrase number).text
  | .named name _ => led "block" name.toList
  | .code _ => led "-" (layout.phrase number).text
  | .text => led "|" (layout.phrase number).text
  | .comment => led "//" (layout.phrase number).text
  | .doctype => led "doctype" (layout.phrase number).text
  | .inherits path => led "extends" path.toList
  | .group _ => []

mutual

def printNode (layout : Layout) (level number : Nat) : Node → List Line
  | node@(.tag _ _ block) | node@(.mixin _ block) | node@(.call _ _ block)
  | node@(.each block none) | node@(.loop block) | node@(.case block) | node@(.when block)
  | node@(.named _ block) | node@(.code block) =>
    ⟨number, level, layout.head number node⟩ ::
      layout.printBlock (layout.inner level (number + 1)) (number + 1) block
  | node@(.conditional consequent alternate) =>
    ⟨number, level, layout.head number node⟩ ::
      (layout.printBlock (layout.inner level (number + 1)) (number + 1) consequent ++
        layout.printAlternate level (number + (height consequent + 1)) alternate)
  | node@(.each block (some alternate)) =>
    ⟨number, level, layout.head number node⟩ ::
      (layout.printBlock (layout.inner level (number + 1)) (number + 1) block ++
        ⟨number + (height block + 1), level, "else".toList⟩ ::
          layout.printBlock (layout.inner level (number + (height block + 1) + 1))
            (number + (height block + 1) + 1) alternate)
  | node@(.include ..) | node@.text | node@.comment | node@.doctype | node@(.inherits _) =>
    [⟨number, level, layout.head number node⟩]
  | .group block => layout.printBlock level number block

/-- The lines of a block at `level`, of which the first has the number given. -/
def printBlock (layout : Layout) (level number : Nat) : List Node → List Line
  | [] => []
  | node :: rest =>
    layout.printNode level number node ++ layout.printBlock level (number + node.height) rest

def printAlternate (layout : Layout) (level number : Nat) : Alternate → List Line
  | .none => []
  | .elseIf block next =>
    ⟨number, level, led "else if" (layout.phrase number).text⟩ ::
      (layout.printBlock (layout.inner level (number + 1)) (number + 1) block ++
        layout.printAlternate level (number + (height block + 1)) next)
  | .otherwise block =>
    ⟨number, level, "else".toList⟩ ::
      layout.printBlock (layout.inner level (number + 1)) (number + 1) block

end

/-- The text of a template. -/
def print (layout : Layout) (block : Block) : String :=
  String.ofList ((layout.printBlock (layout.deeper 1) 1 block).flatMap Line.print)

end Layout

end Querymap.Pug
