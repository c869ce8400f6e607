import Querymap.Pug.Parser

/-! Reading of nodes, one line after the other. The steps say which lines are left, without the proofs
that these are the last ones. -/
namespace Querymap.Pug

/-- A result without the proof about the lines that are left. -/
def erase {α : Type} {lines : List Line} (result : Except ParseError (α × Rest lines)) :
    Except ParseError (α × List Line) :=
  result.map fun (a, rest) => (a, rest.1)

theorem erase_eq_ok {α : Type} {lines left : List Line} {a : α}
    {result : Except ParseError (α × Rest lines)} (h : erase result = .ok (a, left)) :
    ∃ suffix, result = .ok (a, ⟨left, suffix⟩) := by
  obtain ⟨⟨a, left, suffix⟩, same, erased⟩ := map_eq_ok h
  cases erased
  exact ⟨suffix, same⟩

/-- A template is at fault in the first line that its nodes leave. -/
def whole : Except ParseError (Block × List Line) → Except ParseError Block
  | .error error => .error error
  | .ok (block, []) => .ok block
  | .ok (_, line :: _) => .error ⟨line.number, .inconsistentIndentation⟩

theorem parse_eq_whole {content : String} {lines : List Line}
    (cut : readLines content.toList = .ok lines) :
    parse content = whole (erase (readBlock none lines)) := by
  rw [parse, cut]
  dsimp only
  cases readBlock none lines with
  | error => rfl
  | ok result =>
    obtain ⟨block, left, _⟩ := result
    cases left <;> rfl

theorem parse_of_lines {content : String} {lines : List Line} {block : Block}
    (cut : readLines content.toList = .ok lines)
    (read : erase (readBlock none lines) = .ok (block, [])) : parse content = .ok block := by
  rw [parse_eq_whole cut, read, whole]

theorem parse_of_error {content : String} {lines : List Line} {error : ParseError}
    (cut : readLines content.toList = .ok lines)
    (read : erase (readBlock none lines) = .error error) : parse content = .error error := by
  rw [parse_eq_whole cut, read, whole]

/-- A line that no block takes is at fault. -/
theorem parse_of_left {content : String} {lines left : List Line} {line : Line} {block : Block}
    (cut : readLines content.toList = .ok lines)
    (read : erase (readBlock none lines) = .ok (block, line :: left)) :
    parse content = .error ⟨line.number, .inconsistentIndentation⟩ := by
  rw [parse_eq_whole cut, read, whole]

/-- The reading of attributes without what its recursion knows of the lines that are left. -/
theorem readTagAttributes_eq (number : Nat) (head : List Char) (lines : List Line) :
    readTagAttributes number head lines =
      match splitShorthand? head with
      | some (attr, after) =>
        (readTagAttributes number after lines).map fun (attributes, tail, rest) =>
          (attr :: attributes, tail, rest)
      | none =>
        if head.head? = some '(' then
          (readParentheses number head lines).bind fun (inner, after, rest) =>
            (readTagAttributes number after rest.1).map fun (attributes, tail, rest') =>
              (readAttributes inner ++ attributes, tail, ⟨rest', rest'.2.trans rest.2⟩)
        else
          match Text.dropStart? "&attributes".toList head with
          | none => .ok ([], head, ⟨lines, List.suffix_refl _⟩)
          | some argument =>
            if argument.head? = some '(' then
              (readParentheses number argument lines).bind fun (_, after, rest) =>
                (readTagAttributes number after rest.1).map fun (attributes, tail, rest') =>
                  (attributes, tail, ⟨rest', rest'.2.trans rest.2⟩)
            else .error ⟨number, .missingAttributesArgument⟩ := by
  conv => lhs; rw [readTagAttributes]
  split
  · next shorthand => rw [shorthand]
  · next shorthand =>
    rw [shorthand]
    dsimp only
    split
    · split
      · next group => rw [group]; rfl
      · next group => rw [group]; rfl
    · split
      · next spread => rw [spread]
      · next spread =>
        rw [spread]
        dsimp only
        split
        · split
          · next group => rw [group]; rfl
          · next group => rw [group]; rfl
        · rfl

/-- The reading of a line without what its recursion knows of the lines that are left. -/
theorem readLine_eq (number : Nat) (text : List Char) (lines : List Line) :
    readLine number text lines =
      (readForm number text lines).bind fun
      | (.node node children, rest) => .ok (node, children, rest)
      | (.prose prose, rest) =>
        (readProse number prose rest.1).map fun (nodes, rest') =>
          (if nodes.isEmpty then .text else .group nodes, .none, ⟨rest', rest'.2.trans rest.2⟩)
      | (.when none, rest) => .ok (.when [], .block, rest)
      | (.when (some inner), rest) =>
        (readLine number inner rest.1).map fun (node, _, rest') =>
          (.when [node], .block, ⟨rest', rest'.2.trans rest.2⟩)
      | (.call name attributes none, rest) => .ok (.call name attributes [], .block, rest)
      | (.call name attributes (some inner), rest) =>
        (readLine number inner rest.1).map fun (node, _, rest') =>
          (.call name attributes [node], .block, ⟨rest', rest'.2.trans rest.2⟩)
      | (.tag name attributes .empty, rest) => .ok (.tag name attributes [], .block, rest)
      | (.tag name attributes .dot, rest) => .ok (.tag name attributes [], .prose, rest)
      | (.tag name attributes (.prose prose), rest) =>
        (readProse number prose rest.1).map fun (nodes, rest') =>
          (.tag name attributes nodes, .block, ⟨rest', rest'.2.trans rest.2⟩)
      | (.tag name attributes (.expansion inner), rest) =>
        (readLine number inner rest.1).map fun (node, _, rest') =>
          (.tag name attributes [node], .block, ⟨rest', rest'.2.trans rest.2⟩) := by
  conv => lhs; rw [readLine]
  split <;> simp only [*, Except.bind]

theorem readProse_eq (number : Nat) (text : List Char) (lines : List Line) :
    readProse number text lines =
      match interpolation? false text with
      | none => .ok ([], ⟨lines, List.suffix_refl _⟩)
      | some (true, group) => readProse number (group.drop 1) lines
      | some (false, group) =>
        match matchingBracket? ']' group with
        | none => .error ⟨number, .unclosedInterpolation⟩
        | some stop =>
          (readLine number (Text.trim ((group.take stop).drop 1)) lines).bind fun (node, _, rest) =>
            (readProse number (group.drop (stop + 1)) rest.1).map fun (nodes, rest') =>
              (node :: nodes, ⟨rest', rest'.2.trans rest.2⟩) := by
  conv => lhs; rw [readProse]
  split
  · next none => rw [none]
  · next escaped => rw [escaped]
  · next group opened =>
    simp only [opened]
    split
    · next unclosed => rw [unclosed]
    · next closed =>
      rw [closed]
      dsimp only
      cases readLine number _ lines <;> rfl

theorem readProse_plain {number : Nat} {text : List Char} {lines : List Line}
    (plain : interpolation? false text = none) :
    readProse number text lines = .ok ([], ⟨lines, List.suffix_refl _⟩) := by
  rw [readProse_eq, plain]

theorem readLine_node {number : Nat} {text : List Char} {lines : List Line} {node : Node}
    {children : Children} {rest : Rest lines}
    (read : readForm number text lines = .ok (.node node children, rest)) :
    readLine number text lines = .ok (node, children, rest) := by
  rw [readLine_eq, read]
  rfl

/-- Whether a branch is taken does not depend on what is in it. -/
theorem Alternate.isSome_append? (branch other : Alternate) : (alternate : Alternate) →
    (alternate.append? branch).isSome = (alternate.append? other).isSome
  | .none => rfl
  | .otherwise _ => rfl
  | .elseIf block next => by
    simpa [append?] using isSome_append? branch other next

theorem takesBranch_of_attaches {chained : Bool} {branch : Block} {last attached : Node}
    (attaches : attachBranch? chained branch last = some attached) :
    takesBranch chained last = true := by
  have same : (attachBranch? chained [] last).isSome = (attachBranch? chained branch last).isSome := by
    cases last with
    | conditional consequent alternate =>
      simpa [attachBranch?] using Alternate.isSome_append? _ _ alternate
    | each block alternate =>
      cases alternate <;> cases chained <;> rfl
    | _ => rfl
  rw [takesBranch, same, attaches]
  rfl

section Steps

variable {parent : Option Nat} {level : Nat} {before : Block} {line : Line} {others left : List Line}

/-- One line adds a node to those before it. What is deeper below it is read first, and can fail. -/
theorem readNodes_cons {node : Node} {children : Children} {rest : Rest others}
    (aligned : line.indent = level) (unchained : elseBranch? line.text = none)
    (read : readLine line.number line.text others = .ok (node, children, rest)) :
    erase (readNodes parent level before (line :: others)) =
      (erase (readChildren level children rest.1)).bind fun (nodes, left) =>
        erase (readNodes parent level (node.extend nodes :: before) left) := by
  rw [readNodes]
  simp only [aligned, Nat.lt_irrefl, ↓reduceIte, unchained, read]
  cases readChildren level children rest.1 with
  | error => rfl
  | ok below =>
    obtain ⟨nodes, left, _⟩ := below
    simp only [erase, Except.map, Except.bind]
    cases readNodes parent level (node.extend nodes :: before) left <;> rfl

theorem readNodes_line {node : Node} {children : Children} {nodes : Block} {rest : Rest others}
    (aligned : line.indent = level) (unchained : elseBranch? line.text = none)
    (read : readLine line.number line.text others = .ok (node, children, rest))
    (below : erase (readChildren level children rest.1) = .ok (nodes, left)) :
    erase (readNodes parent level before (line :: others)) =
      erase (readNodes parent level (node.extend nodes :: before) left) := by
  rw [readNodes_cons aligned unchained read, below]
  rfl

/-- A line that is no branch is read, then what is deeper below it, then the lines after that. -/
theorem readNodes_unchained (unchained : elseBranch? line.text = none) :
    erase (readNodes parent line.indent before (line :: others)) =
      (readLine line.number line.text others).bind fun (node, children, left) =>
        (erase (readChildren line.indent children left.1)).bind fun (nodes, left) =>
          erase (readNodes parent line.indent (node.extend nodes :: before) left) := by
  cases read : readLine line.number line.text others with
  | error error =>
    rw [readNodes]
    simp only [Nat.lt_irrefl, ↓reduceIte, unchained, read]
    rfl
  | ok result =>
    obtain ⟨node, children, left⟩ := result
    exact readNodes_cons rfl unchained read

/-- A branch takes what is deeper below it into the node before it. -/
theorem readNodes_chained {last : Node} {chained : Bool} (branches : elseBranch? line.text = some chained)
    (takes : takesBranch chained last = true) :
    erase (readNodes parent line.indent (last :: before) (line :: others)) =
      (erase (readBlock (some line.indent) others)).bind fun (branch, left) =>
        erase (readNodes parent line.indent
          ((attachBranch? chained branch last).getD last :: before) left) := by
  rw [readNodes]
  simp only [Nat.lt_irrefl, ↓reduceIte, branches, takes]
  cases readBlock (some line.indent) others with
  | error => rfl
  | ok below =>
    simp only [erase, Except.map, Except.bind]
    cases readNodes parent line.indent _ below.2.1 <;> rfl

/-- A branch changes the node before it. -/
theorem readNodes_branch {last attached : Node} {chained : Bool} {branch : Block}
    (aligned : line.indent = level) (branches : elseBranch? line.text = some chained)
    (below : erase (readBlock (some level) others) = .ok (branch, left))
    (attaches : attachBranch? chained branch last = some attached) :
    erase (readNodes parent level (last :: before) (line :: others)) =
      erase (readNodes parent level (attached :: before) left) := by
  obtain ⟨suffix, below⟩ := erase_eq_ok below
  have takes := takesBranch_of_attaches attaches
  rw [readNodes]
  simp only [aligned, Nat.lt_irrefl, ↓reduceIte, branches, takes, below, attaches, Option.getD_some]
  cases readNodes parent level (attached :: before) left <;> rfl

/-- A branch needs a node before it that takes it. -/
theorem readNodes_stray {chained : Bool} (branches : elseBranch? line.text = some chained)
    (refused : ∀ last ∈ before.head?, takesBranch chained last = false) :
    erase (readNodes parent line.indent before (line :: others)) =
      .error ⟨line.number, .unexpectedElse⟩ := by
  rw [readNodes]
  cases before with
  | nil =>
    simp only [Nat.lt_irrefl, ↓reduceIte, branches]
    rfl
  | cons last earlier =>
    simp only [Nat.lt_irrefl, ↓reduceIte, branches, refused last rfl, Bool.false_eq_true]
    rfl

/-- Lines that are left after a block: none, or ones that are not deeper than the line above it. -/
def Outside (parent : Option Nat) (left : List Line) : Prop :=
  ∀ line ∈ left.head?, ∃ indent ∈ parent, line.indent ≤ indent

/-- Lines at the level of a block are outside the blocks below its nodes. -/
theorem outside_line {number : Nat} {text : List Char} :
    Outside (some level) (⟨number, level, text⟩ :: left) := by
  rintro line ⟨⟩
  exact ⟨level, rfl, Nat.le_refl _⟩

/-- A line deeper than the nodes around it is at fault. -/
theorem readNodes_deep (deep : level < line.indent) :
    erase (readNodes parent level before (line :: others)) =
      .error ⟨line.number, .unexpectedIndentation⟩ := by
  rw [readNodes, if_neg (Nat.lt_asymm deep), if_pos deep]
  rfl

/-- A line that leaves a block has to be one of the blocks around it. -/
theorem readNodes_shallow (shallow : line.indent < level) :
    erase (readNodes parent level before (line :: others)) =
      if parent.any (· < line.indent) then .error ⟨line.number, .inconsistentIndentation⟩
      else .ok (before.reverse, line :: others) := by
  rw [readNodes, if_pos shallow]
  split <;> rfl

theorem readNodes_nil (parent : Option Nat) (level : Nat) (before : Block) :
    erase (readNodes parent level before []) = .ok (before.reverse, []) := by
  rw [readNodes]
  rfl

theorem readNodes_end (outside : Outside parent left) (deeper : ∀ indent ∈ parent, indent < level) :
    erase (readNodes parent level before left) = .ok (before.reverse, left) := by
  cases left with
  | nil => rw [readNodes]; rfl
  | cons line others =>
    obtain ⟨indent, rfl, shallow⟩ := outside line rfl
    have := deeper indent rfl
    rw [readNodes_shallow (by omega), if_neg (by simpa using shallow)]

theorem readBlock_none (line : Line) (others : List Line) :
    readBlock none (line :: others) = readNodes none line.indent [] (line :: others) := by
  rw [readBlock, if_neg (by simp)]

theorem readChildren_none (outside : Outside (some level) left) :
    erase (readChildren level .none left) = .ok ([], left) := by
  cases left with
  | nil => rw [readChildren]; rfl
  | cons line others =>
    obtain ⟨_, ⟨⟩, shallow⟩ := outside line rfl
    simp only [readChildren]
    rw [if_neg (by omega)]
    rfl

theorem readChildren_raw (outside : Outside (some level) left) :
    erase (readChildren level .raw left) = .ok ([], left) := by
  rw [readChildren]
  cases left with
  | nil => rfl
  | cons line others =>
    obtain ⟨_, ⟨⟩, shallow⟩ := outside line rfl
    simp [erase, Except.map, Nat.not_lt.2 shallow]

theorem readText_end (outside : Outside (some level) left) :
    erase (readText level left) = .ok ([], left) := by
  cases left with
  | nil => rw [readText]; rfl
  | cons line others =>
    obtain ⟨_, ⟨⟩, shallow⟩ := outside line rfl
    rw [readText, if_pos shallow]
    rfl

theorem readText_cons (deeper : level < line.indent) :
    erase (readText level (line :: others)) =
      (readProse line.number line.text others).bind fun (nodes, left) =>
        (erase (readText level left.1)).bind fun (more, left) => .ok (nodes ++ more, left) := by
  rw [readText, if_neg (by omega)]
  cases readProse line.number line.text others with
  | error => rfl
  | ok result =>
    obtain ⟨nodes, left⟩ := result
    simp only [Except.bind]
    cases readText level left.1 <;> rfl

end Steps

/-- A template whose first line takes all of the others in, with nothing below it. -/
theorem parse_line {content : String} {text : List Char} {node leaf : Node} {children : Children}
    {others : List Line} (cut : readLines content.toList = .ok (⟨1, 0, text⟩ :: others))
    (unchained : elseBranch? text = none)
    (read : readLine 1 text others = .ok (node, children, ⟨[], List.nil_suffix⟩))
    (below : erase (readChildren 0 children []) = .ok ([], [])) (extended : node.extend [] = leaf) :
    parse content = .ok [leaf] := by
  refine parse_of_lines cut ?_
  subst extended
  rw [readBlock_none]
  refine (readNodes_line rfl unchained read below).trans ?_
  exact readNodes_end (by simp [Outside]) (by simp)

/-- A fault in the first line is one of the template. -/
theorem parse_line_error {content : String} {text : List Char} {others : List Line} {error : ParseError}
    (cut : readLines content.toList = .ok (⟨1, 0, text⟩ :: others))
    (unchained : elseBranch? text = none) (read : readLine 1 text others = .error error) :
    parse content = .error error := by
  refine parse_of_error cut ?_
  rw [readBlock_none]
  refine (@readNodes_unchained none [] ⟨1, 0, text⟩ others unchained).trans ?_
  rw [read]
  rfl

theorem readChildren_block_nil (level : Nat) :
    erase (readChildren level .block []) = .ok ([], []) := by
  rw [readChildren, readBlock]
  rfl

end Querymap.Pug
