import Querymap.Pug.Form

/-! Reading of templates. Lines become nodes; deeper lines become the children of the line above. -/
namespace Querymap.Pug

/-- The text from the bracket of the first `#[`, and whether a backslash takes its meaning away. -/
def interpolation? (escaped : Bool) : List Char → Option (Bool × List Char)
  | [] => none
  | '#' :: '[' :: rest => some (escaped, '[' :: rest)
  | c :: rest => interpolation? (c == '\\') rest

theorem interpolation?_length {escaped found : Bool} {text group : List Char}
    (h : interpolation? escaped text = some (found, group)) : group.length < text.length := by
  fun_induction interpolation? escaped text with
  | case1 => contradiction
  | case2 => cases h; simp
  | case3 _ _ _ _ ih => exact Nat.lt_succ_of_lt (ih h)

set_option linter.unusedVariables false in
mutual

/-- The node of one line, and what it makes of the lines below it. The result keeps the lines that are
left, since attribute lists take more lines. -/
def readLine (number : Nat) (text : List Char) (lines : List Line) :
    Except ParseError (Node × Children × Rest lines) :=
  match read : readForm number text lines with
  | .error error => .error error
  | .ok (.node node children, rest) => .ok (node, children, rest)
  | .ok (.prose prose, rest) =>
    (readProse number prose rest.1).map fun (nodes, rest') =>
      (if nodes.isEmpty then .text else .group nodes, .none, ⟨rest', rest'.2.trans rest.2⟩)
  | .ok (.when none, rest) => .ok (.when [], .block, rest)
  | .ok (.when (some inner), rest) =>
    (readLine number inner rest.1).map fun (node, _, rest') =>
      (.when [node], .block, ⟨rest', rest'.2.trans rest.2⟩)
  | .ok (.call name attributes none, rest) => .ok (.call name attributes [], .block, rest)
  | .ok (.call name attributes (some inner), rest) =>
    (readLine number inner rest.1).map fun (node, _, rest') =>
      (.call name attributes [node], .block, ⟨rest', rest'.2.trans rest.2⟩)
  | .ok (.tag name attributes .empty, rest) => .ok (.tag name attributes [], .block, rest)
  | .ok (.tag name attributes .dot, rest) => .ok (.tag name attributes [], .prose, rest)
  | .ok (.tag name attributes (.prose prose), rest) =>
    (readProse number prose rest.1).map fun (nodes, rest') =>
      (.tag name attributes nodes, .block, ⟨rest', rest'.2.trans rest.2⟩)
  | .ok (.tag name attributes (.expansion inner), rest) =>
    (readLine number inner rest.1).map fun (node, _, rest') =>
      (.tag name attributes [node], .block, ⟨rest', rest'.2.trans rest.2⟩)
termination_by 2 * room text lines + 1
decreasing_by
  all_goals
    have := readForm_reach read
    simp only [Form.reach, room] at *
    omega

def readProse (number : Nat) (text : List Char) (lines : List Line) :
    Except ParseError (Block × Rest lines) :=
  match next : interpolation? false text with
  | none => .ok ([], ⟨lines, List.suffix_refl _⟩)
  | some (true, group) => readProse number (group.drop 1) lines
  | some (false, group) =>
    match closed : matchingBracket? ']' group with
    | none => .error ⟨number, .unclosedInterpolation⟩
    | some stop =>
      match readLine number (Text.trim ((group.take stop).drop 1)) lines with
      | .error error => .error error
      | .ok (node, _, rest) =>
        (readProse number (group.drop (stop + 1)) rest.1).map fun (nodes, rest') =>
          (node :: nodes, ⟨rest', rest'.2.trans rest.2⟩)
termination_by 2 * room text lines
decreasing_by
  all_goals
    have := interpolation?_length next
  · simp only [room, List.length_drop]
    omega
  · have := trim_length ((group.take stop).drop 1)
    have := matchingBracket?_lt closed
    simp only [room, List.length_drop, List.length_take] at *
    omega
  · have := matchingBracket?_lt closed
    have := weight_le rest.2
    simp only [room, List.length_drop]
    omega

end

/-- Keywords of branches are followed by white space, by a colon or by nothing. -/
def afterWord? (word : String) (text : List Char) : Option (List Char) :=
  match Text.dropStart? word.toList text with
  | some rest =>
    if rest.head?.all fun c => Text.isBlank c || c == ':' then some rest else none
  | none => none

/-- The text after `else` of a branch, and whether a further condition follows it. -/
def elseBranch? (text : List Char) : Option Bool :=
  (afterWord? "else" text).map fun rest => (afterWord? "if" (Text.trim rest)).isSome

/-- The tags in the lines of a text that is deeper than `indent`. -/
def readText (indent : Nat) (lines : List Line) : Except ParseError (Block × Rest lines) :=
  match lines with
  | [] => .ok ([], ⟨[], List.suffix_refl _⟩)
  | line :: others =>
    if line.indent ≤ indent then .ok ([], ⟨line :: others, List.suffix_refl _⟩)
    else
      match readProse line.number line.text others with
      | .error error => .error error
      | .ok (nodes, rest) =>
        (readText indent rest.1).map fun (more, rest') =>
          (nodes ++ more, ⟨rest', (rest'.2.trans rest.2).trans (List.suffix_cons _ _)⟩)
termination_by lines.length
decreasing_by
  have := rest.2.length_le
  simp only [List.length_cons]
  omega

/-- The last node with a branch that belongs to it; none if it takes no such branch. -/
def attachBranch? (chained : Bool) (branch : Block) : Node → Option Node
  | .conditional consequent alternate =>
    (alternate.append? (if chained then .elseIf branch .none else .otherwise branch)).map
      (.conditional consequent)
  | .each block none => if chained then none else some (.each block (some branch))
  | _ => none

def takesBranch (chained : Bool) (node : Node) : Bool := (attachBranch? chained [] node).isSome

set_option linter.unusedVariables false in
mutual

/-- The nodes of the lines at `level`, after those in `before`, the last one first. Lines no deeper than
`parent` are left. -/
def readNodes (parent : Option Nat) (level : Nat) (before : Block) (lines : List Line) :
    Except ParseError (Block × Rest lines) :=
  match lines with
  | [] => .ok (before.reverse, ⟨[], List.suffix_refl _⟩)
  | line :: others =>
    if line.indent < level then
      if parent.any (· < line.indent) then .error ⟨line.number, .inconsistentIndentation⟩
      else .ok (before.reverse, ⟨line :: others, List.suffix_refl _⟩)
    else if level < line.indent then .error ⟨line.number, .unexpectedIndentation⟩
    else
      match elseBranch? line.text with
      | some chained =>
        match before with
        | [] => .error ⟨line.number, .unexpectedElse⟩
        | last :: earlier =>
          if takesBranch chained last then
            match readBlock (some level) others with
            | .error error => .error error
            | .ok (branch, rest) =>
              let last := (attachBranch? chained branch last).getD last
              (readNodes parent level (last :: earlier) rest.1).map fun (nodes, rest') =>
                (nodes, ⟨rest', (rest'.2.trans rest.2).trans (List.suffix_cons _ _)⟩)
          else .error ⟨line.number, .unexpectedElse⟩
      | none =>
        match readLine line.number line.text others with
        | .error error => .error error
        | .ok (node, children, rest) =>
          match readChildren level children rest.1 with
          | .error error => .error error
          | .ok (nodes, below) =>
            (readNodes parent level (node.extend nodes :: before) below.1).map
              fun (nodes, rest') =>
                (nodes, ⟨rest', ((rest'.2.trans below.2).trans rest.2).trans
                  (List.suffix_cons _ _)⟩)
termination_by 3 * lines.length
decreasing_by
  · simp only [List.length_cons]
    omega
  · have := rest.2.length_le
    simp only [List.length_cons]
    omega
  · have := rest.2.length_le
    simp only [List.length_cons]
    omega
  · have := rest.2.length_le
    have := below.2.length_le
    simp only [List.length_cons]
    omega

/-- The nodes of the lines that are deeper than `parent`. -/
def readBlock (parent : Option Nat) (lines : List Line) :
    Except ParseError (Block × Rest lines) :=
  match lines with
  | [] => .ok ([], ⟨[], List.suffix_refl _⟩)
  | first :: others =>
    if parent.any (first.indent ≤ ·) then .ok ([], ⟨first :: others, List.suffix_refl _⟩)
    else readNodes parent first.indent [] (first :: others)
termination_by 3 * lines.length + 1

/-- The nodes that the lines deeper than `indent` add to the node above them. -/
def readChildren (indent : Nat) (children : Children) (lines : List Line) :
    Except ParseError (Block × Rest lines) :=
  match children with
  | .raw => .ok ([], ⟨lines.dropWhile (indent < ·.indent), List.dropWhile_suffix _⟩)
  | .prose => readText indent lines
  | .block => readBlock (some indent) lines
  | .none =>
    match lines with
    | next :: others =>
      if indent < next.indent then .error ⟨next.number, .unexpectedIndentation⟩
      else .ok ([], ⟨next :: others, List.suffix_refl _⟩)
    | [] => .ok ([], ⟨[], List.suffix_refl _⟩)
termination_by 3 * lines.length + 2

end

/-- A whole template. -/
def parse (content : String) : Except ParseError Block :=
  match readLines content.toList with
  | .error error => .error error
  | .ok lines =>
    match readBlock none lines with
    | .error error => .error error
    | .ok (block, ⟨[], _⟩) => .ok block
    | .ok (_, ⟨line :: _, _⟩) => .error ⟨line.number, .inconsistentIndentation⟩

end Querymap.Pug
