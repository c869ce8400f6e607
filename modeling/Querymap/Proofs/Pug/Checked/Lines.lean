import Querymap.Proofs.Pug.Checked.Heads
import Querymap.Proofs.Pug.Interpolations

/-! Whole templates, read with every cut and every step checked. No template traps the reading, so that what is
read is what the plain readers read. -/
namespace Querymap.Pug

namespace Checked

mutual

/-- The node of one line. A line within the line has less to read; prose may be all of the line, since the tags
in it have less. -/
def readLine (number : Nat) (text : List Char) (lines : List Line) :
    Checked (Node × Children × List Line) := do
  match ← readForm number text lines with
  | (.node node children, left) => return (node, children, left)
  | (.prose prose, left) =>
    descend (room prose left) (room text lines + 1) fun _ => do
      let (nodes, left) ← readProse number prose left
      return (if nodes.isEmpty then .text else .group nodes, .none, left)
  | (.when none, left) => return (.when [], .block, left)
  | (.when (some inner), left) =>
    descend (room inner left) (room text lines) fun _ => do
      let (node, _, left) ← readLine number inner left
      return (.when [node], .block, left)
  | (.call name attributes none, left) => return (.call name attributes [], .block, left)
  | (.call name attributes (some inner), left) =>
    descend (room inner left) (room text lines) fun _ => do
      let (node, _, left) ← readLine number inner left
      return (.call name attributes [node], .block, left)
  | (.tag name attributes .empty, left) => return (.tag name attributes [], .block, left)
  | (.tag name attributes .dot, left) => return (.tag name attributes [], .prose, left)
  | (.tag name attributes (.prose prose), left) =>
    descend (room prose left) (room text lines + 1) fun _ => do
      let (nodes, left) ← readProse number prose left
      return (.tag name attributes nodes, .block, left)
  | (.tag name attributes (.expansion inner), left) =>
    descend (room inner left) (room text lines) fun _ => do
      let (node, _, left) ← readLine number inner left
      return (.tag name attributes [node], .block, left)
termination_by 2 * room text lines + 1

/-- The tags that are interpolated into a text. -/
def readProse (number : Nat) (text : List Char) (lines : List Line) : Checked (Block × List Line) :=
  match findPair? '#' '[' text with
  | none => return ([], lines)
  | some start => do
    let before ← cut text 0 start
    -- Behind a backslash no tag begins.
    if before.getLast? = some '\\' then
      let after ← cutFrom text (start + 2)
      descend (room after lines) (room text lines) fun _ => readProse number after lines
    else
      let group ← cutFrom text (start + 1)
      match closing? ']' group with
      | none => settled (.error ⟨number, .unclosedInterpolation⟩)
      | some stop =>
        let (inner, after) ← enclosed group stop
        descend (room (Text.trim inner) lines) (room text lines) fun _ => do
          let (node, _, left) ← readLine number (Text.trim inner) lines
          descend (room after left) (room text lines) fun _ => do
            let (nodes, left) ← readProse number after left
            return (node :: nodes, left)
termination_by 2 * room text lines

end

def readText (indent : Nat) (lines : List Line) : Checked (Block × List Line) :=
  match lines with
  | [] => return ([], [])
  | line :: others =>
    if line.indent ≤ indent then return ([], line :: others)
    else do
      let (nodes, left) ← readProse line.number line.text others
      descend left.length (line :: others).length fun _ => do
        let (more, left) ← readText indent left
        return (nodes ++ more, left)
termination_by lines.length
decreasing_by assumption

mutual

/-- The nodes at `level`, after those in `before`. What is below a line, and what follows, is on fewer lines. -/
def readNodes (parent : Option Nat) (level : Nat) (before : Block) (lines : List Line) :
    Checked (Block × List Line) :=
  match lines with
  | [] => return (before.reverse, [])
  | line :: others =>
    if line.indent < level then
      if parent.any (· < line.indent) then settled (.error ⟨line.number, .inconsistentIndentation⟩)
      else return (before.reverse, line :: others)
    else if level < line.indent then settled (.error ⟨line.number, .unexpectedIndentation⟩)
    else
      match elseBranch? line.text with
      | some chained =>
        match before with
        | [] => settled (.error ⟨line.number, .unexpectedElse⟩)
        | last :: earlier =>
          if takesBranch chained last then do
            let (branch, left) ← readBlock (some level) others
            descend left.length (line :: others).length fun _ =>
              readNodes parent level ((attachBranch? chained branch last).getD last :: earlier) left
          else settled (.error ⟨line.number, .unexpectedElse⟩)
      | none => do
        let (node, children, left) ← readLine line.number line.text others
        descend left.length (line :: others).length fun _ => do
          let (nodes, left) ← readChildren level children left
          descend left.length (line :: others).length fun _ =>
            readNodes parent level (node.extend nodes :: before) left
termination_by 3 * lines.length
decreasing_by
  all_goals
    simp only [List.length_cons] at *
    omega

def readBlock (parent : Option Nat) (lines : List Line) : Checked (Block × List Line) :=
  match lines with
  | [] => return ([], [])
  | first :: others =>
    if parent.any (first.indent ≤ ·) then return ([], first :: others)
    else readNodes parent first.indent [] (first :: others)
termination_by 3 * lines.length + 1

def readChildren (indent : Nat) (children : Children) (lines : List Line) :
    Checked (Block × List Line) :=
  match children with
  | .raw => return ([], lines.dropWhile (indent < ·.indent))
  | .prose => readText indent lines
  | .block => readBlock (some indent) lines
  | .none =>
    match lines with
    | next :: others =>
      if indent < next.indent then settled (.error ⟨next.number, .unexpectedIndentation⟩)
      else return ([], next :: others)
    | [] => return ([], [])
termination_by 3 * lines.length + 2

end

/-! The plain readers. -/

/-- What stands behind a pair of characters is less than the text with the pair in it. -/
theorem room_behind {tail after : List Char} {lines left : List Line} (before : List Char)
    (first second : Char) (rest : left <:+ lines) (fewer : tail.length ≤ after.length) :
    room tail left < room (before ++ first :: second :: after) lines := by
  have := weight_le rest
  simp only [room, List.length_append, List.length_cons]
  omega

theorem length_trim_inside (opening : Char) (after : List Char) (stop : Nat) :
    (Text.trim (((opening :: after).take stop).drop 1)).length ≤ after.length := by
  have := trim_length (((opening :: after).take stop).drop 1)
  simp only [List.length_drop, List.length_take, List.length_cons] at this
  omega

mutual

theorem readLine_settled (number : Nat) (text : List Char) (lines : List Line) :
    readLine number text lines = settled (erase₂ (Pug.readLine number text lines)) := by
  rw [readLine, readLine_eq, readForm_settled]
  cases read : Pug.readForm number text lines with
  | error => rfl
  | ok result =>
    obtain ⟨form, rest⟩ := result
    have reach := readForm_reach read
    simp only [erase, Except.map, Except.bind, settled_ok_bind]
    match form with
    | .node _ _ | .when none | .call _ _ none | .tag _ _ .empty | .tag _ _ .dot => rfl
    | .prose prose | .tag _ _ (.prose prose) =>
      have less : room prose rest.1 < room text lines + 1 := by
        simp only [Form.reach, room] at reach ⊢
        omega
      simp only [descend_of_lt less, readProse_settled number prose rest.1]
      cases Pug.readProse number prose rest.1 <;> rfl
    | .when (some inner) | .call _ _ (some inner) | .tag _ _ (.expansion inner) =>
      have less : room inner rest.1 < room text lines := by
        simp only [Form.reach, room] at reach ⊢
        omega
      simp only [descend_of_lt less, readLine_settled number inner rest.1]
      cases Pug.readLine number inner rest.1 <;> rfl
termination_by 2 * room text lines + 1

theorem readProse_settled (number : Nat) (text : List Char) (lines : List Line) :
    readProse number text lines = settled (erase (Pug.readProse number text lines)) := by
  rw [readProse, readProse_eq]
  cases found : findPair? '#' '[' text with
  | none =>
    have plain : interpolation? false text = none :=
      interpolation?_of_not_infix (findPair?_eq_none found)
    rw [plain]
    rfl
  | some start =>
    obtain ⟨before, after, rfl, rfl, plain⟩ := findPair?_eq_some found
    have begins : cut (before ++ '#' :: '[' :: after) 0 (Text.byteLength before) = pure before :=
      cut_of_slice? (Text.slice?_start before _)
    have behind : cutFrom (before ++ '#' :: '[' :: after) (Text.byteLength before + 2) = pure after :=
      cutFrom_behind before ['#', '['] after
    have group : cutFrom (before ++ '#' :: '[' :: after) (Text.byteLength before + 1) =
        pure ('[' :: after) :=
      cutFrom_behind before ['#'] ('[' :: after)
    rw [interpolation?_append plain]
    simp only [begins, pure_bind]
    by_cases escaped : before.getLast? = some '\\'
    · have less := room_behind before '#' '[' (List.suffix_refl lines) (Nat.le_refl after.length)
      simp only [escaped, if_true, behind, pure_bind, descend_of_lt less, Option.elim_some, beq_self_eq_true,
        List.drop_one, List.tail_cons, readProse_settled number after lines]
    · have unescaped : before.getLast?.elim false (· == '\\') = false := by
        cases last : before.getLast? with
        | none => rfl
        | some c => simpa [last] using escaped
      simp only [if_neg escaped, unescaped, group, pure_bind, closing?]
      cases closed : matchingBracket? ']' ('[' :: after) with
      | none => rfl
      | some stop =>
        have inside := room_behind before '#' '[' (List.suffix_refl lines)
          (length_trim_inside '[' after stop)
        have read := readLine_settled number (Text.trim ((('[' :: after).take stop).drop 1)) lines
        simp only [Option.map_some, enclosed_closing rfl closed, pure_bind, descend_of_lt inside, read]
        cases Pug.readLine number (Text.trim ((('[' :: after).take stop).drop 1)) lines with
        | error => rfl
        | ok result =>
          obtain ⟨node, _, rest⟩ := result
          have fewer : (('[' :: after).drop (stop + 1)).length ≤ after.length := by simp
          have less := room_behind before '#' '[' rest.2 fewer
          have more := readProse_settled number (('[' :: after).drop (stop + 1)) rest.1
          simp only [erase₂, Except.map, Except.bind, settled_ok_bind, descend_of_lt less, more]
          cases Pug.readProse number (('[' :: after).drop (stop + 1)) rest.1 <;> rfl
termination_by 2 * room text lines
decreasing_by
  all_goals
    subst_vars
    omega

end

theorem readText_settled (indent : Nat) (lines : List Line) :
    readText indent lines = settled (erase (Pug.readText indent lines)) := by
  cases lines with
  | nil =>
    rw [readText, Pug.readText]
    rfl
  | cons line others =>
    rw [readText, Pug.readText]
    split
    · rfl
    · rw [readProse_settled]
      cases Pug.readProse line.number line.text others with
      | error => rfl
      | ok result =>
        obtain ⟨nodes, rest⟩ := result
        have less : rest.1.length < (line :: others).length := Nat.lt_succ_of_le rest.2.length_le
        simp only [erase, Except.map, settled_ok_bind, descend_of_lt less, readText_settled indent rest.1]
        cases Pug.readText indent rest.1 <;> rfl
termination_by lines.length
decreasing_by assumption

mutual

theorem readNodes_settled (parent : Option Nat) (level : Nat) (before : Block) (lines : List Line) :
    readNodes parent level before lines = settled (erase (Pug.readNodes parent level before lines)) := by
  cases lines with
  | nil =>
    rw [readNodes, Pug.readNodes]
    rfl
  | cons line others =>
    rw [readNodes, Pug.readNodes]
    split
    · split <;> rfl
    · split
      · rfl
      · cases elseBranch? line.text with
        | some chained =>
          cases before with
          | nil => rfl
          | cons last earlier =>
            dsimp only
            split
            · rw [readBlock_settled]
              cases Pug.readBlock (some level) others with
              | error => rfl
              | ok result =>
                obtain ⟨branch, rest⟩ := result
                have less : rest.1.length < (line :: others).length := Nat.lt_succ_of_le rest.2.length_le
                have more := readNodes_settled parent level
                  ((attachBranch? chained branch last).getD last :: earlier) rest.1
                simp only [erase, Except.map, settled_ok_bind, descend_of_lt less, more]
                cases Pug.readNodes parent level _ rest.1 <;> rfl
            · rfl
        | none =>
          dsimp only
          rw [readLine_settled]
          cases Pug.readLine line.number line.text others with
          | error => rfl
          | ok result =>
            obtain ⟨node, children, rest⟩ := result
            have less : rest.1.length < (line :: others).length := Nat.lt_succ_of_le rest.2.length_le
            have below := readChildren_settled level children rest.1
            simp only [erase₂, Except.map, settled_ok_bind, descend_of_lt less, below]
            cases Pug.readChildren level children rest.1 with
            | error => rfl
            | ok result =>
              obtain ⟨nodes, left⟩ := result
              have fewer : left.1.length < (line :: others).length :=
                Nat.lt_of_le_of_lt left.2.length_le less
              have more := readNodes_settled parent level (node.extend nodes :: before) left.1
              simp only [erase, Except.map, settled_ok_bind, descend_of_lt fewer, more]
              cases Pug.readNodes parent level _ left.1 <;> rfl
termination_by 3 * lines.length
decreasing_by
  all_goals
    simp only [List.length_cons] at *
    omega

theorem readBlock_settled (parent : Option Nat) (lines : List Line) :
    readBlock parent lines = settled (erase (Pug.readBlock parent lines)) := by
  rw [readBlock.eq_def, Pug.readBlock.eq_def]
  cases lines with
  | nil => rfl
  | cons first others =>
    dsimp only
    split
    · rfl
    · exact readNodes_settled parent first.indent [] (first :: others)
termination_by 3 * lines.length + 1

theorem readChildren_settled (indent : Nat) (children : Children) (lines : List Line) :
    readChildren indent children lines = settled (erase (Pug.readChildren indent children lines)) := by
  rw [readChildren.eq_def, Pug.readChildren.eq_def]
  cases children with
  | raw => rfl
  | prose => exact readText_settled indent lines
  | block => exact readBlock_settled (some indent) lines
  | none =>
    cases lines with
    | nil => rfl
    | cons next others =>
      dsimp only
      split <;> rfl
termination_by 3 * lines.length + 2

end

/-! Templates. -/

/-- The text of a line behind its indentation; the indentation is what is cut off in front of it. -/
def readRawLine (number : Nat) (raw : List Char) : Checked (Option Line) := do
  let leading ← cut raw 0 (matched raw (Text.trimStart raw))
  let text := Text.trim raw
  if text.isEmpty then return none
  else if leading.contains ' ' && leading.contains '\t' then
    settled (.error ⟨number, .mixedIndentation⟩)
  else return some ⟨number, leading.length, text⟩

def readRawLines (number : Nat) : List (List Char) → Checked (List Line)
  | [] => return []
  | raw :: rest => do
    let line ← readRawLine number raw
    let lines ← readRawLines (number + 1) rest
    return line.toList ++ lines

def parse (content : String) : Checked Block := do
  let lines ← readRawLines 1 (Text.splitAt (· == '\n') content.toList)
  match ← readBlock none lines with
  | (block, []) => return block
  | (_, line :: _) => settled (.error ⟨line.number, .inconsistentIndentation⟩)

theorem readRawLine_settled (number : Nat) (raw : List Char) :
    readRawLine number raw = settled (Pug.readRawLine number raw) := by
  have leading : cut raw 0 (matched raw (Text.trimStart raw)) = pure (raw.takeWhile Text.isBlank) :=
    cut_matched List.takeWhile_append_dropWhile
  rw [readRawLine, leading, pure_bind, Pug.readRawLine]
  dsimp only
  split
  · rfl
  · split <;> rfl

theorem readRawLines_settled (number : Nat) (raws : List (List Char)) :
    readRawLines number raws = settled (Pug.readRawLines number raws) := by
  induction raws generalizing number with
  | nil => rfl
  | cons raw rest ih =>
    rw [readRawLines, Pug.readRawLines, readRawLine_settled]
    cases Pug.readRawLine number raw with
    | error => rfl
    | ok line =>
      rw [settled_ok_bind, ih]
      cases Pug.readRawLines (number + 1) rest <;> rfl

/-- No template makes a cut that is no part of its text, and no step has as much to read as the one it belongs
to: the reading that stops for good at either comes to the outcome of the plain one. -/
theorem parse_settled (content : String) : (parse content).run = .ok (Pug.parse content) := by
  have lines := readRawLines_settled 1 (Text.splitAt (· == '\n') content.toList)
  have plain : Pug.readLines content.toList = Pug.readRawLines 1 (Text.splitAt (· == '\n') content.toList) := rfl
  rw [parse, lines, Pug.parse, plain]
  cases Pug.readRawLines 1 (Text.splitAt (· == '\n') content.toList) with
  | error => rfl
  | ok lines =>
    rw [settled_ok_bind, readBlock_settled]
    dsimp only
    cases Pug.readBlock none lines with
    | error => rfl
    | ok result =>
      obtain ⟨block, left, _⟩ := result
      cases left <;> rfl

end Checked

end Querymap.Pug
