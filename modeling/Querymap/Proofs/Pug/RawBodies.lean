import Querymap.Proofs.Pug.Blind
import Querymap.Proofs.Pug.Heads
import Querymap.Proofs.Pug.Relayout

/-! Bodies that are passed over. Below a comment, a filter, a bare code marker or a tag that ends with a dot
deeper lines are no nodes, and what stands in them changes nothing. -/
namespace Querymap.Pug

/-! Lines that open a body. -/

/-- The first line of a comment, a filter, a code block or a text block. Attribute lists of the tag above a
text may take more lines. -/
inductive Opener (number : Nat) : List Char → List Line → Children → Prop
  | comment (text : List Char) : Opener number ('/' :: '/' :: text) [] .raw
  | filter (text : List Char) : Opener number (':' :: text) [] .raw
  | code {text : List Char} (bare : Text.trim text = []) : Opener number ('-' :: text) [] .raw
  | dot {text : List Char} {more : List Line} {name : String} {attributes : List Attribute}
      (tag : readForm number text more = .ok (.tag name attributes .dot, ⟨[], List.nil_suffix⟩)) :
      Opener number text more .prose

section Openers

variable {number : Nat} {text : List Char} {more : List Line} {children : Children}

theorem readKeyword_ne_tag {keyword name : String} {rest : List Char} {attributes : List Attribute}
    {tail : Tail} : readKeyword number keyword rest ≠ .ok (.tag name attributes tail) := by
  intro read
  unfold readKeyword at read
  split at read
  all_goals first
    | cases read
    | split at read <;> cases read

theorem readCall_ne_tag {name : String} {attributes : List Attribute} {tail : Tail} {rest : Rest more} :
    readCall number text more ≠ .ok (.tag name attributes tail, rest) := by
  intro read
  unfold readCall at read
  split at read
  · contradiction
  · split at read
    · contradiction
    · split at read
      · contradiction
      · dsimp only at read
        split at read
        · obtain ⟨_, _, same⟩ := map_eq_ok read
          cases same
        · cases read

/-- No keyword leads a tag. -/
theorem splitKeyword?_of_tag {name : String} {attributes : List Attribute} {tail : Tail} {rest : Rest more}
    (tag : readForm number text more = .ok (.tag name attributes tail, rest)) :
    splitKeyword? text = none := by
  unfold readForm at tag
  dsimp only at tag
  split at tag
  case h_10 => exact absurd tag readCall_ne_tag
  case h_11 =>
    split at tag
    · obtain ⟨form, read, same⟩ := map_eq_ok tag
      cases same
      exact absurd read readKeyword_ne_tag
    · assumption
  all_goals cases tag

theorem Opener.elseBranch? (opener : Opener number text more children) : elseBranch? text = none := by
  cases opener with
  | dot tag => exact elseBranch?_of_free (splitKeyword?_eq_none_iff.1 (splitKeyword?_of_tag tag))
  | _ => exact elseBranch?_of_free (by simp [keywords, Text.isWord])

theorem Opener.hidden (opener : Opener number text more children) :
    children = .raw ∨ children = .prose := by
  cases opener with
  | dot => exact .inr rfl
  | _ => exact .inl rfl

/-- What opens a body is read for itself. -/
theorem Opener.readLine (opener : Opener number text more children) :
    ∃ node, readLine number text more = .ok (node, children, ⟨[], List.nil_suffix⟩) := by
  cases opener with
  | comment text =>
    refine ⟨.comment, readLine_node ?_⟩
    rw [readForm]
  | filter text =>
    refine ⟨.text, readLine_node ?_⟩
    rw [readForm]
  | code bare =>
    refine ⟨.code [], readLine_node ?_⟩
    simp [readForm, bare]
  | @dot _ _ name attributes tag =>
    refine ⟨.tag name attributes [], ?_⟩
    rw [readLine_eq, tag]
    rfl

end Openers

/-! Lines of a body. -/

/-- A line that a body takes in, with no tag in it if the body is a text. -/
structure Inside (indent : Nat) (children : Children) (line : Line) : Prop where
  deeper : indent < line.indent
  plain : children = .prose → interpolation? false line.text = none

/-- A body adds nothing to the node above it. -/
theorem readChildren_body {indent : Nat} {children : Children} {body : List Line} (after : List Line)
    (hidden : children = .raw ∨ children = .prose) (inside : ∀ line ∈ body, Inside indent children line) :
    erase (readChildren indent children (body ++ after)) = erase (readChildren indent children after) := by
  rcases hidden with rfl | rfl
  · have skipped : (body ++ after).dropWhile (indent < ·.indent) =
        after.dropWhile (indent < ·.indent) :=
      List.dropWhile_append_of_pos fun line member => decide_eq_true (inside line member).deeper
    simp only [readChildren, erase, Except.map, skipped]
  · simp only [readChildren]
    induction body with
    | nil => rfl
    | cons line body ih =>
      obtain ⟨here, below⟩ := List.forall_mem_cons.1 inside
      rw [List.cons_append, readText_cons here.deeper, readProse_plain (here.plain rfl)]
      simp only [Except.bind, ih below, List.nil_append]
      cases erase (readText indent after) <;> rfl

/-- What is below an opener makes no difference to it. -/
theorem Opener.passes {first : Line} {more body after : List Line} {children : Children}
    (opener : Opener first.number first.text more children)
    (inside : ∀ line ∈ body, Inside first.indent children line) (parent : Option Nat) (before : Block) :
    erase (readNodes parent first.indent before (first :: (more ++ (body ++ after)))) =
      erase (readNodes parent first.indent before (first :: (more ++ after))) := by
  obtain ⟨node, alone⟩ := opener.readLine
  have reads (lines : List Line) :
      Pug.readLine first.number first.text (more ++ lines) =
        .ok (node, children, ⟨lines, List.suffix_append more lines⟩) := by
    have longer := @readLine_extends lines more _ first.number first.text rfl
    rw [alone] at longer
    obtain ⟨_, read, @⟨_, _, _, rest, left⟩⟩ := longer.of_ok
    have : rest = ⟨lines, List.suffix_append more lines⟩ := Subtype.ext left
    rw [read, this]
  rw [readNodes_unchained opener.elseBranch?, readNodes_unchained opener.elseBranch?, reads, reads]
  simp only [Except.bind, readChildren_body after opener.hidden inside]

/-- One body for another: the template stays the same, if the opener is read for itself. -/
theorem Opener.whole {first : Line} {number : Nat} {above more body body' after : List Line}
    {children : Children} (opener : Opener first.number first.text more children)
    (inside : ∀ line ∈ body, Inside first.indent children line)
    (inside' : ∀ line ∈ body', Inside first.indent children line)
    (closed : ¬IsOpenList (whole (erase (readBlock none above))))
    (refused : ∃ error, Pug.whole (erase (readBlock none (above ++ [nameless number first.indent]))) =
      .error error) :
    Pug.whole (erase (readBlock none (above ++ (first :: more ++ (body' ++ after))))) =
      Pug.whole (erase (readBlock none (above ++ (first :: more ++ (body ++ after))))) := by
  have blind : Blind number first first.text (more ++ (body' ++ after)) (more ++ (body ++ after))
      fun lines => erase (readBlock none (above ++ lines)) := by
    refine readBlock_blind (fun parent before => ?_) none above
    exact (opener.passes inside' parent before).trans (opener.passes inside parent before).symm
  refine blind.whole ?_ refused
  rwa [List.append_nil]

/-! Templates as lists of lines. -/

/-- The template that lines make. -/
def parseRaw (raws : List (List Char)) : Except ParseError Block :=
  match readRawLines 1 raws with
  | .error error => .error error
  | .ok lines => whole (erase (readBlock none lines))

theorem parse_eq_parseRaw (content : String) : parse content = parseRaw (rawLines content) := by
  rw [parseRaw]
  cases cut : readRawLines 1 (rawLines content) with
  | error error => rw [parse, readLines, ← rawLines, cut]
  | ok lines => exact parse_eq_whole cut

theorem readRawLines_append (number : Nat) (raws others : List (List Char)) :
    readRawLines number (raws ++ others) =
      (readRawLines number raws).bind fun lines =>
        (readRawLines (number + raws.length) others).map (lines ++ ·) := by
  induction raws generalizing number with
  | nil =>
    rw [List.nil_append, readRawLines, List.length_nil, Nat.add_zero]
    cases readRawLines number others <;> rfl
  | cons raw raws ih =>
    have next : number + 1 + raws.length = number + (raw :: raws).length := by
      rw [List.length_cons]
      omega
    rw [List.cons_append, readRawLines, readRawLines, ih, next]
    cases readRawLine number raw with
    | error => rfl
    | ok line =>
      cases readRawLines (number + 1) raws with
      | error => rfl
      | ok lines =>
        cases readRawLines (number + (raw :: raws).length) others with
        | error => rfl
        | ok => simp [bind, pure, Except.bind, Except.map, Except.pure]

/-- The same lines further down. -/
theorem readRawLines_moved (layout : LineLayout) (columns : ∀ column, layout.column column = column)
    {number next : Nat} (raws : List (List Char))
    (placed : ∀ index < raws.length, layout.number (number + index) = next + index) :
    readRawLines next raws =
      ((readRawLines number raws).mapError (ParseError.renumber layout.number)).map
        (List.map layout.line) := by
  induction raws generalizing number next with
  | nil => rfl
  | cons raw raws ih =>
    have here : layout.number number = next := placed 0 (Nat.zero_lt_succ _)
    have below := @ih (number + 1) (next + 1) fun index inside => by
      have := placed (index + 1) (Nat.succ_lt_succ inside)
      rwa [Nat.add_comm index, ← Nat.add_assoc, ← Nat.add_assoc] at this
    have first : readRawLine next raw =
        ((readRawLine number raw).mapError (ParseError.renumber layout.number)).map
          (Option.map layout.line) := by
      unfold readRawLine
      dsimp only
      split
      · rfl
      · split
        · simp [Except.mapError, Except.map, ParseError.renumber, here]
        · simp [Except.mapError, Except.map, LineLayout.line, here, columns]
    rw [readRawLines, readRawLines, first, below]
    cases readRawLine number raw with
    | error => rfl
    | ok line =>
      cases readRawLines (number + 1) raws with
      | error => rfl
      | ok lines => cases line <;> rfl

/-! Bodies in a template. -/

/-- A line as it stands in a body. What is not left out as a whole has no tag in it. -/
structure BodyLine (indent : Nat) (children : Children) (raw : List Char) : Prop where
  deeper : indent < (margin raw).length
  unmixed : Unmixed raw
  plain : children = .prose → ¬['#', '['] <:+: raw

theorem BodyLine.of_not_mem {indent : Nat} {children : Children} {raw : List Char}
    (deeper : indent < (margin raw).length) (unmixed : Unmixed raw) (plain : '#' ∉ raw) :
    BodyLine indent children raw :=
  ⟨deeper, unmixed, fun _ tag => plain (tag.subset List.mem_cons_self)⟩

theorem readRawLines_body {indent : Nat} {children : Children} {body : List (List Char)} (number : Nat)
    (filled : ∀ raw ∈ body, Text.trim raw ≠ [] → BodyLine indent children raw) :
    ∃ lines, readRawLines number body = .ok lines ∧ ∀ line ∈ lines, Inside indent children line := by
  induction body generalizing number with
  | nil => exact ⟨[], rfl, by simp⟩
  | cons raw body ih =>
    obtain ⟨here, below⟩ := List.forall_mem_cons.1 filled
    obtain ⟨lines, read, inside⟩ := ih (number + 1) below
    by_cases written : Text.trim raw = []
    · refine ⟨lines, ?_, inside⟩
      rw [readRawLines, readRawLine_blank number written, read]
      rfl
    · obtain ⟨deeper, unmixed, plain⟩ := here written
      refine ⟨⟨number, (margin raw).length, Text.trim raw⟩ :: lines, ?_,
        List.forall_mem_cons.2 ⟨⟨deeper, fun text => ?_⟩, inside⟩⟩
      · rw [readRawLines, readRawLine_text number written unmixed, read]
        rfl
      · exact interpolation?_of_not_infix fun tag => plain text (tag.trans (Text.trim_infix raw))

/-- Below these lines a line at this column is read for itself, if the template does not fail before it: no
list is open, and a call without a name is refused, which a body would take in. -/
structure IsRead (before : List (List Char)) (indent : Nat) : Prop where
  closed : ¬IsOpenList (parseRaw before)
  refused : ∃ error, parseRaw (before ++ [List.replicate indent ' ' ++ ['+']]) = .error error

instance (before : List (List Char)) (indent : Nat) : Decidable (IsRead before indent) :=
  decidable_of_iff (¬IsOpenList (parseRaw before) ∧
      (parseRaw (before ++ [List.replicate indent ' ' ++ ['+']])).isOk = false)
    ⟨fun ⟨closed, failed⟩ => ⟨closed, isOk_eq_false_iff.1 failed⟩,
      fun ⟨closed, refused⟩ => ⟨closed, isOk_eq_false_iff.2 refused⟩⟩

theorem readRawLine_nameless (number indent : Nat) :
    readRawLine number (List.replicate indent ' ' ++ ['+']) = .ok (some (nameless number indent)) :=
  readRawLine_indented number indent (.of_any (by simp) rfl)

/-- The numbers of lines where another body takes the place of one. -/
def renumberBelow (above body body' number : Nat) : Nat :=
  if number ≤ above + body then number else number - body + body'

section

variable {before opener body body' after : List (List Char)} {line : Line} {more : List Line}
  {children : Children}

/-- Whatever stands below an opener that is read for itself, the template is the same, and so is its fault,
but for the numbers of the lines below. -/
theorem parse_body (head : readRawLines (before.length + 1) opener = .ok (line :: more))
    (opens : Opener line.number line.text more children) (read : IsRead before line.indent)
    (filled : ∀ raw ∈ body, Text.trim raw ≠ [] → BodyLine line.indent children raw)
    (filled' : ∀ raw ∈ body', Text.trim raw ≠ [] → BodyLine line.indent children raw)
    {content other : String} (split : rawLines content = before ++ (opener ++ (body ++ after)))
    (split' : rawLines other = before ++ (opener ++ (body' ++ after))) :
    parse other = renumbered
      (renumberBelow (before.length + opener.length) body.length body'.length) (parse content) := by
  let layout : LineLayout :=
    ⟨renumberBelow (before.length + opener.length) body.length body'.length, id, strictMono_id⟩
  have fixed (raws : List (List Char)) (number : Nat)
      (above : number + raws.length ≤ before.length + opener.length + body.length + 1) :=
    @readRawLines_moved layout (fun _ => rfl) number number raws fun index inside =>
      if_pos (by omega)
  rw [parse_eq_parseRaw, parse_eq_parseRaw, split, split', parseRaw, parseRaw]
  simp only [readRawLines_append, Nat.add_comm 1 before.length, head]
  obtain ⟨lines, cut, inside⟩ := readRawLines_body (before.length + 1 + opener.length) filled
  obtain ⟨lines', cut', inside'⟩ := readRawLines_body (before.length + 1 + opener.length) filled'
  have below := @readRawLines_moved layout (fun _ => rfl) (before.length + 1 + opener.length + body.length)
    (before.length + 1 + opener.length + body'.length) after fun index _ => by
      change renumberBelow _ _ _ _ = _
      rw [renumberBelow, if_neg (by omega)]
      omega
  have headFixed := fixed opener (before.length + 1) (by omega)
  have bodyFixed := fixed body (before.length + 1 + opener.length) (by omega)
  have beforeFixed := fixed before 1 (by omega)
  rw [head] at headFixed
  rw [cut] at bodyFixed
  simp only [cut, cut', below]
  cases start : readRawLines 1 before with
  | error error =>
    rw [start] at beforeFixed
    exact congrArg Except.error (Except.error.inj beforeFixed)
  | ok above =>
    rw [start] at beforeFixed
    cases readRawLines (before.length + 1 + opener.length + body.length) after with
    | error error => rfl
    | ok left =>
      have moved : (above ++ (line :: more ++ (lines ++ left))).map layout.line =
          above ++ (line :: more ++ (lines ++ left.map layout.line)) := by
        rw [List.map_append, List.map_append, List.map_append, ← Except.ok.inj beforeFixed,
          ← Except.ok.inj headFixed, ← Except.ok.inj bodyFixed]
      have closed := read.closed
      have refused := read.refused
      rw [parseRaw, start] at closed
      simp only [parseRaw, readRawLines_append, start, readRawLines, readRawLine_nameless] at refused
      exact (opens.whole inside inside' closed refused).trans
        ((congrArg (fun lines => whole (erase (readBlock none lines))) moved.symm).trans
          (whole_moved layout _))

end

/-- Another text below a paragraph, with tabs, with a blank line and with what would be no node. -/
theorem parse_body_paragraph :
    rawLines "ul\n  p.\n    one\n  li" =
      ["ul".toList] ++ (["  p.".toList] ++ (["    one".toList] ++ ["  li".toList])) ∧
    rawLines "ul\n  p.\n\t\t\t=\n \t\n      a(b\n  li" =
      ["ul".toList] ++ (["  p.".toList] ++ (["\t\t\t=".toList, " \t".toList, "      a(b".toList] ++
        ["  li".toList])) ∧
    parse "ul\n  p.\n\t\t\t=\n \t\n      a(b\n  li" =
      renumbered (renumberBelow 2 1 3) (parse "ul\n  p.\n    one\n  li") := by
  have first : rawLines "ul\n  p.\n    one\n  li" =
      ["ul".toList] ++ (["  p.".toList] ++ (["    one".toList] ++ ["  li".toList])) := by
    decide
  have second : rawLines "ul\n  p.\n\t\t\t=\n \t\n      a(b\n  li" =
      ["ul".toList] ++ (["  p.".toList] ++ (["\t\t\t=".toList, " \t".toList, "      a(b".toList] ++
        ["  li".toList])) := by
    decide
  have attributes : readTagAttributes 2 ['.'] [] = .ok ([], ['.'], ⟨[], List.nil_suffix⟩) := by
    rw [readTagAttributes_eq]
    rfl
  have word : splitKeyword? "p.".toList = none := by decide
  have name : splitTagName? "p.".toList = some (['p'], ['.']) := by decide
  have tag : readForm 2 "p.".toList [] = .ok (.tag "p" [] .dot, ⟨[], List.nil_suffix⟩) := by
    simp only [readForm, word, name, readTag]
    simp [attributes, readTail, withoutSlash, Except.map]
  have closed : ¬IsOpenList (parseRaw ["ul".toList]) := by
    have read : (parseRaw ["ul".toList]).isOk = true := by decide +kernel
    rintro ⟨number, unclosed⟩
    rw [unclosed] at read
    contradiction
  have refused : ∃ error, parseRaw (["ul".toList] ++ [List.replicate 2 ' ' ++ ['+']]) = .error error := by
    have failed : (parseRaw (["ul".toList] ++ [List.replicate 2 ' ' ++ ['+']])).isOk = false := by
      decide +kernel
    cases read : parseRaw (["ul".toList] ++ [List.replicate 2 ' ' ++ ['+']]) with
    | error error => exact ⟨error, rfl⟩
    | ok block =>
      rw [read] at failed
      contradiction
  have one : BodyLine 2 .prose "    one".toList :=
    .of_not_mem (by decide) (by unfold Unmixed; decide) (by decide)
  have code : BodyLine 2 .prose "\t\t\t=".toList :=
    .of_not_mem (by decide) (by unfold Unmixed; decide) (by decide)
  have list : BodyLine 2 .prose "      a(b".toList :=
    .of_not_mem (by decide) (by unfold Unmixed; decide) (by decide)
  have blank : Text.trim " \t".toList = [] := by decide
  have head : readRawLines 2 ["  p.".toList] = .ok [⟨2, 2, "p.".toList⟩] := by decide
  refine ⟨first, second, @parse_body ["ul".toList] ["  p.".toList] _ _ _ ⟨2, 2, "p.".toList⟩ [] .prose
    head (.dot tag) ⟨closed, refused⟩ ?_ ?_ _ _ first second⟩
  · intro raw member _
    rw [List.mem_singleton.1 member]
    exact one
  · intro raw member written
    simp only [List.mem_cons, List.not_mem_nil, or_false] at member
    rcases member with same | same | same
    · rw [same]
      exact code
    · exact absurd (same ▸ blank) written
    · rw [same]
      exact list

/-- Spaces and tabs in front of one line are refused everywhere, also where nothing is read from it. -/
theorem mixed_body_refused :
    rawLines "// a\n  b" = ["// a".toList] ++ ["  b".toList] ∧
    rawLines "// a\n \tb" = ["// a".toList] ++ [" \tb".toList] ∧
    margin "// a".toList = [] ∧ margin "  b".toList = [' ', ' '] ∧ margin " \tb".toList = [' ', '\t'] ∧
    parse "// a\n  b" = .ok [.comment] ∧ parse "// a\n \tb" = .error ⟨2, .mixedIndentation⟩ := by
  refine ⟨by decide, by decide, by decide, by decide, by decide, ?_, ?_⟩
  · have cut : readLines "// a\n  b".toList = .ok [⟨1, 0, "// a".toList⟩, ⟨2, 2, "b".toList⟩] := by
      decide
    have comment : readLine 1 "// a".toList [⟨2, 2, "b".toList⟩] =
        .ok (.comment, .raw, ⟨_, List.suffix_refl _⟩) :=
      readLine_node rfl
    refine parse_of_lines cut ?_
    rw [readBlock_none]
    have hidden : erase (readChildren 0 .raw [⟨2, 2, "b".toList⟩]) = .ok ([], []) := by
      rw [readChildren]
      rfl
    refine (readNodes_line rfl (by decide) comment hidden).trans ?_
    exact readNodes_nil none 0 [.comment]
  · have cut : readLines "// a\n \tb".toList = .error ⟨2, .mixedIndentation⟩ := by decide
    rw [parse, cut]

end Querymap.Pug
