import Querymap.Proofs.Pug.Printer
import Querymap.Proofs.Pug.Steps

/-! Reading of single lines: each head of a node is read back without its blocks. -/
namespace Querymap.Pug

/-- A node without its blocks, as its line alone gives it. -/
def Node.bare (number : Nat) : Node → Node
  | .tag name attributes _ => .tag name attributes []
  | .conditional .. => .conditional [] .none
  | .include path _ => .include path number
  | .mixin name _ => .mixin name []
  | .call name attributes _ => .call name attributes []
  | .each .. => .each [] none
  | .loop _ => .loop []
  | .case _ => .case []
  | .when _ => .when []
  | .named name _ => .named name []
  | .code _ => .code []
  | .text => .text
  | .comment => .comment
  | .doctype => .doctype
  | .inherits path => .inherits path
  | .group _ => .group []

/-- What a node makes of deeper lines below its own. -/
def Node.children : Node → Children
  | .include .. | .text | .doctype | .inherits _ => .none
  | .comment => .raw
  | _ => .block

section Names

variable {name : String} {after : List Char}

/-- The first word of every keyword is a keyword, and so is the word that leads a text behind it. -/
theorem firstWord_mem_keywords {keyword : String} (reserved : keyword ∈ keywords) {rest : List Char}
    (stops : ∀ c ∈ rest.head?, Text.isWord c = false) :
    String.ofList ((keyword.toList ++ rest).takeWhile Text.isWord) ∈ keywords := by
  have firstWords : ∀ keyword ∈ keywords,
      String.ofList (keyword.toList.takeWhile Text.isWord) ∈ keywords := by decide
  rw [Text.takeWhile_append_stop keyword.toList stops]
  exact firstWords keyword reserved

/-- A keyword leads a text if its first word is one. -/
theorem splitKeyword?_eq_none_iff {text : List Char} :
    splitKeyword? text = none ↔ String.ofList (text.takeWhile Text.isWord) ∉ keywords := by
  refine List.findSome?_eq_none_iff.trans ⟨fun none reserved => ?_, fun free keyword reserved => ?_⟩
  · have dropped : Text.dropStart? (String.ofList (text.takeWhile Text.isWord)).toList text =
        some (text.dropWhile Text.isWord) := by
      rw [String.toList_ofList, Text.dropStart?_eq_some_iff, List.takeWhile_append_dropWhile]
    have stops : (text.dropWhile Text.isWord).head?.any Text.isWord = false := by
      have := List.head?_dropWhile_not Text.isWord text
      cases head : (text.dropWhile Text.isWord).head? <;> simp_all
    have := none _ reserved
    rw [dropped] at this
    simp [stops] at this
  · split
    · next rest dropped =>
      split
      · rfl
      · next stops =>
        rw [Text.dropStart?_eq_some_iff.1 dropped] at free
        refine absurd (firstWord_mem_keywords reserved fun c head => ?_) free
        rw [Option.mem_def.1 head] at stops
        simpa using stops
    · rfl

/-- A text that no keyword leads is no branch of the node before it. -/
theorem elseBranch?_of_free {text : List Char}
    (free : String.ofList (text.takeWhile Text.isWord) ∉ keywords) : elseBranch? text = none := by
  rw [elseBranch?, afterWord?]
  split
  · next rest found =>
    split
    · next ends =>
      rw [Text.dropStart?_eq_some_iff.1 found] at free
      refine absurd (firstWord_mem_keywords (by decide) fun c head => ?_) free
      rw [Option.mem_def.1 head, Option.all_some, Bool.or_eq_true, beq_iff_eq] at ends
      rcases ends with blank | rfl
      · refine Bool.eq_false_iff.2 fun word => ?_
        rw [Text.isBlank_of_isWord word] at blank
        contradiction
      · decide
    · rfl
  · rfl

/-- A name is the first word of a text that it leads. -/
theorem IsName.takeWhile_append (valid : IsName name)
    (ends : ∀ c ∈ after.head?, Text.isWord c = false) :
    String.ofList ((name.toList ++ after).takeWhile Text.isWord) ∉ keywords := by
  rw [Text.takeWhile_append_all valid.word ends, String.ofList_toList]
  exact valid.free

/-- A keyword at the start of a text that a name leads goes on as a word. -/
theorem IsName.goes_on (valid : IsName name) {keyword : String} (reserved : keyword ∈ keywords)
    {rest : List Char} (ends : ∀ c ∈ after.head?, Text.isWord c = false)
    (starts : name.toList ++ after = keyword.toList ++ rest) :
    ∃ c ∈ rest.head?, Text.isWord c = true := by
  refine Classical.byContradiction fun stops => valid.takeWhile_append ends ?_
  rw [starts]
  exact firstWord_mem_keywords reserved (by simpa using stops)

/-- A keyword does not lead a text that begins with a name. -/
theorem IsName.not_led (valid : IsName name) {keyword : String} (reserved : keyword ∈ keywords)
    (ends : ∀ c ∈ after.head?, Text.isWord c = false) (found : String) :
    (match Text.dropStart? keyword.toList (name.toList ++ after) with
      | some rest => if rest.head?.any Text.isWord then none else some (found, rest)
      | none => none) = none := by
  split
  · next rest dropped =>
    obtain ⟨c, head, word⟩ := valid.goes_on reserved ends (Text.dropStart?_eq_some_iff.1 dropped)
    rw [if_pos (by rw [Option.mem_def.1 head]; exact word)]
  · rfl

theorem splitKeyword?_of_isName (valid : IsName name)
    (ends : ∀ c ∈ after.head?, Text.isWord c = false) :
    splitKeyword? (name.toList ++ after) = none :=
  splitKeyword?_eq_none_iff.2 (valid.takeWhile_append ends)

/-- The name of a block is not taken for a part of the keyword. -/
theorem splitKeyword?_block (valid : IsName name) :
    splitKeyword? (led "block" name.toList) = some ("block", ' ' :: name.toList) := by
  have append := @IsName.not_led name [] valid "append" (by decide) (by simp) "block append"
  have prepend := @IsName.not_led name [] valid "prepend" (by decide) (by simp) "block prepend"
  rw [List.append_nil] at append prepend
  refine List.findSome?_eq_some_iff.2 ⟨["if", "unless", "else if", "else", "each", "for", "while",
    "case", "when", "default", "block append", "block prepend"], "block", _, rfl, rfl, ?_⟩
  simp only [List.forall_mem_cons]
  exact ⟨rfl, rfl, rfl, rfl, rfl, rfl, rfl, rfl, rfl, rfl, append, prepend, by simp⟩

theorem elseBranch?_of_isName (valid : IsName name)
    (ends : ∀ c ∈ after.head?, Text.isWord c = false) :
    elseBranch? (name.toList ++ after) = none :=
  elseBranch?_of_free (valid.takeWhile_append ends)

theorem splitTagName?_of_isName (valid : IsName name)
    (ends : ∀ c ∈ after.head?, Text.isWord c = false ∧ isNameJoint c = false) :
    splitTagName? (name.toList ++ after) = some (name.toList, after) := by
  have taken : (name.toList ++ after).takeWhile (fun c => Text.isWord c || isNameJoint c) =
      name.toList := by
    refine Text.takeWhile_append_all (fun c member => ?_) (fun c head => ?_)
    · rw [valid.word c member, Bool.true_or]
    · rw [(ends c head).1, (ends c head).2, Bool.false_or]
  have kept : Text.dropEndWhile isNameJoint name.toList = name.toList := by
    refine Text.dropEndWhile_of_getLast? fun c last => ?_
    have word := valid.word c (List.mem_of_mem_getLast? last)
    refine Bool.eq_false_iff.2 fun joint => ?_
    simp only [isNameJoint, Bool.or_eq_true, beq_iff_eq] at joint
    rcases joint with rfl | rfl <;> contradiction
  cases characters : name.toList with
  | nil => exact absurd characters valid.nonempty
  | cons c rest =>
    have word := valid.word c (by simp [characters])
    rw [characters] at taken kept
    rw [List.cons_append] at taken ⊢
    rw [splitTagName?, if_pos word, taken, kept]
    simp

theorem IsName.head?_append (valid : IsName name) {c : Char}
    (head : c ∈ (name.toList ++ after).head?) : Text.isWord c = true := by
  cases characters : name.toList with
  | nil => exact absurd characters valid.nonempty
  | cons c' rest =>
    rw [characters] at head
    cases head
    exact valid.word c (by simp [characters])

end Names

section Forms

variable {number : Nat} {text : List Char} {lines : List Line}

/-- A line that begins with a letter starts with a keyword or is a tag. -/
theorem readForm_of_word (word : ∀ c ∈ text.head?, Text.isWord c = true) :
    readForm number text lines =
      match splitKeyword? text with
      | some (keyword, rest) =>
        (readKeyword number keyword (Text.trim rest)).map (·, ⟨lines, List.suffix_refl _⟩)
      | none =>
        if text.head? = some '#' || text.head? = some '.' || (splitTagName? text).isSome then
          readTag number text lines
        else .error ⟨number, .unexpectedText (String.ofList text)⟩ := by
  unfold readForm
  dsimp only
  split
  case h_11 => rfl
  all_goals
    have := word _ rfl
    contradiction

theorem readForm_keyword {keyword : String} {rest : List Char} {form : Form}
    (word : ∀ c ∈ text.head?, Text.isWord c = true)
    (split : splitKeyword? text = some (keyword, rest))
    (read : readKeyword number keyword (Text.trim rest) = .ok form) :
    readForm number text lines = .ok (form, ⟨lines, List.suffix_refl _⟩) := by
  rw [readForm_of_word word, split]
  simp [read, Except.map]

theorem readLine_tag {name : String} {attributes : List Attribute} {rest : Rest lines}
    (read : readForm number text lines = .ok (.tag name attributes .empty, rest)) :
    readLine number text lines = .ok (.tag name attributes [], .block, rest) := by
  rw [readLine_eq, read]
  rfl

theorem readLine_call {name : String} {attributes : List Attribute} {rest : Rest lines}
    (read : readForm number text lines = .ok (.call name attributes none, rest)) :
    readLine number text lines = .ok (.call name attributes [], .block, rest) := by
  rw [readLine_eq, read]
  rfl

theorem readLine_when {rest : Rest lines}
    (read : readForm number text lines = .ok (.when none, rest)) :
    readLine number text lines = .ok (.when [], .block, rest) := by
  rw [readLine_eq, read]
  rfl

theorem readForm_code {code : List Char} (some : Text.trim code ≠ []) :
    readForm number ('-' :: code) lines =
      .ok (.node (.code []) .block, ⟨lines, List.suffix_refl _⟩) := by
  have empty : (Text.trim code).isEmpty = false := by simpa using some
  simp [readForm, empty]

theorem interpolation?_of_not_infix {escaped : Bool} (plain : ¬['#', '['] <:+: text) :
    interpolation? escaped text = none := by
  fun_induction interpolation? escaped text with
  | case1 => rfl
  | case2 _ rest => exact absurd (List.prefix_append ['#', '['] rest).isInfix plain
  | case3 _ c rest _ ih => exact ih fun inside => plain (inside.trans (List.suffix_cons c rest).isInfix)

theorem interpolation?_eq_none {escaped : Bool} (plain : '#' ∉ text) :
    interpolation? escaped text = none :=
  interpolation?_of_not_infix fun inside => plain (inside.subset List.mem_cons_self)

theorem afterColon?_of_not_infix (plain : ¬[':', ' '] <:+: text) : afterColon? text = none := by
  fun_induction afterColon? text with
  | case1 => rfl
  | case2 rest => exact absurd (List.prefix_append [':', ' '] rest).isInfix plain
  | case3 c rest _ ih => exact ih fun inside => plain (inside.trans (List.suffix_cons c rest).isInfix)

/-- Text without the sign of an expansion in front of one. -/
theorem afterColon?_append {before : List Char} (plain : ¬[':', ' '] <:+: before) (after : List Char) :
    afterColon? (before ++ ':' :: ' ' :: after) = some after := by
  induction before with
  | nil => rfl
  | cons c before ih =>
    rw [List.cons_append, afterColon?]
    · exact ih fun inside => plain (inside.trans (List.suffix_cons c before).isInfix)
    · rintro rest rfl same
      cases before with
      | nil => cases same
      | cons c before =>
        cases same
        exact plain (List.prefix_append [':', ' '] before).isInfix

theorem afterColon?_eq_none (plain : ':' ∉ text) : afterColon? text = none :=
  afterColon?_of_not_infix fun inside => plain (inside.subset List.mem_cons_self)

/-- Prose without tags in it is a text. -/
theorem readLine_text {prose : List Char} {rest : Rest lines} (plain : '#' ∉ prose)
    (read : readForm number text lines = .ok (.prose prose, rest)) :
    readLine number text lines = .ok (.text, .none, rest) := by
  rw [readLine_eq, read]
  simp only [Except.bind, readProse_plain (interpolation?_eq_none plain)]
  rfl

end Forms

section Groups

variable {attributes : List Attribute}

theorem readTagAttributes_nil (number : Nat) (lines : List Line) :
    readTagAttributes number [] lines = .ok ([], [], ⟨lines, List.suffix_refl _⟩) := by
  rw [readTagAttributes]
  rfl

theorem spell_readable (printable : ∀ attr ∈ attributes, attr.Printable) :
    ∀ spelled ∈ spell attributes, spelled.Readable := by
  intro spelled member
  obtain ⟨attr, listed, rfl⟩ := List.mem_map.1 member
  exact ⟨by simp, .inl rfl, printable attr listed⟩

theorem readAttributes_spell (printable : ∀ attr ∈ attributes, attr.Printable) :
    readAttributes (printAttributes [] (spell attributes)) = attributes := by
  have read := @readAttributes_print _ [] [] (by simp) (spell_readable printable) (by simp)
  simpa [spell, Function.comp_def] using read

theorem inert_spell (printable : ∀ attr ∈ attributes, attr.Printable) :
    Inert (printAttributes [] (spell attributes)) :=
  .printAttributes (spell_readable printable) (by simp)

/-- A shorthand, and what stands behind it. -/
theorem readTagAttributes_shorthand {number : Nat} {head after : List Char} {lines : List Line}
    {attr : Attribute} (found : splitShorthand? head = some (attr, after)) :
    readTagAttributes number head lines =
      (readTagAttributes number after lines).map fun (attributes, tail, rest) =>
        (attr :: attributes, tail, rest) := by
  rw [readTagAttributes]
  split
  · next same =>
    rw [found] at same
    cases same
    rfl
  · next none =>
    rw [found] at none
    cases none

/-- A group in parentheses, and what stands behind it. -/
theorem readTagAttributes_list {number : Nat} {head inner after : List Char} {lines : List Line}
    {rest : Rest lines} (starts : head.head? = some '(')
    (group : readParentheses number head lines = .ok (inner, after, rest)) :
    readTagAttributes number head lines =
      (readTagAttributes number after rest.1).map fun (attributes, tail, rest') =>
        (readAttributes inner ++ attributes, tail, ⟨rest', rest'.2.trans rest.2⟩) := by
  have unmarked : splitShorthand? head = none := by
    obtain ⟨tail, rfl⟩ := List.head?_eq_some_iff.1 starts
    rfl
  rw [readTagAttributes]
  split
  · next found =>
    rw [unmarked] at found
    cases found
  · rw [if_pos starts]
    split
    · next found =>
      rw [group] at found
      cases found
    · next found =>
      rw [group] at found
      cases found
      rfl

/-- A group in parentheses with nothing behind it. -/
theorem readTagAttributes_parentheses {number : Nat} {head inner : List Char} {lines : List Line}
    {rest : Rest lines} (starts : head.head? = some '(')
    (group : readParentheses number head lines = .ok (inner, [], rest)) :
    readTagAttributes number head lines = .ok (readAttributes inner, [], rest) := by
  simp [readTagAttributes_list starts group, readTagAttributes_nil, Except.map]

theorem readTagAttributes_group (printable : ∀ attr ∈ attributes, attr.Printable) (number : Nat)
    (lines : List Line) :
    readTagAttributes number (printGroup attributes) lines =
      .ok (attributes, [], ⟨lines, List.suffix_refl _⟩) := by
  rw [printGroup]
  cases none : attributes.isEmpty with
  | true =>
    rw [List.isEmpty_iff.1 none, if_pos rfl]
    exact readTagAttributes_nil number lines
  | false =>
    rw [if_neg (by simp), readTagAttributes_parentheses rfl
      (readParentheses_group (inert_spell printable) number [] lines), readAttributes_spell printable]

theorem head?_printGroup {c : Char} (head : c ∈ (printGroup attributes).head?) : c = '(' := by
  unfold printGroup at head
  split at head
  · cases head
  · exact (Option.some.inj head).symm

/-- A name and its attributes, which may go on over lines, are a tag. -/
theorem readForm_tag {name : String} {after : List Char} {number : Nat} {lines : List Line}
    {rest : Rest lines} (valid : IsName name)
    (ends : ∀ c ∈ after.head?, Text.isWord c = false ∧ isNameJoint c = false)
    (read : readTagAttributes number after lines = .ok (attributes, [], rest)) :
    readForm number (name.toList ++ after) lines = .ok (.tag name attributes .empty, rest) := by
  have unreserved := splitKeyword?_of_isName valid fun c head => (ends c head).1
  have tagged := splitTagName?_of_isName valid ends
  rw [readForm_of_word fun c head => valid.head?_append head, unreserved, tagged]
  simp [readTag, tagged, read, withoutSlash, readTail, Except.map]

theorem readTag_printed {name : String} (valid : IsName name)
    (printable : ∀ attr ∈ attributes, attr.Printable) (number : Nat) (lines : List Line) :
    readForm number (name.toList ++ printGroup attributes) lines =
      .ok (.tag name attributes .empty, ⟨lines, List.suffix_refl _⟩) := by
  refine readForm_tag valid (fun c head => ?_) (readTagAttributes_group printable number lines)
  rw [head?_printGroup head]
  decide

theorem splitMixinName?_append {name after : List Char} (nonempty : name ≠ [])
    (inside : ∀ c ∈ name, isIdChar c = true) (ends : ∀ c ∈ after.head?, isIdChar c = false) :
    splitMixinName? (name ++ after) = some (String.ofList name, after) := by
  rw [splitMixinName?, Text.takeWhile_append_all inside ends, Text.dropWhile_append_all inside ends]
  split
  · exact absurd rfl nonempty
  · rfl

theorem splitMixinName?_of_isName {name : String} {after : List Char} (valid : IsName name)
    (ends : ∀ c ∈ after.head?, isIdChar c = false) :
    splitMixinName? (name.toList ++ after) = some (name, after) := by
  have inside : ∀ c ∈ name.toList, isIdChar c = true := by
    intro c member
    rw [isIdChar, valid.word c member, Bool.true_or]
  rw [splitMixinName?_append valid.nonempty inside ends, String.ofList_toList]

theorem skipArguments_group (printable : ∀ attr ∈ attributes, attr.Printable) (number : Nat)
    (lines : List Line) : ∃ inner, readAttributes inner = attributes ∧
      skipArguments number (printGroup attributes) lines =
        .ok (inner, [], ⟨lines, List.suffix_refl _⟩) := by
  rw [printGroup]
  split
  · next none =>
    rw [List.isEmpty_iff.1 none]
    exact ⟨[], readAttributes_separators (by simp), rfl⟩
  · refine ⟨_, readAttributes_spell printable, ?_⟩
    rw [skipArguments, List.head?_cons, if_pos rfl]
    exact readParentheses_group (inert_spell printable) number [] lines

theorem readCall_printed {name : String} (valid : IsName name)
    (printable : ∀ attr ∈ attributes, attr.Printable) (number : Nat) (lines : List Line) :
    readCall number (name.toList ++ printCallGroup attributes) lines =
      .ok (.call name attributes none, ⟨lines, List.suffix_refl _⟩) := by
  obtain ⟨inner, attrs, skipped⟩ := skipArguments_group printable number lines
  rw [printCallGroup]
  split
  · next none =>
    obtain rfl := List.isEmpty_iff.1 none
    rw [readCall, splitMixinName?_of_isName valid (by simp)]
    simp [skipArguments, Text.trimStart, readAttributes_separators]
  · have arguments : skipArguments number ('(' :: ')' :: printGroup attributes) lines =
        .ok ([], printGroup attributes, ⟨lines, List.suffix_refl _⟩) := by
      rw [skipArguments, List.head?_cons, if_pos rfl]
      exact readParentheses_group .nil number (printGroup attributes) lines
    rw [readCall, splitMixinName?_of_isName valid (by simp; decide)]
    simp [arguments, skipped, Text.trimStart, attrs]

end Groups

section Leads

variable {number : Nat} {text : List Char} {lines : List Line}

/-- Keywords that no other one hides, whatever they apply to. -/
def leading : List String :=
  ["if", "each", "while", "case", "when", "mixin", "include", "extends", "doctype"]

theorem splitKeyword?_led {keyword : String} (leads : keyword ∈ leading) (text : List Char) :
    splitKeyword? (led keyword text) = some (keyword, ' ' :: text) := by
  simp only [leading, List.mem_cons, List.not_mem_nil, or_false] at leads
  rcases leads with rfl | rfl | rfl | rfl | rfl | rfl | rfl | rfl | rfl <;> rfl

theorem head?_append_word {start : List Char} (word : start.head?.any Text.isWord = true)
    (text : List Char) : ∀ c ∈ (start ++ text).head?, Text.isWord c = true := by
  intro c head
  cases start with
  | nil => contradiction
  | cons c' rest =>
    cases head
    exact word

theorem head?_led {keyword : String} (word : keyword.toList.head?.any Text.isWord = true)
    (text : List Char) : ∀ c ∈ (led keyword text).head?, Text.isWord c = true :=
  head?_append_word word (' ' :: text)

theorem trim_gap (trimmed : Text.Trimmed text) : Text.trim (' ' :: text) = text :=
  trimmed.trim_append [' '] (by simp [Text.isBlank])

theorem expansion_gap (number : Nat) (trimmed : Text.Trimmed text) :
    expansion number (' ' :: text) = .ok text := by
  rw [expansion, trim_gap trimmed]
  split
  · exact absurd rfl trimmed.nonempty
  · rfl

theorem readForm_led {keyword : String} {form : Form} (leads : keyword ∈ leading)
    (trimmed : Text.Trimmed text) (read : readKeyword number keyword text = .ok form) :
    readForm number (led keyword text) lines = .ok (form, ⟨lines, List.suffix_refl _⟩) := by
  have word : ∀ keyword ∈ leading, keyword.toList.head?.any Text.isWord = true := by decide
  refine readForm_keyword (head?_led (word keyword leads) text) (splitKeyword?_led leads text) ?_
  rw [trim_gap trimmed, read]

theorem readLine_led {keyword : String} {node : Node} {children : Children}
    (leads : keyword ∈ leading) (trimmed : Text.Trimmed text)
    (read : readKeyword number keyword text = .ok (.node node children)) :
    readLine number (led keyword text) lines = .ok (node, children, ⟨lines, List.suffix_refl _⟩) :=
  readLine_node (readForm_led leads trimmed read)

theorem IsName.trimmed {name : String} (valid : IsName name) : Text.Trimmed name.toList :=
  .of_word valid.nonempty valid.word

theorem IsPath.trimmed {path : String} (valid : IsPath path) : Text.Trimmed path.toList :=
  .of_solid valid.nonempty valid.solid

end Leads

section Heads

variable (layout : Layout) (number : Nat) (lines : List Line) {node : Node}

/-- The line of a node is read as the node without its blocks. -/
theorem readLine_head (printable : node.Printable) :
    readLine number (layout.head number node) lines =
      .ok (node.bare number, node.children, ⟨lines, List.suffix_refl _⟩) := by
  have trimmed := (layout.phrase number).trimmed
  have plain := (layout.phrase number).plain
  cases node with
  | tag name attributes block =>
    obtain ⟨⟨valid, printable⟩, _⟩ := printable
    exact readLine_tag (readTag_printed valid printable number lines)
  | call name attributes block =>
    obtain ⟨⟨valid, printable⟩, _⟩ := printable
    have start : Text.trimStart (name.toList ++ printCallGroup attributes) =
        name.toList ++ printCallGroup attributes :=
      Text.trimStart_of_head? fun c head => Text.isBlank_of_isWord (valid.head?_append head)
    have read := readCall_printed valid printable number lines
    rw [← start] at read
    exact readLine_call read
  | conditional => exact readLine_led (by decide) trimmed rfl
  | each => exact readLine_led (by decide) trimmed rfl
  | loop => exact readLine_led (by decide) trimmed rfl
  | case => exact readLine_led (by decide) trimmed rfl
  | doctype => exact readLine_led (by decide) trimmed rfl
  | when =>
    refine readLine_when (readForm_led (by decide) trimmed ?_)
    rw [readKeyword, afterColon?_eq_none plain.1]
    rfl
  | mixin name block =>
    obtain ⟨valid, _⟩ := printable
    have split := @splitMixinName?_of_isName name [] valid (by simp)
    rw [List.append_nil] at split
    refine readLine_led (by decide) valid.trimmed ?_
    rw [readKeyword, split]
    rfl
  | named name block =>
    obtain ⟨valid, _⟩ := printable
    refine readLine_node (readForm_keyword (head?_led (by decide) _)
      (splitKeyword?_block valid) ?_)
    rw [trim_gap valid.trimmed, readKeyword, String.ofList_toList]
    rfl
  | «include» path line =>
    have unfiltered : includePath path.toList = path.toList := by
      unfold includePath
      split
      · next filtered => exact absurd (by rw [filtered]; rfl) printable.unfiltered
      · rfl
    refine readLine_led (by decide) (IsPath.trimmed printable) ?_
    simp only [readKeyword, unfiltered]
    split
    · next empty => exact absurd empty printable.nonempty
    · rw [String.ofList_toList]
      rfl
  | inherits path =>
    refine readLine_led (by decide) (IsPath.trimmed printable) ?_
    rw [readKeyword, String.ofList_toList]
    rfl
  | text =>
    have untagged : '#' ∉ ' ' :: (layout.phrase number).text :=
      List.not_mem_cons_of_ne_of_not_mem (by decide) plain.2
    exact readLine_text untagged rfl
  | comment => exact readLine_node rfl
  | code =>
    have some : Text.trim (' ' :: (layout.phrase number).text) ≠ [] := by
      rw [trim_gap trimmed]
      exact trimmed.nonempty
    exact readLine_node (readForm_code some)
  | group => contradiction

/-- No line of a node is taken for a branch of the node before it. -/
theorem elseBranch?_head (printable : node.Printable) :
    elseBranch? (layout.head number node) = none := by
  cases node with
  | tag name attributes block =>
    refine elseBranch?_of_isName printable.1.1 fun c head => ?_
    rw [head?_printGroup head]
    decide
  | group => contradiction
  | _ => rfl

theorem trimmed_led {word : String} {text : List Char} (lead : Text.Trimmed word.toList)
    (trimmed : Text.Trimmed text) : Text.Trimmed (led word text) :=
  lead.append [' '] (by decide) trimmed

theorem trimmed_symbol (c : Char) (solid : Text.isBlank c = false) : Text.Trimmed [c] :=
  .of_solid (by simp) fun c' member => List.mem_singleton.1 member ▸ solid

theorem newline_not_mem_spell {attributes : List Attribute}
    (printable : ∀ attr ∈ attributes, attr.Printable) :
    '\n' ∉ printAttributes [] (spell attributes) :=
  newline_not_mem_printAttributes (spell_readable printable) (by simp [spell]) (by simp)

theorem trimmed_group {text : List Char} {attributes : List Attribute}
    (trimmed : Text.Trimmed text) (printable : ∀ attr ∈ attributes, attr.Printable) :
    Text.Trimmed (text ++ printGroup attributes) := by
  rw [printGroup]
  split
  · rwa [List.append_nil]
  · refine trimmed.append ('(' :: _) ?_ (trimmed_symbol ')' rfl)
    simpa using newline_not_mem_spell printable

theorem trimmed_callGroup {text : List Char} {attributes : List Attribute}
    (trimmed : Text.Trimmed text) (printable : ∀ attr ∈ attributes, attr.Printable) :
    Text.Trimmed (text ++ printCallGroup attributes) := by
  rw [printCallGroup]
  split
  · rwa [List.append_nil]
  · have arguments : Text.Trimmed (text ++ (['('] ++ [')'])) :=
      trimmed.append ['('] (by decide) (trimmed_symbol ')' rfl)
    simpa using trimmed_group arguments printable

/-- The line of a node is one line, without white space around it. -/
theorem trimmed_head (printable : node.Printable) : Text.Trimmed (layout.head number node) := by
  have trimmed := (layout.phrase number).trimmed
  have solid : ∀ word ∈ ["if", "each", "while", "case", "when", "mixin", "include", "extends",
      "doctype", "block", "-", "|", "//"],
      word.toList ≠ [] ∧ word.toList.any Text.isBlank = false := by decide
  have lead {word : String} (listed) : Text.Trimmed word.toList :=
    .of_any (solid word listed).1 (solid word listed).2
  cases node with
  | tag name attributes block => exact trimmed_group printable.1.1.trimmed printable.1.2
  | call name attributes block =>
    have call := trimmed_callGroup printable.1.1.trimmed printable.1.2
    exact (trimmed_symbol '+' rfl).append [] (by simp) call
  | «include» | inherits => exact trimmed_led (lead (by simp)) (IsPath.trimmed printable)
  | mixin | named => exact trimmed_led (lead (by simp)) printable.1.trimmed
  | group => contradiction
  | _ => exact trimmed_led (lead (by simp)) trimmed

/-- The line of a further condition is a branch of the node before it. -/
theorem elseBranch?_elseIf {text : List Char} (trimmed : Text.Trimmed text) :
    elseBranch? (led "else if" text) = some true := by
  have condition : Text.Trimmed (led "if" text) :=
    trimmed_led (.of_any (by decide) (by decide)) trimmed
  have after : afterWord? "else" (led "else if" text) = some (' ' :: led "if" text) := rfl
  rw [elseBranch?, after, Option.map_some, trim_gap condition]
  rfl

theorem trimmed_else : Text.Trimmed "else".toList := .of_any (by decide) (by decide)

theorem trimmed_elseIf {text : List Char} (trimmed : Text.Trimmed text) :
    Text.Trimmed (led "else if" text) :=
  trimmed_else.append " if ".toList (by decide) trimmed

end Heads

end Querymap.Pug
