import Querymap.Pug.Head

/-! The forms of a line. A form still holds the text of nodes that stand on the same line. -/
namespace Querymap.Pug

/-- What a line makes of the deeper lines below it. -/
inductive Children
  | block
  /-- Lines that hold no tags. -/
  | raw
  /-- Text with tags in it. -/
  | prose
  | none
deriving DecidableEq

/-- What follows the attributes of a tag. -/
inductive Tail
  | empty
  /-- A dot: the lines below are text. -/
  | dot
  | prose (text : List Char)
  | expansion (text : List Char)
deriving DecidableEq

inductive Form
  | node (node : Node) (children : Children)
  | prose (text : List Char)
  | when (expansion : Option (List Char))
  | call (name : String) (attributes : List Attribute) (expansion : Option (List Char))
  | tag (name : String) (attributes : List Attribute) (tail : Tail)

/-- Twice the text that is left to read, and one more where a whole line is to be read from it. -/
def Form.reach : Form → Nat
  | .node .. | .when none | .call _ _ none | .tag _ _ .empty | .tag _ _ .dot => 0
  | .prose text | .tag _ _ (.prose text) => 2 * text.length
  | .when (some text) | .call _ _ (some text) | .tag _ _ (.expansion text) => 2 * text.length + 1

def keywords : List String := [
  "if", "unless", "else if", "else", "each", "for", "while", "case", "when", "default",
  "block append", "block prepend", "block", "append", "prepend", "mixin", "include", "extends",
  "extend", "doctype"]

/-- The first keyword that leads a text and ends with a word, and the text after it. -/
def splitKeyword? (text : List Char) : Option (String × List Char) :=
  keywords.findSome? fun keyword =>
    match Text.dropStart? keyword.toList text with
    | some rest => if rest.head?.any Text.isWord then none else some (keyword, rest)
    | none => none

/-- The text after the first `: `. -/
def afterColon? : List Char → Option (List Char)
  | [] => none
  | ':' :: ' ' :: rest => some rest
  | _ :: rest => afterColon? rest

def splitMixinName? (text : List Char) : Option (String × List Char) :=
  match text.takeWhile isIdChar with
  | [] => none
  | name => some (String.ofList name, text.dropWhile isIdChar)

/-- The path of an include; a filter may stand before it. -/
def includePath (rest : List Char) : List Char :=
  match rest with
  | ':' :: filtered => Text.trim (filtered.dropWhile (!Text.isBlank ·))
  | _ => rest

def readKeyword (number : Nat) (keyword : String) (rest : List Char) : Except ParseError Form :=
  match keyword with
  | "if" | "unless" => .ok (.node (.conditional [] .none) .block)
  | "each" | "for" => .ok (.node (.each [] none) .block)
  | "while" => .ok (.node (.loop []) .block)
  | "case" => .ok (.node (.case []) .block)
  | "when" | "default" => .ok (.when ((afterColon? rest).map Text.trim))
  | "block" | "block append" | "block prepend" | "append" | "prepend" =>
    .ok (.node (.named (String.ofList rest) []) .block)
  | "mixin" =>
    match splitMixinName? rest with
    | some (name, _) => .ok (.node (.mixin name []) .block)
    | none => .error ⟨number, .unnamedMixin⟩
  | "include" =>
    match includePath rest with
    | [] => .error ⟨number, .missingIncludePath⟩
    | path => .ok (.node (.include (String.ofList path) number) .none)
  | "extends" | "extend" => .ok (.node (.inherits (String.ofList rest)) .none)
  | "doctype" => .ok (.node .doctype .none)
  | _ => .error ⟨number, .unexpectedKeyword keyword⟩

/-- Arguments of a call, in parentheses, are skipped. -/
def skipArguments (number : Nat) (head : List Char) (lines : List Line) :
    Except ParseError (List Char × List Char × Rest lines) :=
  if head.head? = some '(' then readParentheses number head lines
  else .ok ([], head, ⟨lines, List.suffix_refl _⟩)

def expansion (number : Nat) (text : List Char) : Except ParseError (List Char) :=
  match Text.trim text with
  | [] => .error ⟨number, .missingExpansion⟩
  | text => .ok text

/-- A call of a mixin: arguments, then attributes, then perhaps an expansion. -/
def readCall (number : Nat) (text : List Char) (lines : List Line) :
    Except ParseError (Form × Rest lines) :=
  match splitMixinName? text with
  | none => .error ⟨number, .unnamedCall⟩
  | some (name, head) =>
    match skipArguments number head lines with
    | .error error => .error error
    | .ok (_, head, rest) =>
      match skipArguments number head rest.1 with
      | .error error => .error error
      | .ok (inner, tail, rest') =>
        let rest' : Rest lines := ⟨rest'.1, suffix_of_rest rest rest'⟩
        let form := Form.call name (readAttributes inner)
        match Text.trimStart tail with
        | ':' :: text => (expansion number text).map fun text => (form (some text), rest')
        | _ => .ok (form none, rest')

def withoutSlash : List Char → List Char
  | '/' :: rest => rest
  | text => text

/-- What the text after the attributes of a tag means. -/
def readTail (number : Nat) (text : List Char) : Except ParseError Tail :=
  match text with
  | [] | '=' :: _ | '!' :: '=' :: _ => .ok .empty
  | ['.'] => .ok .dot
  | ':' :: rest => (expansion number rest).map .expansion
  | c :: _ =>
    if Text.isBlank c then .ok (.prose text)
    else .error ⟨number, .unexpectedText (String.ofList text)⟩

/-- A tag; shorthands alone stand for a `div`. -/
def readTag (number : Nat) (text : List Char) (lines : List Line) :
    Except ParseError (Form × Rest lines) :=
  let named := (splitTagName? text).getD ("div".toList, text)
  match readTagAttributes number named.2 lines with
  | .error error => .error error
  | .ok (attributes, tail, rest) =>
    (readTail number (withoutSlash tail)).map fun tail =>
      (.tag (String.ofList named.1) attributes tail, rest)

def readForm (number : Nat) (text : List Char) (lines : List Line) :
    Except ParseError (Form × Rest lines) :=
  let plain (form : Form) : Form × Rest lines := (form, ⟨lines, List.suffix_refl _⟩)
  match text with
  | '/' :: '/' :: _ => .ok (plain (.node .comment .raw))
  | '|' :: piped => .ok (plain (.prose piped))
  | '<' :: _ | '#' :: '[' :: _ | '#' :: '{' :: _ => .ok (plain (.prose text))
  | ':' :: _ => .ok (plain (.node .text .raw))
  | '-' :: code =>
    .ok (plain (.node (.code []) (if (Text.trim code).isEmpty then .raw else .block)))
  | '=' :: _ | '!' :: '=' :: _ => .ok (plain (.node (.code []) .none))
  | '+' :: call => readCall number (Text.trimStart call) lines
  | _ =>
    match splitKeyword? text with
    | some (keyword, rest) => (readKeyword number keyword (Text.trim rest)).map plain
    | none =>
      if text.head? = some '#' || text.head? = some '.' || (splitTagName? text).isSome then
        readTag number text lines
      else .error ⟨number, .unexpectedText (String.ofList text)⟩

theorem dropEndWhile_length (p : Char → Bool) (text : List Char) :
    (Text.dropEndWhile p text).length ≤ text.length := by
  induction text with
  | nil => simp [Text.dropEndWhile]
  | cons c rest ih =>
    simp only [Text.dropEndWhile, List.foldr_cons] at ih ⊢
    split
    · simp
    · simpa using ih

theorem trim_length (text : List Char) : (Text.trim text).length ≤ text.length :=
  Nat.le_trans (dropEndWhile_length _ _) (length_dropWhile_le _ _)

theorem afterColon?_length {text rest : List Char} (h : afterColon? text = some rest) :
    rest.length < text.length := by
  fun_induction afterColon? text with
  | case1 => contradiction
  | case2 after => cases h; simp only [List.length_cons]; omega
  | case3 c after _ ih => exact Nat.lt_succ_of_lt (ih h)

theorem splitKeyword?_length {text rest : List Char} {keyword : String}
    (h : splitKeyword? text = some (keyword, rest)) : rest.length ≤ text.length := by
  obtain ⟨candidate, _, found⟩ := List.exists_of_findSome?_eq_some h
  split at found
  · next after dropped =>
    split at found
    · contradiction
    · cases found
      exact dropStart?_length dropped
  · contradiction

theorem splitMixinName?_length {text rest : List Char} {name : String}
    (h : splitMixinName? text = some (name, rest)) : rest.length ≤ text.length := by
  unfold splitMixinName? at h
  split at h
  · contradiction
  · cases h
    exact length_dropWhile_le _ _

theorem expansion_length {number : Nat} {text inner : List Char}
    (h : expansion number text = .ok inner) : inner.length ≤ text.length := by
  have := trim_length text
  unfold expansion at h
  split at h
  · contradiction
  · cases h
    assumption

theorem skipArguments_le {number : Nat} {head inner tail : List Char} {lines : List Line}
    {rest : Rest lines} (h : skipArguments number head lines = .ok (inner, tail, rest)) :
    tail.length + weight rest ≤ head.length + weight lines := by
  unfold skipArguments at h
  split at h
  · exact Nat.le_of_lt (readParentheses_smaller h)
  · cases h
    exact Nat.le_refl _

theorem readKeyword_reach {number : Nat} {keyword : String} {rest : List Char} {form : Form}
    (h : readKeyword number keyword rest = .ok form) : form.reach ≤ 2 * rest.length := by
  unfold readKeyword at h
  split at h
  case h_7 | h_8 =>
    cases h
    cases found : afterColon? rest with
    | none => simp [Form.reach]
    | some text =>
      have := afterColon?_length found
      have := trim_length text
      simp only [Option.map_some, Form.reach]
      omega
  all_goals first
    | contradiction
    | (cases h; simp only [Form.reach]; omega)
    | (split at h <;> cases h; simp only [Form.reach]; omega)

theorem readTail_reach {number : Nat} {text : List Char} {tail : Tail} (name : String)
    (attributes : List Attribute) (h : readTail number text = .ok tail) :
    (Form.tag name attributes tail).reach ≤ 2 * text.length := by
  unfold readTail at h
  split at h
  · cases h; simp [Form.reach]
  · cases h; simp [Form.reach]
  · cases h; simp [Form.reach]
  · cases h; simp [Form.reach]
  · obtain ⟨inner, found, same⟩ := map_eq_ok h
    cases same
    have := expansion_length found
    simp only [Form.reach, List.length_cons]
    omega
  · split at h <;> cases h
    simp [Form.reach]

/-- The characters that nested nodes may still take. -/
def room (text : List Char) (lines : List Line) : Nat := text.length + weight lines

theorem readCall_reach {number : Nat} {text : List Char} {lines : List Line} {form : Form}
    {rest : Rest lines} (h : readCall number text lines = .ok (form, rest)) :
    form.reach + 2 * weight rest ≤ 2 * room text lines := by
  unfold readCall at h
  split at h
  · contradiction
  · next name head named =>
    have := splitMixinName?_length named
    split at h
    · contradiction
    · next first =>
      have := skipArguments_le first
      split at h
      · contradiction
      · next inner tail rest' second =>
        have := skipArguments_le second
        have := length_dropWhile_le Text.isBlank tail
        simp only [Text.trimStart] at h
        split at h
        · next text' colon =>
          obtain ⟨inner, found, same⟩ := map_eq_ok h
          cases same
          have := expansion_length found
          simp only [colon, List.length_cons] at *
          simp only [Form.reach, room]
          omega
        · cases h
          simp only [Form.reach, room]
          omega

theorem readTag_reach {number : Nat} {text : List Char} {lines : List Line} {form : Form}
    {rest : Rest lines} (h : readTag number text lines = .ok (form, rest)) :
    form.reach + 2 * weight rest ≤ 2 * room text lines := by
  unfold readTag at h
  have shorter : ((splitTagName? text).getD ("div".toList, text)).2.length ≤ text.length := by
    unfold splitTagName?
    split
    · simp
    · split
      · simp only [Option.getD_some, List.length_drop]
        omega
      · simp
  dsimp only at h
  split at h
  · contradiction
  · next attributes tail rest' found =>
    have := readTagAttributes_le found
    obtain ⟨inner, ended, same⟩ := map_eq_ok h
    cases same
    have := readTail_reach
      (String.ofList ((splitTagName? text).getD ("div".toList, text)).1) attributes ended
    have : (withoutSlash tail).length ≤ tail.length := by
      unfold withoutSlash
      split <;> simp
    simp only [room]
    omega

theorem readForm_reach {number : Nat} {text : List Char} {lines : List Line} {form : Form}
    {rest : Rest lines} (h : readForm number text lines = .ok (form, rest)) :
    form.reach + 2 * weight rest < 2 * room text lines + 1 := by
  unfold readForm at h
  dsimp only at h
  split at h
  case h_10 call =>
    have := readCall_reach h
    have := length_dropWhile_le Text.isBlank call
    simp only [room, Text.trimStart, List.length_cons] at *
    omega
  case h_11 =>
    split at h
    · next keyword after found =>
      obtain ⟨_, read, same⟩ := map_eq_ok h
      cases same
      have := readKeyword_reach read
      have := splitKeyword?_length found
      have := trim_length after
      simp only [room] at *
      omega
    · split at h
      · have := readTag_reach h
        omega
      · contradiction
  all_goals
    cases h
    simp only [Form.reach, room, List.length_cons]
    omega

end Querymap.Pug
