import Querymap.Proofs.Pug.Brackets
import Querymap.Proofs.Text.Trim
import Querymap.Pug.Head

/-! Attribute lists written out and read again: quoted values, names, white space between the
attributes and the parentheses around the whole. -/
namespace Querymap.Pug

/-- A character of a quoted literal. -/
def escapeChar (quote c : Char) : List Char :=
  if c == '\\' || c == quote then ['\\', c]
  else if c == '\n' then ['\\', 'n']
  else if c == '\r' then ['\\', 'r']
  else [c]

def escape (quote : Char) (text : List Char) : List Char := text.flatMap (escapeChar quote)

def quoted (quote : Char) (text : List Char) : List Char := quote :: (escape quote text ++ [quote])

/-- Quotes of literals that embed nothing. -/
def IsPlainQuote (quote : Char) : Prop := quote = '"' ∨ quote = '\''

theorem IsPlainQuote.isQuote {quote : Char} (plain : IsPlainQuote quote) : isQuote quote = true := by
  rcases plain with rfl | rfl <;> rfl

theorem IsPlainQuote.isBlank {quote : Char} (plain : IsPlainQuote quote) :
    Text.isBlank quote = false := by
  rcases plain with rfl | rfl <;> rfl

/-- Characters that stand for themselves in the name of an attribute, wherever they are in it. -/
def inBareName (c : Char) : Bool := inAttributeName c && !isQuote c && !isOpening c && !isClosing c

def Value.isPrintable : Value → Bool
  | .literal _ | .boolean => true
  | .expression _ => false

/-- An attribute with a bare name and no expression. -/
structure Attribute.Printable (attr : Attribute) : Prop where
  named : attr.name.toList ≠ []
  bare : ∀ c ∈ attr.name.toList, inBareName c = true
  value : attr.value.isPrintable = true

instance (attr : Attribute) : Decidable attr.Printable :=
  decidable_of_iff (attr.name.toList ≠ [] ∧ attr.name.toList.all inBareName = true ∧
    attr.value.isPrintable = true)
    ⟨fun ⟨named, bare, value⟩ => ⟨named, List.all_eq_true.1 bare, value⟩,
      fun ⟨named, bare, value⟩ => ⟨named, List.all_eq_true.2 bare, value⟩⟩

def Value.print (quote : Char) : Value → List Char
  | .literal text => '=' :: quoted quote text.toList
  | .expression text => '=' :: text.toList
  | .boolean => []

def Attribute.print (quote : Char) (attr : Attribute) : List Char :=
  attr.name.toList ++ attr.value.print quote

/-- An attribute with the white space before it and the quotes around its value. -/
structure Spelled where
  gap : List Char
  quote : Char
  attr : Attribute

structure Spelled.Readable (spelled : Spelled) : Prop where
  gap : ∀ c ∈ spelled.gap, Text.isBlank c = true
  quote : IsPlainQuote spelled.quote
  attr : spelled.attr.Printable

/-- Attributes with commas between them and white space after the last one. -/
def printAttributes (last : List Char) : List Spelled → List Char
  | [] => last
  | [spelled] => spelled.gap ++ spelled.attr.print spelled.quote ++ last
  | spelled :: others =>
    spelled.gap ++ spelled.attr.print spelled.quote ++ ',' :: printAttributes last others

section Literals

variable {quote : Char} {text raw content after : List Char}

theorem isBlank_of_isQuote (quotes : isQuote quote = true) : Text.isBlank quote = false := by
  rcases isQuote_iff.1 quotes with rfl | rfl | rfl <;> rfl

theorem isOperator_of_isQuote (quotes : isQuote quote = true) : isOperator quote = false := by
  rcases isQuote_iff.1 quotes with rfl | rfl | rfl <;> decide

theorem ne_comma_of_isQuote (quotes : isQuote quote = true) : quote ≠ ',' := by
  rintro rfl
  contradiction

/-- Text behind a literal is left over when the literal is read. -/
theorem unquote_append (quotes : isQuote quote = true)
    (closed : unquote quote text = some (content, after)) (rest : List Char) :
    unquote quote (text ++ rest) = some (content, after ++ rest) := by
  have apart := ne_backslash_of_isQuote quotes
  fun_induction unquote quote text generalizing content with
  | case1 => contradiction
  | case2 c text letter =>
    rename_i ih
    obtain ⟨⟨content', _⟩, closed, same⟩ := Option.map_eq_some_iff.1 closed
    cases same
    change (unquote quote (text ++ rest)).map _ = _
    rw [ih closed]
    rfl
  | case3 c text escapes ends =>
    cases closed
    obtain rfl := beq_iff_eq.1 ends
    simp [unquote, apart]
  | case4 => contradiction
  | case5 c text escapes ends plain ih =>
    obtain ⟨⟨content', _⟩, closed, same⟩ := Option.map_eq_some_iff.1 closed
    cases same
    simp only [beq_iff_eq] at ends plain
    simp [unquote, ih closed, ends, plain]

/-- Inside quotes a value goes on to the closing quote. -/
theorem splitValue_unquote (quotes : isQuote quote = true)
    (closed : unquote quote text = some (content, [])) (previous : Option Char) (rest : List Char) :
    splitValue ⟨0, some quote, false⟩ previous (text ++ rest) =
      (text ++ (splitValue {} (some quote) rest).1, (splitValue {} (some quote) rest).2) := by
  fun_induction unquote quote text generalizing content previous with
  | case1 => contradiction
  | case2 c text letter =>
    rename_i ih
    obtain ⟨⟨content', _⟩, closed, same⟩ := Option.map_eq_some_iff.1 closed
    cases same
    simp [splitValue, Nesting.next, Nesting.quoted, ih closed]
  | case3 c text escapes ends =>
    cases closed
    have closes : (⟨0, some quote, false⟩ : Nesting).next quote = {} := by
      simp [Nesting.next, Nesting.quoted, ne_backslash_of_isQuote quotes]
    simp [splitValue, beq_iff_eq.1 ends, closes, isBlank_of_isQuote quotes]
  | case4 => contradiction
  | case5 c text escapes ends plain ih =>
    obtain ⟨⟨content', _⟩, closed, same⟩ := Option.map_eq_some_iff.1 closed
    cases same
    simp only [beq_iff_eq] at ends plain
    simp [splitValue, Nesting.next, Nesting.quoted, ih closed, ends, plain]

theorem stringLiteral?_eq_some (literal : stringLiteral? raw = some content) :
    ∃ quote inner, raw = quote :: inner ∧ isQuote quote = true ∧
      unquote quote inner = some (content, []) := by
  cases raw with
  | nil => contradiction
  | cons quote inner =>
    rw [stringLiteral?] at literal
    split at literal
    · next quotes =>
      split at literal
      · next text closed =>
        split at literal
        · contradiction
        · cases literal
          exact ⟨quote, inner, rfl, quotes, closed⟩
      · contradiction
    · contradiction

/-- Nothing may stand behind a literal. -/
theorem stringLiteral?_append (literal : stringLiteral? raw = some content) (c : Char)
    (rest : List Char) : stringLiteral? (raw ++ c :: rest) = none := by
  obtain ⟨quote, inner, rfl, quotes, closed⟩ := stringLiteral?_eq_some literal
  simp [stringLiteral?, quotes, unquote_append quotes closed]

/-- A literal ends with its closing quote. -/
theorem unquote_getLast? (closed : unquote quote text = some (content, [])) :
    text.getLast? = some quote := by
  fun_induction unquote quote text generalizing content with
  | case1 => contradiction
  | case2 c text letter =>
    rename_i ih
    obtain ⟨⟨content', _⟩, closed, same⟩ := Option.map_eq_some_iff.1 closed
    cases same
    simp [List.getLast?_cons, ih closed]
  | case3 c text escapes ends =>
    cases closed
    rw [beq_iff_eq.1 ends]
    rfl
  | case4 => contradiction
  | case5 c text escapes ends plain ih =>
    obtain ⟨⟨content', _⟩, closed, same⟩ := Option.map_eq_some_iff.1 closed
    cases same
    simp [List.getLast?_cons, ih closed]

/-- Every literal is a value; there is no white space around it. -/
theorem readValue_literal (literal : stringLiteral? raw = some content) :
    readValue raw = .literal (String.ofList content) := by
  have trimmed : Text.trim raw = raw := by
    obtain ⟨quote, inner, rfl, quotes, closed⟩ := stringLiteral?_eq_some literal
    have solid := isBlank_of_isQuote quotes
    rw [Text.trim, Text.trimStart, List.dropWhile_cons_of_neg (by simp [solid])]
    refine Text.dropEndWhile_of_getLast? fun c last => ?_
    rw [List.getLast?_cons, unquote_getLast? closed] at last
    cases last
    exact solid
  simp [readValue, trimmed, literal]

theorem splitValue_previous (nesting : Nesting) {previous previous' : Option Char}
    (same : previous.any isOperator = previous'.any isOperator) (text : List Char) :
    splitValue nesting previous text = splitValue nesting previous' text := by
  induction text generalizing nesting previous previous' with
  | nil => rfl
  | cons c rest ih =>
    simp only [splitValue, same]
    split
    · rfl
    · split
      · rw [ih _ same]
      · rfl

/-- A value goes on behind a literal as it would without what is before the literal's end. -/
theorem splitValue_literal (literal : stringLiteral? raw = some content) {previous : Option Char}
    (rest : List Char) : splitValue {} previous (raw ++ rest) =
      (raw ++ (splitValue {} none rest).1, (splitValue {} none rest).2) := by
  obtain ⟨quote, inner, rfl, quotes, closed⟩ := stringLiteral?_eq_some literal
  have opens : ({} : Nesting).next quote = ⟨0, some quote, false⟩ := by
    simp [Nesting.next, quotes]
  have operator : (some quote).any isOperator = (none : Option Char).any isOperator :=
    isOperator_of_isQuote quotes
  simp [splitValue, opens, isBlank_of_isQuote quotes, ne_comma_of_isQuote quotes,
    splitValue_unquote quotes closed, splitValue_previous {} operator]

end Literals

section Values

variable {quote : Char}

/-- Reading a literal undoes its escapes and stops behind the closing quote. -/
theorem unquote_escape (plain : IsPlainQuote quote) (text rest : List Char) :
    unquote quote (escape quote text ++ quote :: rest) = some (text, rest) := by
  induction text with
  | nil => rcases plain with rfl | rfl <;> rfl
  | cons c text ih =>
    rw [escape, List.flatMap_cons, List.append_assoc]
    change unquote quote (escapeChar quote c ++ (escape quote text ++ quote :: rest)) = _
    by_cases escaped : c = '\\' ∨ c = quote
    · have letters : c ≠ 'n' ∧ c ≠ 't' ∧ c ≠ 'r' := by
        rcases escaped with rfl | rfl
        · decide
        · rcases plain with rfl | rfl <;> decide
      have : escapeChar quote c = ['\\', c] := by simp [escapeChar, escaped]
      rw [this]
      simp [unquote, ih, letters]
    · obtain ⟨backslash, apart⟩ := not_or.1 escaped
      by_cases newline : c = '\n'
      · have : escapeChar quote c = ['\\', 'n'] := by
          simp [escapeChar, newline ▸ apart, newline]
        rw [this]
        simp [unquote, ih, newline]
      · by_cases carriage : c = '\r'
        · have : escapeChar quote c = ['\\', 'r'] := by
            simp [escapeChar, carriage ▸ apart, carriage]
          rw [this]
          simp [unquote, ih, carriage]
        · have : escapeChar quote c = [c] := by
            simp [escapeChar, backslash, apart, newline, carriage]
          rw [this]
          simp [unquote, ih, backslash, apart]

theorem stringLiteral?_quoted (plain : IsPlainQuote quote) (text : List Char) :
    stringLiteral? (quoted quote text) = some text := by
  have apart : (quote == '\x60') = false := by rcases plain with rfl | rfl <;> rfl
  simp [stringLiteral?, quoted, plain.isQuote, unquote_escape plain text [], apart]

theorem readValue_quoted (plain : IsPlainQuote quote) (text : List Char) :
    readValue (quoted quote text) = .literal (String.ofList text) :=
  readValue_literal (stringLiteral?_quoted plain text)

/-- What may follow an attribute: white space up to the end, or a comma. -/
def Ending (tail : List Char) : Prop :=
  (∀ c ∈ tail, Text.isBlank c = true) ∨ ∃ rest, tail = ',' :: rest

theorem Ending.splitValue {tail : List Char} (ending : Ending tail) :
    splitValue {} none tail = ([], tail) := by
  cases tail with
  | nil => rfl
  | cons c rest =>
    rcases ending with blank | ⟨rest, same⟩
    · have none : (c :: rest).find? (!Text.isBlank ·) = none := by
        simpa using blank
      simp [Pug.splitValue, none, blank c List.mem_cons_self]
    · cases same
      simp [Pug.splitValue]

/-- A quoted value ends behind its quotes. -/
theorem splitValue_quoted (plain : IsPlainQuote quote) (text : List Char) {tail : List Char}
    (ending : Ending tail) : splitValue {} none (quoted quote text ++ tail) =
      (quoted quote text, tail) := by
  rw [splitValue_literal (stringLiteral?_quoted plain text), ending.splitValue, List.append_nil]

end Values

section Lists

/-- The name of an attribute ends where the name does that was written. -/
theorem splitAttributeName_bare {name tail : List Char} (named : name ≠ [])
    (bare : ∀ c ∈ name, inBareName c = true) (ends : ∀ c ∈ tail.head?, inAttributeName c = false) :
    splitAttributeName (name ++ tail) = (name, tail) := by
  have inside : ∀ c ∈ name, inAttributeName c = true := by
    intro c member
    have := bare c member
    simp only [inBareName, Bool.and_eq_true] at this
    exact this.1.1.1
  have taken := Text.takeWhile_append_all inside ends
  have dropped := Text.dropWhile_append_all inside ends
  cases name with
  | nil => exact absurd rfl named
  | cons c rest =>
    have unquoted : ¬(c == '"' || c == '\'') = true := by
      have := bare c List.mem_cons_self
      intro quote
      rcases Bool.or_eq_true _ _ ▸ quote with same | same <;>
        rw [beq_iff_eq] at same <;> subst same <;> contradiction
    rw [List.cons_append] at taken dropped ⊢
    rw [splitAttributeName, if_neg unquoted, taken, dropped]

/-- White space and commas, which stand between attributes. -/
def isSeparator (c : Char) : Bool := Text.isBlank c || c == ','

variable {text start name after tail : List Char}

/-- Names do not begin with a separator. -/
theorem isSeparator_of_bare (named : name ≠ []) (bare : ∀ c ∈ name, inBareName c = true)
    (rest : List Char) : ∀ c ∈ (name ++ rest).head?, isSeparator c = false := by
  intro c head
  cases name with
  | nil => exact absurd rfl named
  | cons first name =>
    cases head
    have inside := bare c List.mem_cons_self
    simp only [inBareName, inAttributeName, Bool.and_eq_true, Bool.not_eq_true', bne_iff_ne] at inside
    simp [isSeparator, inside]

theorem readAttributes_separators (separators : ∀ c ∈ text, isSeparator c = true) :
    readAttributes text = [] := by
  have none : text.dropWhile isSeparator = [] := List.dropWhile_eq_nil_iff.2 separators
  rw [readAttributes]
  split
  · rfl
  · next found => exact absurd (none.symm.trans found) (by simp)

theorem readAttributes_boolean (starts : text.dropWhile isSeparator = start) (nonempty : start ≠ [])
    (split : splitAttributeName start = (name, tail)) (named : name ≠ [])
    (unassigned : afterAssignment? tail = none) :
    readAttributes text = ⟨String.ofList name, .boolean⟩ :: readAttributes tail := by
  rw [readAttributes]
  split
  · next none => exact absurd (starts.symm.trans none) nonempty
  · next c rest found =>
    obtain rfl : start = c :: rest := starts.symm.trans found
    dsimp only
    split
    · rw [dif_neg (by simpa only [split] using named), split]
    · next assigned =>
      rw [split, unassigned] at assigned
      cases assigned

theorem readAttributes_assigned {value raw : List Char} (starts : text.dropWhile isSeparator = start)
    (nonempty : start ≠ []) (split : splitAttributeName start = (name, after)) (named : name ≠ [])
    (assigned : afterAssignment? after = some value)
    (valued : splitValue {} none (value.dropWhile Text.isBlank) = (raw, tail)) :
    readAttributes text = ⟨String.ofList name, readValue raw⟩ :: readAttributes tail := by
  rw [readAttributes]
  split
  · next none => exact absurd (starts.symm.trans none) nonempty
  · next c rest found =>
    obtain rfl : start = c :: rest := starts.symm.trans found
    dsimp only
    split
    · next none =>
      rw [split, assigned] at none
      cases none
    · next found =>
      rw [split, assigned] at found
      cases found
      rw [if_neg (by simpa only [split] using named), split, valued]

theorem Ending.head {c : Char} (ending : Ending tail) (head : c ∈ tail.head?) :
    inAttributeName c = false := by
  rcases ending with blank | ⟨rest, rfl⟩
  · simp [inAttributeName, blank c (List.mem_of_mem_head? head)]
  · cases head
    rfl

theorem Ending.afterAssignment? (ending : Ending tail) : afterAssignment? tail = none := by
  rcases ending with blank | ⟨rest, rfl⟩
  · simp [Pug.afterAssignment?, List.dropWhile_eq_nil_iff.2 blank]
  · rfl

/-- The first attribute of a list, and the others behind it. -/
theorem readAttributes_attribute {gap : List Char} {quote : Char} {attr : Attribute}
    (separators : ∀ c ∈ gap, isSeparator c = true) (plain : IsPlainQuote quote)
    (printable : attr.Printable) (ending : Ending tail) :
    readAttributes (gap ++ (attr.print quote ++ tail)) = attr :: readAttributes tail := by
  obtain ⟨name, value⟩ := attr
  obtain ⟨named, bare, printable⟩ := printable
  have first := isSeparator_of_bare named bare
  cases value with
  | expression text => contradiction
  | boolean =>
    simp only [Attribute.print, Value.print, List.append_nil]
    rw [readAttributes_boolean (Text.dropWhile_append_all separators (first tail))
      (by simp [named]) (splitAttributeName_bare named bare fun c head => ending.head head) named
      ending.afterAssignment?, String.ofList_toList]
  | literal text =>
    simp only [Attribute.print, Value.print, List.append_assoc]
    have unspaced : (quoted quote text.toList ++ tail).dropWhile Text.isBlank =
        quoted quote text.toList ++ tail := by
      simp [quoted, plain.isBlank]
    rw [readAttributes_assigned (Text.dropWhile_append_all separators (first _))
      (by simp [named]) (splitAttributeName_bare named bare (by simp [inAttributeName])) named rfl
      (unspaced ▸ splitValue_quoted plain text.toList ending), readValue_quoted plain,
      String.ofList_toList, String.ofList_toList]

/-- A list that was written is read back; `before` is the separator before it, if any. -/
theorem readAttributes_print {attributes : List Spelled} {before last : List Char}
    (separators : ∀ c ∈ before, isSeparator c = true)
    (readable : ∀ spelled ∈ attributes, spelled.Readable)
    (blank : ∀ c ∈ last, Text.isBlank c = true) :
    readAttributes (before ++ printAttributes last attributes) = attributes.map (·.attr) := by
  have isSeparator_of_blank : ∀ {c}, Text.isBlank c = true → isSeparator c = true := by
    intro c blank
    rw [isSeparator, blank, Bool.true_or]
  induction attributes generalizing before with
  | nil =>
    refine readAttributes_separators fun c member => ?_
    rcases List.mem_append.1 member with before | after
    · exact separators c before
    · exact isSeparator_of_blank (blank c after)
  | cons spelled others ih =>
    obtain ⟨gap, plain, printable⟩ := readable spelled List.mem_cons_self
    have gaps : ∀ c ∈ before ++ spelled.gap, isSeparator c = true := by
      intro c member
      rcases List.mem_append.1 member with before | after
      · exact separators c before
      · exact isSeparator_of_blank (gap c after)
    cases others with
    | nil =>
      rw [printAttributes, List.append_assoc, ← List.append_assoc before,
        readAttributes_attribute gaps plain printable (.inl blank),
        readAttributes_separators fun c member => isSeparator_of_blank (blank c member)]
      rfl
    | cons next others =>
      have rest := @ih [','] (by simp [isSeparator])
        fun spelled member => readable spelled (List.mem_cons_of_mem _ member)
      rw [printAttributes, List.append_assoc, ← List.append_assoc before,
        readAttributes_attribute gaps plain printable (.inr ⟨_, rfl⟩)]
      · exact congrArg (spelled.attr :: ·) rest
      · simp

end Lists

section Groups

/-- An escaped character is itself, or some character behind a backslash. -/
theorem escapeChar_cases (quote c : Char) :
    (escapeChar quote c = [c] ∧ c ≠ '\\' ∧ c ≠ quote) ∨ ∃ x, escapeChar quote c = ['\\', x] := by
  unfold escapeChar
  split
  · exact .inr ⟨c, rfl⟩
  · next plain =>
    split
    · exact .inr ⟨'n', rfl⟩
    · split
      · exact .inr ⟨'r', rfl⟩
      · refine .inl ⟨rfl, ?_, ?_⟩ <;> rintro rfl <;> simp at plain

theorem Quotable.escape (quote : Char) (text : List Char) : Quotable quote (escape quote text) := by
  induction text with
  | nil => exact .nil
  | cons c text ih =>
    rw [Pug.escape, List.flatMap_cons]
    rcases escapeChar_cases quote c with ⟨same, backslash, apart⟩ | ⟨x, same⟩
    · rw [same]
      exact .plain apart backslash ih
    · rw [same]
      exact .escaped ih

theorem Inert.quoted {quote : Char} (plain : IsPlainQuote quote) (text : List Char) :
    Inert (quoted quote text) :=
  .literal plain.isQuote (.escape quote text)

theorem isPlain_of_isBlank {c : Char} (blank : Text.isBlank c = true) : IsPlain c :=
  .of_class (by decide) blank

theorem Inert.of_blank {text : List Char} (blank : ∀ c ∈ text, Text.isBlank c = true) :
    Inert text :=
  .of_plain fun c member => isPlain_of_isBlank (blank c member)

theorem Inert.print {attr : Attribute} {quote : Char} (plain : IsPlainQuote quote)
    (printable : attr.Printable) : Inert (attr.print quote) := by
  obtain ⟨name, value⟩ := attr
  obtain ⟨_, bare, printable⟩ := printable
  have inert : Inert name.toList := by
    refine .of_plain fun c member => ?_
    have := bare c member
    simp only [inBareName, Bool.and_eq_true, Bool.not_eq_true'] at this
    exact ⟨this.1.1.2, this.1.2, this.2⟩
  refine inert.append ?_
  cases value with
  | expression text => contradiction
  | boolean => exact .nil
  | literal text =>
    have sign : Inert ['='] := .of_plain (List.forall_mem_singleton.2 ⟨rfl, rfl, rfl⟩)
    exact sign.append (.quoted plain text.toList)

theorem Inert.printAttributes {attributes : List Spelled} {last : List Char}
    (readable : ∀ spelled ∈ attributes, spelled.Readable)
    (blank : ∀ c ∈ last, Text.isBlank c = true) : Inert (printAttributes last attributes) := by
  induction attributes with
  | nil => exact .of_blank blank
  | cons spelled others ih =>
    obtain ⟨gap, plain, printable⟩ := readable spelled List.mem_cons_self
    have inert := (Inert.of_blank gap).append (.print plain printable)
    cases others with
    | nil => exact inert.append (.of_blank blank)
    | cons next others =>
      have comma : Inert [','] := .of_plain (List.forall_mem_singleton.2 ⟨rfl, rfl, rfl⟩)
      have rest := ih fun spelled member => readable spelled (List.mem_cons_of_mem _ member)
      exact inert.append (comma.append rest)

theorem matchingBracket?_group {inner : List Char} (inert : Inert inner) (tail : List Char) :
    matchingBracket? ')' ('(' :: (inner ++ ')' :: tail)) = some (inner.length + 1) :=
  matchingBracket?_enclosed inert rfl rfl tail

/-- A group of inert text ends at its closing parenthesis. -/
theorem readParentheses_group {inner : List Char} (inert : Inert inner) (number : Nat)
    (tail : List Char) (lines : List Line) :
    readParentheses number ('(' :: (inner ++ ')' :: tail)) lines =
      .ok (inner, tail, ⟨lines, List.suffix_refl _⟩) := by
  rw [readParentheses.eq_def, matchingBracket?_group inert]
  simp

end Groups

section OneLine

variable {quote : Char}

theorem newline_not_mem_escapeChar (plain : IsPlainQuote quote) (c : Char) :
    '\n' ∉ escapeChar quote c := by
  unfold escapeChar
  split
  · next escaped =>
    have : c ≠ '\n' := by
      rintro rfl
      rcases plain with rfl | rfl <;> contradiction
    simpa using this.symm
  · split
    · decide
    · next other =>
      split
      · decide
      · exact fun same => other (beq_iff_eq.2 (List.mem_singleton.1 same).symm)

theorem newline_not_mem_quoted (plain : IsPlainQuote quote) (text : List Char) :
    '\n' ∉ quoted quote text := by
  have apart : quote ≠ '\n' := by rcases plain with rfl | rfl <;> decide
  have escaped : '\n' ∉ escape quote text := by
    intro newline
    obtain ⟨c, _, inside⟩ := List.mem_flatMap.1 newline
    exact newline_not_mem_escapeChar plain c inside
  simp [quoted, apart.symm, escaped]

/-- Attributes on one line stay on it: line ends in values are escaped. -/
theorem newline_not_mem_print {attr : Attribute} (plain : IsPlainQuote quote)
    (printable : attr.Printable) : '\n' ∉ attr.print quote := by
  obtain ⟨name, value⟩ := attr
  obtain ⟨_, bare, printable⟩ := printable
  have named : '\n' ∉ name.toList := by
    intro newline
    have := bare '\n' newline
    contradiction
  cases value with
  | expression text => contradiction
  | boolean => simpa [Attribute.print, Value.print] using named
  | literal text =>
    simp [Attribute.print, Value.print, named, newline_not_mem_quoted plain]

theorem newline_not_mem_printAttributes {attributes : List Spelled} {last : List Char}
    (readable : ∀ spelled ∈ attributes, spelled.Readable)
    (gaps : ∀ spelled ∈ attributes, '\n' ∉ spelled.gap) (ends : '\n' ∉ last) :
    '\n' ∉ printAttributes last attributes := by
  induction attributes with
  | nil => exact ends
  | cons spelled others ih =>
    obtain ⟨_, plain, printable⟩ := readable spelled List.mem_cons_self
    have gap := gaps spelled List.mem_cons_self
    have first := newline_not_mem_print plain printable
    have rest := ih (fun spelled member => readable spelled (List.mem_cons_of_mem _ member))
      (fun spelled member => gaps spelled (List.mem_cons_of_mem _ member))
    cases others with
    | nil => simp [printAttributes, gap, first, ends]
    | cons next others => simp [printAttributes, gap, first, rest]

end OneLine

end Querymap.Pug
