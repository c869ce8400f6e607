import Querymap.Proofs.Pug.BlockExpansion
import Querymap.Proofs.Pug.RawBodies

/-! Statements of control flow. What stands behind the keyword is passed over, so that one expression is as
good as another, but for two signs that are looked for in it: a parenthesis right behind `else if`, and the
colon of an expansion behind `when`. -/
namespace Querymap.Pug

/-- The keywords that an expression follows. -/
def statements : List String := ["if", "unless", "else if", "each", "for", "while", "case", "when"]

/-- An expression on the line of its keyword. Behind `when` an expansion begins with a colon and a space, also
inside of quotes. -/
structure IsExpression (keyword : String) (text : List Char) : Prop where
  starts : text.head? = some ' ' ∨ text.head? = some '('
  oneLine : '\n' ∉ text
  unexpanded : keyword = "when" → ¬[':', ' '] <:+: text

/-! Statements on lines of their own. -/

section Statements

variable {keyword : String} {text : List Char} {number : Nat} {lines : List Line}

/-- None of the keywords is hidden by another one in front of it. -/
theorem splitKeyword?_statement (known : keyword ∈ "default" :: statements)
    (ends : ∀ c ∈ text.head?, Text.isWord c = false) :
    splitKeyword? (keyword.toList ++ text) = some (keyword, text) := by
  have stops : text.head?.any Text.isWord = false := by
    cases head : text.head? with
    | none => rfl
    | some c => exact ends c head
  simp only [statements, List.mem_cons, List.not_mem_nil, or_false] at known
  rcases known with rfl | rfl | rfl | rfl | rfl | rfl | rfl | rfl | rfl <;>
    simp [splitKeyword?, keywords, Text.dropStart?, stops]

theorem readKeyword_statement (known : keyword ∈ statements)
    (unexpanded : keyword = "when" → ¬[':', ' '] <:+: text) :
    readKeyword number keyword text = readKeyword number keyword [] := by
  simp only [statements, List.mem_cons, List.not_mem_nil, or_false] at known
  rcases known with rfl | rfl | rfl | rfl | rfl | rfl | rfl | rfl
  case inr.inr.inr.inr.inr.inr.inr =>
    rw [readKeyword, afterColon?_of_not_infix (unexpanded rfl)]
    rfl
  all_goals rfl

theorem head?_statement (known : keyword ∈ statements) :
    ∀ c ∈ (keyword.toList ++ text).head?, Text.isWord c = true := by
  have word : ∀ keyword ∈ statements, keyword.toList.head?.any Text.isWord = true := by decide
  exact head?_append_word (word keyword known) text

/-- A statement is read as its keyword alone. -/
theorem readLine_statement (known : keyword ∈ statements)
    (starts : ∀ c ∈ text.head?, c = ' ' ∨ c = '(')
    (unexpanded : keyword = "when" → ¬[':', ' '] <:+: text) :
    readLine number (keyword.toList ++ text) lines = readLine number keyword.toList lines := by
  have ends : ∀ c ∈ text.head?, Text.isWord c = false := by
    intro c head
    rcases starts c head with rfl | rfl <;> decide
  have split := splitKeyword?_statement (List.mem_cons_of_mem _ known) ends
  have alone := @splitKeyword?_statement keyword [] (List.mem_cons_of_mem _ known) (by simp)
  have word := @head?_statement keyword [] known
  rw [List.append_nil] at alone word
  have form : readForm number (keyword.toList ++ text) lines = readForm number keyword.toList lines := by
    rw [readForm_of_word (head?_statement known), split, readForm_of_word word, alone]
    dsimp only
    rw [readKeyword_statement known fun same inside =>
      unexpanded same (inside.trans (Text.trim_infix text))]
    rfl
  rw [readLine_eq, readLine_eq number keyword.toList, form]

/-- A further condition is a branch, as an `else` where its parenthesis stands right behind the keyword. -/
theorem elseBranch?_condition (starts : ∀ c ∈ text.head?, c = ' ' ∨ c = '(') :
    elseBranch? ("else if".toList ++ text) = some (text.head? != some '(') := by
  have condition : Text.Trimmed "if".toList := .of_any (by decide) (by decide)
  have trimmed : Text.trim (' ' :: ("if".toList ++ text)) = "if".toList ++ Text.trimEnd text :=
    condition.trim_append_end text
  have after : afterWord? "else" ("else if".toList ++ text) = some (' ' :: ("if".toList ++ text)) := rfl
  rw [elseBranch?, after, Option.map_some, trimmed]
  cases text with
  | nil => rfl
  | cons c rest =>
    rw [Text.trimEnd, Text.dropEndWhile_cons]
    rcases starts c rfl with rfl | rfl
    · split <;> rfl
    · rw [if_neg (by simp [Text.isBlank])]
      rfl

theorem elseBranch?_statement (known : keyword ∈ statements) (plain : keyword ≠ "else if") :
    elseBranch? (keyword.toList ++ text) = none := by
  simp only [statements, List.mem_cons, List.not_mem_nil, or_false] at known
  rcases known with rfl | rfl | rfl | rfl | rfl | rfl | rfl | rfl <;> first | rfl | contradiction

end Statements

/-! Statements behind other nodes on a line. -/

/-- The text of a node up to the one that it holds on the same line. -/
structure Holder where
  text : List Char
  node : Node → Node
  unchained : ∀ inner, elseBranch? (text ++ inner) = none
  trimmed : ∀ inner, Text.Trimmed inner → Text.Trimmed (text ++ inner)
  reads : ∀ number inner lines, Text.Trimmed inner →
    readLine number (text ++ inner) lines =
      (readLine number inner lines).map fun (held, _, rest) => (node held, .block, rest)

section Holders

variable {keyword : String} {condition inner : List Char} {number : Nat} {lines : List Line}

/-- A tag. -/
def TagHead.holder (head : TagHead) : Holder where
  text := head.text ++ [':', ' ']
  node held := .tag head.tagName head.attributes [held]
  unchained inner := by
    rw [List.append_assoc]
    exact head.elseBranch?_text (.inr ⟨inner, rfl⟩)
  trimmed inner trimmed := by
    rw [List.append_assoc]
    exact head.trimmed_text.append [':', ' '] (by decide) trimmed
  reads number inner lines trimmed := by
    have read := head.readForm_text (.inr ⟨inner, rfl⟩) number lines
    rw [readTail, expansion_gap number trimmed] at read
    rw [List.append_assoc, List.cons_append, List.cons_append, List.nil_append, readLine_eq, read]
    rfl

/-- The text of a branch that goes on behind its condition. -/
theorem readForm_branch (known : keyword = "when" ∨ keyword = "default")
    (starts : ∀ c ∈ condition.head?, c = ' ' ∨ c = '(') (plain : ¬[':', ' '] <:+: condition)
    (trimmed : Text.Trimmed inner) :
    readForm number (keyword.toList ++ (condition ++ ':' :: ' ' :: inner)) lines =
      .ok (.when (some inner), ⟨lines, List.suffix_refl _⟩) := by
  have ends : ∀ c ∈ (condition ++ ':' :: ' ' :: inner).head?, Text.isWord c = false := by
    cases condition with
    | nil =>
      rintro c ⟨⟩
      rfl
    | cons first condition =>
      rintro c ⟨⟩
      rcases starts first rfl with rfl | rfl <;> decide
  have split : splitKeyword? (keyword.toList ++ (condition ++ ':' :: ' ' :: inner)) =
      some (keyword, condition ++ ':' :: ' ' :: inner) := by
    refine splitKeyword?_statement ?_ ends
    rcases known with rfl | rfl <;> simp [statements]
  have word : keyword.toList.head?.any Text.isWord = true := by
    rcases known with rfl | rfl <;> rfl
  refine readForm_keyword (head?_append_word word _) split ?_
  have sign : Text.Trimmed (':' :: ' ' :: inner) :=
    (trimmed_symbol ':' rfl).append [' '] (by decide) trimmed
  have inside : ¬[':', ' '] <:+: condition.dropWhile Text.isBlank := fun inside =>
    plain (inside.trans (List.dropWhile_suffix _).isInfix)
  have whole := trimmed.trim_append [] (by simp)
  rw [List.nil_append] at whole
  rw [sign.trim_append_start]
  rcases known with rfl | rfl <;> rw [readKeyword, afterColon?_append inside, Option.map_some, whole]

/-- A branch of a case. -/
def Holder.branch (keyword : String) (known : keyword = "when" ∨ keyword = "default")
    (condition : List Char) (starts : ∀ c ∈ condition.head?, c = ' ' ∨ c = '(')
    (plain : ¬[':', ' '] <:+: condition) (oneLine : '\n' ∉ condition) : Holder where
  text := keyword.toList ++ (condition ++ [':', ' '])
  node held := .when [held]
  unchained inner := by rcases known with rfl | rfl <;> rfl
  trimmed inner trimmed := by
    have lead : Text.Trimmed keyword.toList := by
      rcases known with rfl | rfl <;> exact .of_any (by decide) (by decide)
    rw [List.append_assoc]
    exact lead.append (condition ++ [':', ' ']) (by simp [oneLine]) trimmed
  reads number inner lines trimmed := by
    rw [List.append_assoc, List.append_assoc, List.cons_append, List.cons_append, List.nil_append,
      readLine_eq, readForm_branch known starts plain trimmed]
    rfl

/-- The arguments of a call. -/
def printArguments : Option (List Char) → List Char
  | none => []
  | some inner => '(' :: (inner ++ [')'])

theorem skipArguments_print {arguments : Option (List Char)} (inert : ∀ inner ∈ arguments, Inert inner)
    {tail : List Char} (ends : tail.head? ≠ some '(') :
    ∃ inner, skipArguments number (printArguments arguments ++ tail) lines =
      .ok (inner, tail, ⟨lines, List.suffix_refl _⟩) := by
  cases arguments with
  | none => exact ⟨[], if_neg ends⟩
  | some inner =>
    refine ⟨inner, ?_⟩
    have group := readParentheses_group (inert inner rfl) number tail lines
    simpa [skipArguments, printArguments] using group

theorem isBlank_of_isIdChar {c : Char} (id : isIdChar c = true) : Text.isBlank c = false := by
  rcases Bool.or_eq_true_iff.1 id with word | hyphen
  · exact Text.isBlank_of_isWord word
  · rw [beq_iff_eq.1 hyphen]
    decide

/-- The text of a call that goes on behind its arguments. -/
theorem readForm_call {name : List Char} (nonempty : name ≠ []) (named : ∀ c ∈ name, isIdChar c = true)
    {arguments : Option (List Char)} (inert : ∀ inner ∈ arguments, Inert inner)
    (trimmed : Text.Trimmed inner) :
    readForm number ('+' :: (name ++ (printArguments arguments ++ ':' :: ' ' :: inner))) lines =
      .ok (.call (String.ofList name) [] (some inner), ⟨lines, List.suffix_refl _⟩) := by
  let tail := ':' :: ' ' :: inner
  have start : Text.trimStart (name ++ (printArguments arguments ++ tail)) =
      name ++ (printArguments arguments ++ tail) := by
    refine Text.trimStart_of_head? fun c head => isBlank_of_isIdChar (named c ?_)
    cases name with
    | nil => contradiction
    | cons first name =>
      cases head
      exact List.mem_cons_self
  have ends : ∀ c ∈ (printArguments arguments ++ tail).head?, isIdChar c = false := by
    cases arguments <;> rintro c ⟨⟩ <;> decide
  obtain ⟨skipped, passes⟩ := @skipArguments_print number lines arguments inert tail (by simp [tail])
  have alone : skipArguments number tail lines = .ok ([], tail, ⟨lines, List.suffix_refl _⟩) := rfl
  have unlisted : readAttributes [] = [] := readAttributes_separators (by simp)
  change readCall number (Text.trimStart (name ++ (printArguments arguments ++ tail))) lines = _
  rw [start, readCall, splitMixinName?_append nonempty named ends]
  simp only [passes, alone, unlisted]
  rw [Text.trimStart, List.dropWhile_cons_of_neg (by decide)]
  simp only [expansion_gap number trimmed]
  rfl

/-- A call of a mixin, perhaps with arguments. -/
def Holder.call (name : List Char) (nonempty : name ≠ []) (named : ∀ c ∈ name, isIdChar c = true)
    (arguments : Option (List Char)) (inert : ∀ inner ∈ arguments, Inert inner)
    (oneLine : '\n' ∉ printArguments arguments) : Holder where
  text := '+' :: (name ++ (printArguments arguments ++ [':', ' ']))
  node held := .call (String.ofList name) [] [held]
  unchained inner := rfl
  trimmed inner trimmed := by
    have solid : '\n' ∉ name := fun member => absurd (named _ member) (by decide)
    exact (trimmed_symbol '+' rfl).append (name ++ (printArguments arguments ++ [':', ' ']))
      (by simp [oneLine, solid]) trimmed
  reads number inner lines trimmed := by
    have read := @readForm_call inner number lines _ nonempty named _ inert trimmed
    rw [List.cons_append, List.append_assoc, List.append_assoc, List.cons_append, List.cons_append,
      List.nil_append, readLine_eq, read]
    rfl

end Holders

namespace Holder

/-- Nodes one within the other, up to the text of the innermost. -/
def print (holders : List Holder) : List Char := holders.flatMap (·.text)

theorem trimmed_print (holders : List Holder) {inner : List Char} (trimmed : Text.Trimmed inner) :
    Text.Trimmed (print holders ++ inner) := by
  induction holders with
  | nil => exact trimmed
  | cons holder holders ih =>
    rw [print, List.flatMap_cons, List.append_assoc]
    exact holder.trimmed _ ih

/-- What is read the same way is so within other nodes. -/
theorem readLine_print (holders : List Holder) {inner inner' : List Char} {number : Nat}
    (trimmed : Text.Trimmed inner) (trimmed' : Text.Trimmed inner') (lines : List Line)
    (same : readLine number inner lines = readLine number inner' lines) :
    readLine number (print holders ++ inner) lines = readLine number (print holders ++ inner') lines := by
  induction holders with
  | nil => exact same
  | cons holder holders ih =>
    have first := holder.reads number _ lines (trimmed_print holders trimmed)
    have second := holder.reads number _ lines (trimmed_print holders trimmed')
    rw [print, List.flatMap_cons, List.append_assoc, List.append_assoc]
    exact first.trans ((congrArg _ ih).trans second.symm)

end Holder

/-! Templates that differ in one line. -/

section Templates

variable {line : Line} {text : List Char}

/-- A line is the same with another text that is read the same way. -/
theorem readNodes_replaced (branches : elseBranch? text = elseBranch? line.text)
    (reads : ∀ lines, readLine line.number text lines = readLine line.number line.text lines)
    (rest : List Line) (parent : Option Nat) (before : Block) :
    erase (readNodes parent line.indent before (line :: rest)) =
      erase (readNodes parent line.indent before (⟨line.number, line.indent, text⟩ :: rest)) := by
  let other : Line := ⟨line.number, line.indent, text⟩
  cases chained : elseBranch? line.text with
  | none =>
    have unchained : elseBranch? other.text = none := branches.trans chained
    rw [readNodes_unchained chained]
    refine Eq.trans ?_ (@readNodes_unchained parent before other rest unchained).symm
    rw [reads]
  | some further =>
    have branch : elseBranch? other.text = some further := branches.trans chained
    cases before with
    | nil => simp [readNodes, chained, branches, erase, Except.map]
    | cons last earlier =>
      cases takes : takesBranch further last with
      | false => simp [readNodes, chained, branches, takes, erase, Except.map]
      | true =>
        rw [readNodes_chained chained takes]
        exact (@readNodes_chained parent earlier other rest last further branch takes).symm

variable {before after : List (List Char)} {raw raw' : List Char} {content other : String}

/-- One line for another that is read the same way, in a template that reads it for itself. -/
theorem parse_replaced (read : readRawLine (1 + before.length) raw = .ok (some line))
    (read' : readRawLine (1 + before.length) raw' = .ok (some ⟨line.number, line.indent, text⟩))
    (branches : elseBranch? text = elseBranch? line.text)
    (reads : ∀ lines, readLine line.number text lines = readLine line.number line.text lines)
    (own : IsRead before line.indent) (split : rawLines content = before ++ raw :: after)
    (split' : rawLines other = before ++ raw' :: after) : parse other = parse content := by
  rw [parse_eq_parseRaw, parse_eq_parseRaw, split, split', parseRaw, parseRaw]
  simp only [readRawLines_append, readRawLines, read, read']
  cases start : readRawLines 1 before with
  | error error => rfl
  | ok above =>
    cases readRawLines (1 + before.length + 1) after with
    | error error => rfl
    | ok left =>
      have blind : Blind (1 + before.length) line text left left fun lines =>
          erase (readBlock none (above ++ lines)) :=
        readBlock_blind (readNodes_replaced branches reads left) none above
      have closed := own.closed
      have refused := own.refused
      rw [parseRaw, start] at closed
      simp only [parseRaw, readRawLines_append, start, readRawLines, readRawLine_nameless] at refused
      refine (blind.whole ?_ refused).symm
      rwa [List.append_nil]

end Templates

/-! Expressions. -/

section Expressions

variable {keyword : String} {text text' indent : List Char}

theorem trimmed_keyword (known : keyword ∈ statements) : Text.Trimmed keyword.toList := by
  simp only [statements, List.mem_cons, List.not_mem_nil, or_false] at known
  rcases known with rfl | rfl | rfl | rfl | rfl | rfl | rfl | rfl
  case inr.inr.inl => exact trimmed_else.append [' '] (by decide) (.of_any (by decide) (by decide))
  all_goals exact .of_any (by decide) (by decide)

namespace IsExpression

theorem starts_trimEnd (expression : IsExpression keyword text) :
    ∀ c ∈ (Text.trimEnd text).head?, c = ' ' ∨ c = '(' := by
  intro c head
  have first := Text.head?_trimEnd head
  rcases expression.starts with space | parenthesis
  · exact .inl (Option.some.inj (first.symm.trans space))
  · exact .inr (Option.some.inj (first.symm.trans parenthesis))

/-- An opening parenthesis is not trimmed. -/
theorem head?_trimEnd (expression : IsExpression keyword text) :
    ((Text.trimEnd text).head? != some '(') = (text.head? != some '(') := by
  cases text with
  | nil => rfl
  | cons first rest =>
    rw [Text.trimEnd, Text.dropEndWhile_cons]
    rcases expression.starts with space | parenthesis
    · cases space
      split <;> rfl
    · cases parenthesis
      rw [if_neg (by simp [Text.isBlank])]
      rfl

theorem unexpanded_trimEnd (expression : IsExpression keyword text) :
    keyword = "when" → ¬[':', ' '] <:+: Text.trimEnd text := fun same inside =>
  expression.unexpanded same (inside.trans (Text.prefix_dropEndWhile Text.isBlank text).isInfix)

end IsExpression

/-- Behind other nodes no statement is a branch; alone, a further condition may be. -/
theorem elseBranch?_print (known : keyword ∈ statements) (expression : IsExpression keyword text)
    (expression' : IsExpression keyword text') (holders : List Holder)
    (alike : keyword = "else if" → holders = [] → text'.head? = text.head?) :
    elseBranch? (Holder.print holders ++ (keyword.toList ++ Text.trimEnd text')) =
      elseBranch? (Holder.print holders ++ (keyword.toList ++ Text.trimEnd text)) := by
  cases holders with
  | nil =>
    change elseBranch? (keyword.toList ++ Text.trimEnd text') = elseBranch? (keyword.toList ++ Text.trimEnd text)
    by_cases further : keyword = "else if"
    · subst further
      rw [elseBranch?_condition expression.starts_trimEnd, elseBranch?_condition expression'.starts_trimEnd,
        expression.head?_trimEnd, expression'.head?_trimEnd, alike rfl rfl]
    · rw [elseBranch?_statement known further, elseBranch?_statement known further]
  | cons holder holders =>
    rw [Holder.print, List.flatMap_cons, List.append_assoc, List.append_assoc, holder.unchained,
      holder.unchained]

/-- One expression for another behind a keyword of control flow, at the start of a line or behind nodes that
hold the statement: the template stays the same, and so does its fault. A branch with a further condition has
to begin with a space in both or with a parenthesis in both. -/
theorem parse_expression (known : keyword ∈ statements) (expression : IsExpression keyword text)
    (expression' : IsExpression keyword text') (holders : List Holder)
    (alike : keyword = "else if" → holders = [] → text'.head? = text.head?)
    (blank : ∀ c ∈ indent, Text.isBlank c = true) {before after : List (List Char)}
    (own : IsRead before indent.length) {content other : String}
    (split : rawLines content =
      before ++ (indent ++ (Holder.print holders ++ keyword.toList ++ text)) :: after)
    (split' : rawLines other =
      before ++ (indent ++ (Holder.print holders ++ keyword.toList ++ text')) :: after) :
    parse other = parse content := by
  have word := trimmed_keyword known
  have start := Holder.trimmed_print holders word
  have read := readRawLine_start start blank (1 + before.length) text
  have read' := readRawLine_start start blank (1 + before.length) text'
  by_cases mixed : ' ' ∈ indent ∧ '\t' ∈ indent
  · rw [if_pos mixed] at read read'
    rw [parse_eq_parseRaw, parse_eq_parseRaw, split, split', parseRaw, parseRaw]
    simp only [readRawLines_append, readRawLines, read, read']
  · rw [if_neg mixed, List.append_assoc _ _ (Text.trimEnd _)] at read read'
    refine parse_replaced read read' (elseBranch?_print known expression expression' holders alike)
      (fun lines => ?_) own split split'
    refine Holder.readLine_print holders (word.append_trimEnd expression'.oneLine)
      (word.append_trimEnd expression.oneLine) lines ?_
    rw [readLine_statement known expression.starts_trimEnd expression.unexpanded_trimEnd,
      readLine_statement known expression'.starts_trimEnd expression'.unexpanded_trimEnd]

/-- A condition behind a tag, and one with an apostrophe and a bracket in its place. -/
theorem parse_expression_unless :
    rawLines "div\n  ul#menu: unless (a)\n    li\n  p" = ["div".toList] ++
      ("  ".toList ++ (Holder.print [TagHead.menu.holder] ++ "unless".toList ++ " (a)".toList)) ::
        ["    li".toList, "  p".toList] ∧
    rawLines "div\n  ul#menu: unless it's: [b\n    li\n  p" = ["div".toList] ++
      ("  ".toList ++ (Holder.print [TagHead.menu.holder] ++ "unless".toList ++ " it's: [b".toList)) ::
        ["    li".toList, "  p".toList] ∧
    IsRead ["div".toList] 2 ∧
    parse "div\n  ul#menu: unless it's: [b\n    li\n  p" =
      parse "div\n  ul#menu: unless (a)\n    li\n  p" := by
  have split : rawLines "div\n  ul#menu: unless (a)\n    li\n  p" = ["div".toList] ++
      ("  ".toList ++ (Holder.print [TagHead.menu.holder] ++ "unless".toList ++ " (a)".toList)) ::
        ["    li".toList, "  p".toList] := by
    decide
  have split' : rawLines "div\n  ul#menu: unless it's: [b\n    li\n  p" = ["div".toList] ++
      ("  ".toList ++ (Holder.print [TagHead.menu.holder] ++ "unless".toList ++ " it's: [b".toList)) ::
        ["    li".toList, "  p".toList] := by
    decide
  have own : IsRead ["div".toList] 2 := by decide +kernel
  have first : IsExpression "unless" " (a)".toList := ⟨.inl rfl, by decide, by simp⟩
  have second : IsExpression "unless" " it's: [b".toList := ⟨.inl rfl, by decide, by simp⟩
  refine ⟨split, split', own, ?_⟩
  exact @parse_expression "unless" _ _ "  ".toList (by decide) first second [TagHead.menu.holder] (by simp)
    (by simp [Text.isBlank]) _ _ own _ _ split split'

/-- What a condition or a branch of a case has in it can shape the tree after all: a parenthesis right behind
`else if` makes it an `else`, and text in quotes is taken for a tag. -/
theorem parse_expression_differs :
    (parse "if a\n  p#x\nelse if (b)\n  p#y\nelse\n  p#z").isOk = true ∧
    parse "if a\n  p#x\nelse if(b)\n  p#y\nelse\n  p#z" = .error ⟨5, .unexpectedElse⟩ ∧
    (parse "case x\n  when 'a; b'\n    p#y").isOk = true ∧
    parse "case x\n  when 'a: b'\n    p#y" = .error ⟨2, .unexpectedText "'"⟩ := by
  refine ⟨?_, ?_, ?_, ?_⟩ <;> decide +kernel

end Expressions

end Querymap.Pug
