import Querymap.Proofs.Pug.AttributeList

/-! What stands between the attributes of a list: a comma ends every value, white space ends it
unless the next name begins like the rest of an expression. -/
namespace Querymap.Pug

/-- An attribute that is given one string literal, as it is written. -/
structure Assigned where
  name : List Char
  raw : List Char
  content : List Char
  named : name ≠ []
  bare : ∀ c ∈ name, inBareName c = true
  literal : stringLiteral? raw = some content

/-- Operators between two operands. -/
def isBinaryOperator (c : Char) : Bool := "+-*/%&|<>".toList.contains c

theorem isOperator_of_isBinaryOperator {c : Char} (binary : isBinaryOperator c = true) :
    isOperator c = true := by
  have all : "+-*/%&|<>".toList.all isOperator = true := by decide
  exact List.all_eq_true.1 all c (List.contains_iff_mem.1 binary)

namespace Assigned

def print (assigned : Assigned) : List Char := assigned.name ++ '=' :: assigned.raw

def toAttribute (assigned : Assigned) : Attribute :=
  ⟨String.ofList assigned.name, .literal (String.ofList assigned.content)⟩

/-- The name begins with an operator, so that white space before it ends no value. -/
def Continues (assigned : Assigned) : Prop := assigned.name.head?.any isOperator = true

/-- The attributes with the same text between any two of them. -/
def joined (between : List Char) (attributes : List Assigned) : List Char :=
  between.intercalate (attributes.map print)

/-- The attributes, each behind the same text. -/
def behind (between : List Char) (attributes : List Assigned) : List Char :=
  attributes.flatMap fun assigned => between ++ assigned.print

variable {between : List Char}

@[simp]
theorem behind_nil : behind between [] = [] := rfl

@[simp]
theorem behind_cons (next : Assigned) (others : List Assigned) :
    behind between (next :: others) = between ++ (next.print ++ behind between others) := by
  simp [behind]

@[simp]
theorem behind_append (front others : List Assigned) :
    behind between (front ++ others) = behind between front ++ behind between others :=
  List.flatMap_append

theorem joined_cons (first : Assigned) (others : List Assigned) :
    joined between (first :: others) = first.print ++ behind between others := by
  induction others generalizing first with
  | nil => simp [joined]
  | cons next others ih =>
    have split : joined between (first :: next :: others) =
        first.print ++ (between ++ joined between (next :: others)) := by
      simp [joined]
    rw [split, ih, behind_cons]

/-- The first attribute of a list; where its value ends, the others begin. -/
theorem readAttributes_print {after value tail : List Char} (assigned : Assigned)
    (before : List Char) (separators : ∀ c ∈ before, isSeparator c = true)
    (ends : splitValue {} none (assigned.raw ++ after) = (value, tail)) :
    readAttributes (before ++ (assigned.print ++ after)) =
      ⟨String.ofList assigned.name, readValue value⟩ :: readAttributes tail := by
  have solid : (assigned.raw ++ after).dropWhile Text.isBlank = assigned.raw ++ after := by
    obtain ⟨quote, inner, raw, quotes, -⟩ := stringLiteral?_eq_some assigned.literal
    rw [raw]
    exact List.dropWhile_cons_of_neg (by simp [isBlank_of_isQuote quotes])
  rw [print, List.append_assoc]
  exact readAttributes_assigned
    (Text.dropWhile_append_all separators (isSeparator_of_bare assigned.named assigned.bare _))
    (by simp [assigned.named])
    (splitAttributeName_bare assigned.named assigned.bare (by simp [inAttributeName]))
    assigned.named rfl (solid ▸ ends)

/-- Separators in front of a list count for nothing. -/
theorem readAttributes_behind (separates : ∀ c ∈ between, isSeparator c = true)
    (attributes : List Assigned) :
    readAttributes (behind between attributes) = readAttributes (joined between attributes) := by
  cases attributes with
  | nil => rfl
  | cons next others =>
    rw [behind_cons, joined_cons, next.readAttributes_print between separates rfl]
    exact (next.readAttributes_print [] (List.forall_mem_nil _) rfl).symm

/-- A comma ends every value. -/
theorem readAttributes_commas (attributes : List Assigned) :
    readAttributes (joined [','] attributes) = attributes.map toAttribute := by
  induction attributes with
  | nil => exact readAttributes_separators (List.forall_mem_nil _)
  | cons first others ih =>
    have ends : splitValue {} none (first.raw ++ behind [','] others) =
        (first.raw, behind [','] others) := by
      rw [splitValue_literal first.literal]
      cases others <;> simp [splitValue]
    have read := first.readAttributes_print [] (List.forall_mem_nil _) ends
    rw [joined_cons]
    refine read.trans ?_
    rw [readValue_literal first.literal, readAttributes_behind (by simp [isSeparator]), ih]
    rfl

section Gaps

variable {gap : List Char}

/-- The first character behind white space. -/
theorem find?_gap (blank : ∀ c ∈ gap, Text.isBlank c = true) {c : Char}
    (solid : Text.isBlank c = false) (rest : List Char) :
    (gap ++ c :: rest).find? (!Text.isBlank ·) = some c := by
  have none : gap.find? (!Text.isBlank ·) = none := by simpa using blank
  rw [List.find?_append, none, Option.none_or, List.find?_cons_of_pos (by simp [solid])]

/-- White space ends a value if no operator follows it. -/
theorem splitValue_gap (nonempty : gap ≠ []) (blank : ∀ c ∈ gap, Text.isBlank c = true) {c : Char}
    (solid : Text.isBlank c = false) (operand : isOperator c = false) (rest : List Char) :
    splitValue {} none (gap ++ c :: rest) = ([], gap ++ c :: rest) := by
  have next := find?_gap blank solid rest
  cases gap with
  | nil => contradiction
  | cons first gap =>
    rw [List.cons_append] at next ⊢
    simp [splitValue, next, operand, blank first List.mem_cons_self]

/-- White space in front of an operator is part of the value. -/
theorem splitValue_operator (blank : ∀ c ∈ gap, Text.isBlank c = true) {c : Char}
    (solid : Text.isBlank c = false) (operator : isOperator c = true) (rest : List Char) :
    splitValue {} none (gap ++ c :: rest) =
      (gap ++ (splitValue {} none (c :: rest)).1, (splitValue {} none (c :: rest)).2) := by
  induction gap with
  | nil => rfl
  | cons first gap ih =>
    obtain ⟨first_blank, others⟩ := List.forall_mem_cons.1 blank
    have next := find?_gap blank solid rest
    rw [List.cons_append] at next
    have inert : ({} : Nesting).next first = {} := (isPlain_of_isBlank first_blank).next
    have apart : first ≠ ',' := by
      rintro rfl
      contradiction
    rw [List.cons_append, splitValue, next]
    simp [operator, inert, first_blank, ih others, apart]

/-- Text without white space, commas, quotes and brackets ends no value, nor does a literal. -/
theorem splitValue_solid {text raw content : List Char}
    (solid : ∀ c ∈ text, Text.isBlank c = false ∧ c ≠ ',' ∧ IsPlain c)
    (literal : stringLiteral? raw = some content) (previous : Option Char) (rest : List Char) :
    splitValue {} previous (text ++ (raw ++ rest)) =
      (text ++ (raw ++ (splitValue {} none rest).1), (splitValue {} none rest).2) := by
  induction text generalizing previous with
  | nil => exact splitValue_literal literal rest
  | cons c text ih =>
    obtain ⟨⟨unblank, apart, plain⟩, others⟩ := List.forall_mem_cons.1 solid
    have inert : ({} : Nesting).next c = {} := plain.next
    rw [List.cons_append, splitValue]
    simp [unblank, apart, inert, ih others]

theorem splitValue_print (assigned : Assigned) (previous : Option Char) (rest : List Char) :
    splitValue {} previous (assigned.print ++ rest) =
      (assigned.print ++ (splitValue {} none rest).1, (splitValue {} none rest).2) := by
  have solid : ∀ c ∈ assigned.name ++ ['='], Text.isBlank c = false ∧ c ≠ ',' ∧ IsPlain c := by
    intro c member
    rcases List.mem_append.1 member with named | sign
    · have bare := assigned.bare c named
      simp only [inBareName, inAttributeName, Bool.and_eq_true, Bool.not_eq_true', bne_iff_ne] at bare
      obtain ⟨⟨⟨⟨⟨⟨unblank, -⟩, -⟩, apart⟩, unquoted⟩, notOpening⟩, notClosing⟩ := bare
      exact ⟨unblank, apart, unquoted, notOpening, notClosing⟩
    · obtain rfl := List.mem_singleton.1 sign
      exact ⟨rfl, by decide, rfl, rfl, rfl⟩
  simpa [print] using splitValue_solid solid assigned.literal previous rest

theorem name_cons (assigned : Assigned) :
    ∃ c name, assigned.name = c :: name ∧ Text.isBlank c = false := by
  obtain ⟨c, name, same⟩ := List.exists_cons_of_ne_nil assigned.named
  have solid := isSeparator_of_bare assigned.named assigned.bare [] c (by simp [same])
  exact ⟨c, name, same, (Bool.or_eq_false_iff.1 solid).1⟩

/-- A value goes on over every attribute whose name begins with an operator. -/
theorem splitValue_run (blank : ∀ c ∈ gap, Text.isBlank c = true) {run : List Assigned}
    (continues : ∀ next ∈ run, next.Continues) (rest : List Char) :
    splitValue {} none (behind gap run ++ rest) =
      (behind gap run ++ (splitValue {} none rest).1, (splitValue {} none rest).2) := by
  induction run with
  | nil => rfl
  | cons next run ih =>
    obtain ⟨operator, others⟩ := List.forall_mem_cons.1 continues
    obtain ⟨c, name, same, solid⟩ := next.name_cons
    have starts : next.print = c :: (name ++ '=' :: next.raw) := by
      rw [print, same, List.cons_append]
    have goes := splitValue_operator blank solid (by simpa [Continues, same] using operator)
      (name ++ '=' :: next.raw ++ (behind gap run ++ rest))
    rw [← List.cons_append, ← starts, splitValue_print, ih others] at goes
    simpa using goes

/-- A value ends in front of an attribute whose name does not begin with an operator. -/
theorem splitValue_behind (nonempty : gap ≠ []) (blank : ∀ c ∈ gap, Text.isBlank c = true)
    {others : List Assigned} (operand : ∀ next ∈ others.head?, ¬next.Continues) :
    splitValue {} none (behind gap others) = ([], behind gap others) := by
  cases others with
  | nil => rfl
  | cons next others =>
    obtain ⟨c, name, same, solid⟩ := next.name_cons
    have apart : isOperator c = false := by simpa [Continues, same] using operand next rfl
    simp only [behind_cons, print, same, List.cons_append]
    exact splitValue_gap nonempty blank solid apart _

theorem getLast?_print (assigned : Assigned) (text : List Char) :
    ∀ c ∈ (text ++ assigned.print).getLast?, Text.isBlank c = false := by
  obtain ⟨quote, inner, raw, quotes, closed⟩ := stringLiteral?_eq_some assigned.literal
  simp [print, raw, List.getLast?_append, List.getLast?_cons, unquote_getLast? closed,
    isBlank_of_isQuote quotes]

/-- A literal with attributes behind it is no literal, and there is no white space around it. -/
theorem readValue_run (first : Assigned) {run : List Assigned} (nonempty : run ≠ []) :
    readValue (first.raw ++ behind gap run) =
      .expression (String.ofList (first.raw ++ behind gap run)) := by
  have starts : ∀ c ∈ (first.raw ++ behind gap run).head?, Text.isBlank c = false := by
    obtain ⟨quote, inner, raw, quotes, -⟩ := stringLiteral?_eq_some first.literal
    simp [raw, isBlank_of_isQuote quotes]
  have ends : ∀ c ∈ (first.raw ++ behind gap run).getLast?, Text.isBlank c = false := by
    obtain ⟨front, last, rfl⟩ := (List.eq_nil_or_concat run).resolve_left nonempty
    have text : first.raw ++ behind gap (front.concat last) =
        (first.raw ++ behind gap front ++ gap) ++ last.print := by
      simp
    exact text ▸ last.getLast?_print _
  have trimmed : Text.trim (first.raw ++ behind gap run) = first.raw ++ behind gap run := by
    rw [Text.trim, Text.trimStart_of_head? starts]
    exact Text.dropEndWhile_of_getLast? ends
  have none : stringLiteral? (first.raw ++ behind gap run) = none := by
    obtain ⟨next, others, rfl⟩ := List.exists_cons_of_ne_nil nonempty
    obtain ⟨c, rest, same⟩ := List.exists_cons_of_ne_nil
      (show behind gap (next :: others) ≠ [] by simp [print])
    rw [same, stringLiteral?_append first.literal]
  rw [readValue, trimmed, none]

/-- An attribute with the attributes behind it that continue its value. -/
def fused (gap : List Char) (first : Assigned) (run : List Assigned) : Attribute :=
  if run = [] then first.toAttribute
  else ⟨String.ofList first.name, .expression (String.ofList (first.raw ++ behind gap run))⟩

theorem isSeparator_of_blank (blank : ∀ c ∈ gap, Text.isBlank c = true) :
    ∀ c ∈ gap, isSeparator c = true := by
  intro c member
  rw [isSeparator, blank c member, Bool.true_or]

/-- The first attribute of a list takes in the others up to a name that begins with no operator. -/
theorem readAttributes_gap (nonempty : gap ≠ []) (blank : ∀ c ∈ gap, Text.isBlank c = true)
    (first : Assigned) (run : List Assigned) {others : List Assigned}
    (continues : ∀ next ∈ run, next.Continues) (operand : ∀ next ∈ others.head?, ¬next.Continues) :
    readAttributes (joined gap (first :: (run ++ others))) =
      first.fused gap run :: readAttributes (joined gap others) := by
  have ends : splitValue {} none (first.raw ++ (behind gap run ++ behind gap others)) =
      (first.raw ++ behind gap run, behind gap others) := by
    rw [splitValue_literal first.literal, splitValue_run blank continues,
      splitValue_behind nonempty blank operand, List.append_nil]
  have read := first.readAttributes_print [] (List.forall_mem_nil _) ends
  rw [joined_cons, behind_append, ← readAttributes_behind (isSeparator_of_blank blank) others]
  refine read.trans (congrArg (· :: _) ?_)
  rw [fused]
  split
  · next none => rw [none, behind_nil, List.append_nil, readValue_literal first.literal, toAttribute]
  · next some => rw [first.readValue_run some]

/-- White space ends every value if no name behind it begins with an operator. -/
theorem readAttributes_gaps (nonempty : gap ≠ []) (blank : ∀ c ∈ gap, Text.isBlank c = true)
    {attributes : List Assigned} (operands : ∀ next ∈ attributes.tail, ¬next.Continues) :
    readAttributes (joined gap attributes) = attributes.map toAttribute := by
  induction attributes with
  | nil => exact readAttributes_separators (List.forall_mem_nil _)
  | cons first others ih =>
    rw [List.tail_cons] at operands
    have read := readAttributes_gap nonempty blank first [] (by simp)
      fun next head => operands next (List.mem_of_mem_head? head)
    rw [ih fun next later => operands next (List.mem_of_mem_tail later)] at read
    exact read

/-- Every list begins with names that begin with an operator, up to the first that does not. -/
theorem exists_run (attributes : List Assigned) :
    ∃ run others, attributes = run ++ others ∧ (∀ next ∈ run, next.Continues) ∧
      ∀ next ∈ others.head?, ¬next.Continues := by
  induction attributes with
  | nil => exact ⟨[], [], rfl, by simp, by simp⟩
  | cons first rest ih =>
    by_cases continues : first.Continues
    · obtain ⟨run, others, rfl, all, stop⟩ := ih
      exact ⟨first :: run, others, rfl, List.forall_mem_cons.2 ⟨continues, all⟩, stop⟩
    · exact ⟨[], first :: rest, rfl, by simp, by simpa using continues⟩

theorem eq_nil_of_continues {run others : List Assigned} (continues : ∀ next ∈ run, next.Continues)
    (operand : ∀ next ∈ (run ++ others).head?, ¬next.Continues) : run = [] := by
  cases run with
  | nil => rfl
  | cons next run => exact absurd (continues next List.mem_cons_self) (operand next rfl)

/-- How a list reads in which the attributes `run` continue the value of `first`. The value takes in
their text. Nothing is in front of the literal of `first` and the attributes ahead are as they were
written if no name up to there continues a value, and the value ends behind `run` if the next name
does not. -/
def Fuses (gap : List Char) (front : List Assigned) (first : Assigned) (run others : List Assigned) :
    Prop :=
  ∃ ahead name earlier later rest,
    readAttributes (joined gap (front ++ first :: (run ++ others))) = ahead ++
      ⟨name, .expression (String.ofList (earlier ++ (first.raw ++ behind gap run) ++ later))⟩ ::
        rest ∧
    ((∀ next ∈ (front ++ [first]).tail, ¬next.Continues) →
      ahead = front.map toAttribute ∧ name = String.ofList first.name ∧ earlier = []) ∧
    ((∀ next ∈ others.head?, ¬next.Continues) →
      later = [] ∧ rest = readAttributes (joined gap others))

section Fusing

variable {front left taken run : List Assigned}

/-- Where all names up to `first` continue a value, one attribute takes in all of the run. -/
theorem fuses_of_continues (nonempty : gap ≠ []) (blank : ∀ c ∈ gap, Text.isBlank c = true)
    (first : Assigned) (others : List Assigned) (starts : run ≠ [])
    (ahead : ∀ next ∈ (front ++ [first]).tail, next.Continues)
    (continues : ∀ next ∈ run, next.Continues) : Fuses gap front first run others := by
  obtain ⟨more, last, rfl, also, stop⟩ := exists_run others
  have both := List.forall_mem_append.2 ⟨continues, also⟩
  have ended (ends : ∀ next ∈ (more ++ last).head?, ¬next.Continues) :
      behind gap more = [] ∧
        readAttributes (joined gap last) = readAttributes (joined gap (more ++ last)) := by
    rw [eq_nil_of_continues also ends]
    exact ⟨rfl, rfl⟩
  cases front with
  | nil =>
    have read := readAttributes_gap nonempty blank first (run ++ more) both stop
    refine ⟨[], String.ofList first.name, [], behind gap more, _, ?_, fun _ => ⟨rfl, rfl, rfl⟩, ended⟩
    simpa [fused, starts] using read
  | cons opening front =>
    have whole := List.forall_mem_append.2 ⟨ahead, both⟩
    have read := readAttributes_gap nonempty blank opening _ whole stop
    refine ⟨[], String.ofList opening.name,
      opening.raw ++ (behind gap front ++ (gap ++ (first.name ++ ['=']))), behind gap more, _, ?_,
      fun apart => absurd (ahead first (by simp)) (apart first (by simp)), ended⟩
    simpa [fused, print] using read

/-- An attribute whose value ends ahead of `first` makes no difference to what is fused there. -/
theorem Fuses.cons (nonempty : gap ≠ []) (blank : ∀ c ∈ gap, Text.isBlank c = true)
    (opening : Assigned) {first : Assigned} {others : List Assigned}
    (continued : ∀ next ∈ taken, next.Continues)
    (stopped : ∀ next ∈ (left ++ [first]).head?, ¬next.Continues)
    (fuses : Fuses gap left first run others) :
    Fuses gap (opening :: (taken ++ left)) first run others := by
  obtain ⟨ahead, name, earlier, later, rest, read, plain, ended⟩ := fuses
  refine ⟨opening.fused gap taken :: ahead, name, earlier, later, rest, ?_, fun apart => ?_, ended⟩
  · have stops : ∀ next ∈ (left ++ first :: (run ++ others)).head?, ¬next.Continues := by
      cases left <;> exact stopped
    have step := readAttributes_gap nonempty blank opening taken continued stops
    rw [read] at step
    simpa using step
  · have none : taken = [] := List.eq_nil_iff_forall_not_mem.2 fun next member =>
      apart next (List.mem_append_left [first] (List.mem_append_left left member))
        (continued next member)
    subst none
    obtain ⟨rfl, rfl, rfl⟩ := plain fun next member => apart next (List.mem_of_mem_tail member)
    exact ⟨rfl, rfl, rfl⟩

theorem fuses (nonempty : gap ≠ []) (blank : ∀ c ∈ gap, Text.isBlank c = true)
    (front : List Assigned) (first : Assigned) (others : List Assigned) (starts : run ≠ [])
    (continues : ∀ next ∈ run, next.Continues) : Fuses gap front first run others := by
  match front with
  | [] => exact fuses_of_continues nonempty blank first others starts (by simp) continues
  | opening :: front =>
    obtain ⟨taken, left, rfl, continued, stopped⟩ := exists_run front
    by_cases whole : left = [] ∧ first.Continues
    · obtain ⟨rfl, goes⟩ := whole
      refine fuses_of_continues nonempty blank first others starts ?_ continues
      rw [List.append_nil]
      exact List.forall_mem_append.2 ⟨continued, List.forall_mem_singleton.2 goes⟩
    · refine .cons nonempty blank opening continued ?_
        (fuses nonempty blank left first others starts continues)
      cases left with
      | nil => simpa using whole
      | cons next left => exact stopped
termination_by front.length

end Fusing

theorem Fuses.ne {front run others : List Assigned} {first : Assigned}
    (fuses : Fuses gap front first run others) :
    readAttributes (joined gap (front ++ first :: (run ++ others))) ≠
      (front ++ first :: (run ++ others)).map toAttribute := by
  obtain ⟨ahead, name, earlier, later, rest, read, -⟩ := fuses
  intro equal
  have member : ∃ text, (⟨name, .expression text⟩ : Attribute) ∈
      (front ++ first :: (run ++ others)).map toAttribute := by
    rw [← equal, read]
    exact ⟨_, List.mem_append_right _ List.mem_cons_self⟩
  obtain ⟨text, member⟩ := member
  obtain ⟨assigned, -, same⟩ := List.mem_map.1 member
  simp [toAttribute] at same

theorem exists_front {attributes : List Assigned} {next : Assigned} (later : next ∈ attributes.tail) :
    ∃ front first others, attributes = front ++ first :: ([next] ++ others) := by
  cases attributes with
  | nil => contradiction
  | cons opening rest =>
    obtain ⟨ahead, others, same⟩ := List.append_of_mem later
    obtain ⟨front, first, whole⟩ :=
      (List.eq_nil_or_concat (opening :: ahead)).resolve_left (List.cons_ne_nil opening ahead)
    refine ⟨front, first, others, ?_⟩
    rw [List.tail_cons] at same
    rw [same, ← List.cons_append, whole, List.concat_append, List.singleton_append]

end Gaps

theorem continues_of_isBinaryOperator {assigned : Assigned}
    (binary : assigned.name.head?.any isBinaryOperator = true) : assigned.Continues := by
  obtain ⟨c, name, same, -⟩ := assigned.name_cons
  simp only [Continues, same, List.head?_cons, Option.any_some] at binary ⊢
  exact isOperator_of_isBinaryOperator binary

/-- White space separates attributes as commas do, as long as no name behind it begins with an
operator. A value goes on over an operator between two operands. -/
theorem readAttributes_gaps_eq_commas (attributes : List Assigned) {gap : List Char}
    (nonempty : gap ≠ []) (blank : ∀ c ∈ gap, Text.isBlank c = true) :
    readAttributes (joined [','] attributes) = attributes.map toAttribute ∧
      ((∀ next ∈ attributes.tail, ¬next.Continues) →
        readAttributes (joined gap attributes) = readAttributes (joined [','] attributes)) ∧
      ((∃ next ∈ attributes.tail, next.name.head?.any isBinaryOperator = true) →
        readAttributes (joined gap attributes) ≠ readAttributes (joined [','] attributes)) ∧
      ∀ front first run others, attributes = front ++ first :: (run ++ others) → run ≠ [] →
        (∀ next ∈ run, next.name.head?.any isBinaryOperator = true) →
        Fuses gap front first run others := by
  rw [readAttributes_commas]
  refine ⟨rfl, readAttributes_gaps nonempty blank, ?_, ?_⟩
  · rintro ⟨next, later, binary⟩
    obtain ⟨front, first, others, rfl⟩ := exists_front later
    refine (fuses nonempty blank front first others (List.cons_ne_nil next []) ?_).ne
    exact List.forall_mem_singleton.2 (continues_of_isBinaryOperator binary)
  · intro front first run others _ starts binary
    exact fuses nonempty blank front first others starts fun next member =>
      continues_of_isBinaryOperator (binary next member)

/-- `type="x"` -/
def typed : Assigned where
  name := "type".toList
  raw := "\"x\"".toList
  content := ['x']
  named := by decide
  bare := List.all_eq_true.1 (by decide)
  literal := by decide

/-- `@click='y'` -/
def clicked : Assigned where
  name := "@click".toList
  raw := "'y'".toList
  content := ['y']
  named := by decide
  bare := List.all_eq_true.1 (by decide)
  literal := by decide

/-- `*ngIf="z"` -/
def conditional : Assigned where
  name := "*ngIf".toList
  raw := "\"z\"".toList
  content := ['z']
  named := by decide
  bare := List.all_eq_true.1 (by decide)
  literal := by decide

theorem readAttributes_gaps_clicked :
    readAttributes (joined [' '] [typed, clicked]) =
        readAttributes (joined [','] [typed, clicked]) ∧
      Fuses [' '] [typed] clicked [conditional] [] :=
  ⟨(readAttributes_gaps_eq_commas [typed, clicked] (by decide)
      (List.all_eq_true.1 (by decide))).2.1 (by simp [Continues, clicked, isOperator]),
    (readAttributes_gaps_eq_commas [typed, clicked, conditional] (by decide)
      (List.all_eq_true.1 (by decide))).2.2.2 [typed] clicked [conditional] [] rfl (by simp)
      (List.forall_mem_singleton.2 (by decide))⟩

end Assigned

/-- A name that begins with an operator is taken for the second factor of a product. -/
theorem structural_name_fuses :
    readAttributes "type=\"x\" *ngIf=\"y\"".toList =
        [⟨"type", .expression "\"x\" *ngIf=\"y\""⟩] ∧
      readAttributes "type=\"x\",*ngIf=\"y\"".toList =
        [⟨"type", .literal "x"⟩, ⟨"*ngIf", .literal "y"⟩] := by
  decide +kernel

end Querymap.Pug
