import Mathlib.Data.List.TakeWhile
import Querymap.Text.Blank
import Querymap.Text.Word

/-! Words, and lines without white space around them. -/
namespace Querymap.Text

/-- The code points of white space. -/
def blanks : List Nat := [
  0x9, 0xa, 0xb, 0xc, 0xd, 0x20, 0x85, 0xa0, 0x1680, 0x2000, 0x2001, 0x2002, 0x2003, 0x2004,
  0x2005, 0x2006, 0x2007, 0x2008, 0x2009, 0x200a, 0x2028, 0x2029, 0x202f, 0x205f, 0x3000]

theorem mem_blanks {c : Char} (blank : isBlank c = true) : c.toNat ∈ blanks := by
  simp only [isBlank, Bool.or_eq_true, Bool.and_eq_true, beq_iff_eq, decide_eq_true_eq] at blank
  simp only [blanks, List.mem_cons, List.not_mem_nil, or_false]
  omega

/-- A property that no white space has, as a computation says. -/
theorem isBlank_eq_false {p : Char → Bool} (apart : ∀ n ∈ blanks, p (Char.ofNat n) = false) {c : Char}
    (holds : p c = true) : isBlank c = false := by
  cases blank : isBlank c with
  | false => rfl
  | true =>
    have := apart c.toNat (mem_blanks blank)
    rw [Char.ofNat_toNat, holds] at this
    cases this

/-- Words hold no white space. -/
theorem isBlank_of_isWord {c : Char} (word : isWord c = true) : isBlank c = false :=
  isBlank_eq_false (by decide +kernel) word

/-- ASCII letters and digits are characters of words. -/
theorem isWord_of_isAlphanum {c : Char} (alphanum : c.isAlphanum = true) : isWord c = true := by
  have below {last : Char} (inside : c.val ≤ last.val) (ascii : last.toNat < 128) : c.toNat < 128 :=
    Nat.lt_of_le_of_lt (UInt32.le_iff_toNat_le.1 inside) ascii
  have ascii : c.toNat < 128 := by
    rcases Bool.or_eq_true_iff.1 alphanum with letter | digit
    · rcases Bool.or_eq_true_iff.1 letter with upper | lower
      · exact @below 'Z' (of_decide_eq_true upper).2 (by decide)
      · exact @below 'z' (of_decide_eq_true (Bool.and_eq_true_iff.1 lower).2) (by decide)
    · exact @below '9' (of_decide_eq_true (Bool.and_eq_true_iff.1 digit).2) (by decide)
  rw [isWord, if_pos ascii, alphanum, Bool.true_or]

section Prefixes

variable {α : Type} {p : α → Bool} {before after : List α}

/-- What follows a list adds nothing to what is taken from it, if its first element is not taken. -/
theorem takeWhile_append_stop (before : List α) (stop : ∀ c ∈ after.head?, p c = false) :
    (before ++ after).takeWhile p = before.takeWhile p := by
  induction before with
  | nil =>
    cases after with
    | nil => rfl
    | cons c rest => simp [stop c rfl]
  | cons c before ih => simp [List.takeWhile_cons, ih]

theorem dropWhile_append_stop (before : List α) (stop : ∀ c ∈ after.head?, p c = false) :
    (before ++ after).dropWhile p = before.dropWhile p ++ after := by
  induction before with
  | nil =>
    cases after with
    | nil => rfl
    | cons c rest => simp [stop c rfl]
  | cons c before ih =>
    rw [List.cons_append, List.dropWhile_cons, List.dropWhile_cons, ih]
    split <;> rfl

theorem takeWhile_append_all (all : ∀ c ∈ before, p c = true)
    (stop : ∀ c ∈ after.head?, p c = false) : (before ++ after).takeWhile p = before := by
  rw [takeWhile_append_stop before stop, ← List.append_nil before,
    List.takeWhile_append_of_pos all, List.takeWhile_nil]

theorem dropWhile_append_all (all : ∀ c ∈ before, p c = true)
    (stop : ∀ c ∈ after.head?, p c = false) : (before ++ after).dropWhile p = after := by
  rw [List.dropWhile_append_of_pos all]
  cases after with
  | nil => rfl
  | cons c rest => simp [stop c rfl]

end Prefixes

theorem trimStart_of_head? {text : List Char} (solid : ∀ c ∈ text.head?, isBlank c = false) :
    trimStart text = text := by
  cases text with
  | nil => rfl
  | cons c rest => simp [trimStart, solid c rfl]

theorem dropEndWhile_cons (drop : Char → Bool) (c : Char) (rest : List Char) :
    dropEndWhile drop (c :: rest) =
      if (dropEndWhile drop rest).isEmpty && drop c then [] else c :: dropEndWhile drop rest :=
  rfl

theorem dropEndWhile_of_getLast? {drop : Char → Bool} {text : List Char}
    (kept : ∀ c ∈ text.getLast?, drop c = false) : dropEndWhile drop text = text := by
  induction text with
  | nil => rfl
  | cons c rest ih =>
    rw [dropEndWhile_cons]
    cases rest with
    | nil => simp [dropEndWhile, kept c rfl]
    | cons next rest =>
      rw [ih fun c last => kept c (by rwa [List.getLast?_cons_cons])]
      rfl

theorem getLast?_dropEndWhile (drop : Char → Bool) (text : List Char) :
    ∀ c ∈ (dropEndWhile drop text).getLast?, drop c = false := by
  induction text with
  | nil => exact fun _ member => absurd member (Option.not_mem_none _)
  | cons c rest ih =>
    rw [dropEndWhile_cons]
    cases kept : dropEndWhile drop rest with
    | nil => cases dropped : drop c <;> simp [dropped]
    | cons next others =>
      rw [kept] at ih
      simpa using ih

theorem prefix_dropEndWhile (drop : Char → Bool) (text : List Char) : dropEndWhile drop text <+: text := by
  induction text with
  | nil => exact List.prefix_refl []
  | cons c rest ih =>
    rw [dropEndWhile_cons]
    split
    · exact List.nil_prefix
    · exact List.cons_prefix_cons.2 ⟨rfl, ih⟩

theorem head?_trimEnd {text : List Char} {c : Char} (head : c ∈ (trimEnd text).head?) : c ∈ text.head? := by
  obtain ⟨blanks, whole⟩ := prefix_dropEndWhile isBlank text
  rw [trimEnd] at head
  rw [← whole, List.head?_append, head]
  rfl

theorem trim_infix (text : List Char) : trim text <:+: text :=
  (prefix_dropEndWhile isBlank _).isInfix.trans (List.dropWhile_suffix isBlank).isInfix

/-- What is dropped at the end of a text may as well not be there. -/
theorem dropEndWhile_append_all {drop : Char → Bool} (before : List Char) {after : List Char}
    (all : ∀ c ∈ after, drop c = true) :
    dropEndWhile drop (before ++ after) = dropEndWhile drop before := by
  have gone : dropEndWhile drop after = [] := by
    induction after with
    | nil => rfl
    | cons c rest ih =>
      obtain ⟨first, others⟩ := List.forall_mem_cons.1 all
      simp [dropEndWhile_cons, ih others, first]
  rw [dropEndWhile, List.foldr_append]
  exact congrArg (List.foldr _ · before) gone

/-- What is dropped at the end of a text lies behind every element that is kept. -/
theorem dropEndWhile_append_cons {drop : Char → Bool} {c : Char} (kept : drop c = false)
    (before after : List Char) :
    dropEndWhile drop (before ++ c :: after) = before ++ c :: dropEndWhile drop after := by
  induction before with
  | nil => simp [dropEndWhile_cons, kept]
  | cons first before ih => simp [dropEndWhile_cons, ih]

/-- The text of a line: some characters of which neither the first nor the last are white space. -/
structure Trimmed (text : List Char) : Prop where
  nonempty : text ≠ []
  first : ∀ c ∈ text.head?, isBlank c = false
  last : ∀ c ∈ text.getLast?, isBlank c = false
  oneLine : '\n' ∉ text

namespace Trimmed

variable {text : List Char}

theorem head?_append (trimmed : Trimmed text) (after : List Char) : (text ++ after).head? = text.head? := by
  cases text with
  | nil => exact absurd rfl trimmed.nonempty
  | cons first rest => rfl

/-- White space is trimmed in front of what precedes a line, not between the two. -/
theorem trim_append_start (trimmed : Trimmed text) (before : List Char) :
    trim (before ++ text) = before.dropWhile isBlank ++ text := by
  rw [trim, trimStart, dropWhile_append_stop before trimmed.first]
  refine dropEndWhile_of_getLast? fun c last => trimmed.last c ?_
  rw [List.getLast?_append, List.getLast?_eq_some_getLast trimmed.nonempty] at last
  rw [List.getLast?_eq_some_getLast trimmed.nonempty]
  exact last

/-- White space before a line is trimmed. -/
theorem trim_append (trimmed : Trimmed text) (gap : List Char)
    (blank : ∀ c ∈ gap, isBlank c = true) : trim (gap ++ text) = text := by
  rw [trim_append_start trimmed, List.dropWhile_eq_nil_iff.2 blank, List.nil_append]

/-- White space is trimmed behind a line, not within what follows it. -/
theorem trim_append_end (trimmed : Trimmed text) (after : List Char) :
    trim (text ++ after) = text ++ trimEnd after := by
  obtain ⟨start, last, same⟩ := (List.eq_nil_or_concat text).resolve_left trimmed.nonempty
  rw [List.concat_eq_append] at same
  subst same
  have kept : isBlank last = false := trimmed.last last (by simp)
  have first : trimStart (start ++ [last] ++ after) = start ++ last :: after := by
    rw [List.append_assoc]
    refine trimStart_of_head? fun c head => trimmed.first c ?_
    cases start <;> exact head
  rw [trim, first, trimEnd, dropEndWhile_append_cons kept, List.append_assoc]
  rfl

theorem of_solid (nonempty : text ≠ []) (solid : ∀ c ∈ text, isBlank c = false) :
    Trimmed text where
  nonempty := nonempty
  first c head := solid c (List.mem_of_mem_head? head)
  last c last := solid c (List.mem_of_mem_getLast? last)
  oneLine newline := by simpa [isBlank] using solid '\n' newline

theorem of_word (nonempty : text ≠ []) (word : ∀ c ∈ text, isWord c = true) : Trimmed text :=
  of_solid nonempty fun c member => isBlank_of_isWord (word c member)

/-- Text without white space in it, as a computation says. -/
theorem of_any (nonempty : text ≠ []) (solid : text.any isBlank = false) : Trimmed text :=
  of_solid nonempty fun c member => by simpa using List.any_eq_false.1 solid c member

/-- What goes on behind a line has an end of its own. -/
theorem append_trimEnd (trimmed : Trimmed text) {after : List Char} (oneLine : '\n' ∉ after) :
    Trimmed (text ++ trimEnd after) where
  nonempty := by simp [trimmed.nonempty]
  first c head := trimmed.first c (trimmed.head?_append _ ▸ head)
  last c last := by
    rw [List.getLast?_append] at last
    cases ends : (trimEnd after).getLast? with
    | none =>
      rw [ends] at last
      exact trimmed.last c last
    | some d =>
      rw [ends] at last
      cases last
      exact getLast?_dropEndWhile isBlank after c ends
  oneLine := by
    rw [List.mem_append]
    exact not_or.2 ⟨trimmed.oneLine, fun newline =>
      oneLine ((prefix_dropEndWhile isBlank after).subset newline)⟩

/-- What is between two lines does not touch their ends. -/
theorem append {start : List Char} (starts : Trimmed start) (middle : List Char)
    (inside : '\n' ∉ middle) (ends : Trimmed text) : Trimmed (start ++ (middle ++ text)) where
  nonempty := by simp [starts.nonempty]
  first c head := starts.first c (starts.head?_append _ ▸ head)
  last c last := by
    rw [← List.append_assoc, List.getLast?_append] at last
    have solid := ends.last
    rw [List.getLast?_eq_some_getLast ends.nonempty] at last solid
    exact solid c last
  oneLine := by simp [starts.oneLine, inside, ends.oneLine]

end Trimmed

/-- A text is cut at its first line end. -/
theorem splitAt_append {cut : Char → Bool} {piece : List Char} {c : Char} (rest : List Char)
    (whole : ∀ c ∈ piece, cut c = false) (ends : cut c = true) :
    splitAt cut (piece ++ c :: rest) = piece :: splitAt cut rest := by
  induction piece with
  | nil => simp [splitAt, ends]
  | cons first piece ih =>
    have := ih fun c member => whole c (List.mem_cons_of_mem _ member)
    simp [splitAt, whole first List.mem_cons_self, this]

theorem splitAt_ne_nil (cut : Char → Bool) (text : List Char) : splitAt cut text ≠ [] := by
  cases text with
  | nil => simp [splitAt]
  | cons c rest =>
    rw [splitAt]
    split
    · simp
    · split <;> simp

theorem splitAt_concat {cut : Char → Bool} {c : Char} (text : List Char) (ends : cut c = true) :
    splitAt cut (text ++ [c]) = splitAt cut text ++ [[]] := by
  induction text with
  | nil => simp [splitAt, ends]
  | cons first rest ih =>
    obtain ⟨piece, pieces, some⟩ := List.exists_cons_of_ne_nil (splitAt_ne_nil cut rest)
    rw [some] at ih
    by_cases cuts : cut first = true <;> simp [splitAt, cuts, ih, some]

end Querymap.Text
