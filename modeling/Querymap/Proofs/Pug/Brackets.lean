import Querymap.Pug.Bracket

/-! Brackets that match. The search for the end of a group counts how many groups are open and does not
remember of which kinds they are; so it finds the bracket behind text whose groups are closed, each by a
closing bracket of any kind. -/
namespace Querymap.Pug

/-- Neither a quote nor a bracket. -/
structure IsPlain (c : Char) : Prop where
  unquoted : isQuote c = false
  notOpening : isOpening c = false
  notClosing : isClosing c = false

/-- What may stand between the quotes of a literal. A backslash takes the next character's meaning away. -/
inductive Quotable (quote : Char) : List Char → Prop
  | nil : Quotable quote []
  | plain {c : Char} {text : List Char} : c ≠ quote → c ≠ '\\' → Quotable quote text →
      Quotable quote (c :: text)
  | escaped {c : Char} {text : List Char} : Quotable quote text → Quotable quote ('\\' :: c :: text)

/-- A bracket and the closing one of its kind. -/
def IsPair (first last : Char) : Prop :=
  (first, last) ∈ [('(', ')'), ('[', ']'), ('{', '}')]

instance (first last : Char) : Decidable (IsPair first last) :=
  inferInstanceAs (Decidable ((first, last) ∈ [('(', ')'), ('[', ']'), ('{', '}')]))

/-- An opening bracket and a closing one, of any kinds. -/
def IsGroup (first last : Char) : Prop := isOpening first = true ∧ isClosing last = true

/-- Text of plain characters, literals and groups, whose brackets are paired as `paired` says. -/
inductive Bracketed (paired : Char → Char → Prop) : List Char → Prop
  | nil : Bracketed paired []
  | plain {c : Char} {text : List Char} : IsPlain c → Bracketed paired text → Bracketed paired (c :: text)
  | literal {quote : Char} {content text : List Char} : isQuote quote = true → Quotable quote content →
      Bracketed paired text → Bracketed paired (quote :: (content ++ quote :: text))
  | group {first last : Char} {inner text : List Char} : paired first last → Bracketed paired inner →
      Bracketed paired text → Bracketed paired (first :: (inner ++ last :: text))

theorem IsPair.isGroup {first last : Char} (pair : IsPair first last) : IsGroup first last := by
  simp only [IsPair, List.mem_cons, Prod.mk.injEq, List.not_mem_nil, or_false] at pair
  rcases pair with ⟨rfl, rfl⟩ | ⟨rfl, rfl⟩ | ⟨rfl, rfl⟩ <;> exact ⟨rfl, rfl⟩

theorem Bracketed.mono {paired paired' : Char → Char → Prop} {text : List Char}
    (weaker : ∀ first last, paired first last → paired' first last)
    (bracketed : Bracketed paired text) : Bracketed paired' text := by
  induction bracketed with
  | nil => exact .nil
  | plain apart _ ih => exact .plain apart ih
  | literal quotes content _ ih => exact .literal quotes content ih
  | group pair _ _ inner ih => exact .group (weaker _ _ pair) inner ih

section Kinds

variable {c : Char}

theorem isQuote_iff : isQuote c = true ↔ c = '"' ∨ c = '\'' ∨ c = '\x60' := by
  simp [isQuote, or_assoc]

theorem isOpening_iff : isOpening c = true ↔ c = '(' ∨ c = '[' ∨ c = '{' := by
  simp [isOpening, or_assoc]

theorem isClosing_iff : isClosing c = true ↔ c = ')' ∨ c = ']' ∨ c = '}' := by
  simp [isClosing, or_assoc]

/-- A character is a quote, a bracket or plain. -/
theorem kind_cases (c : Char) :
    isQuote c = true ∨ isOpening c = true ∨ isClosing c = true ∨ IsPlain c := by
  cases quotes : isQuote c
  · cases opens : isOpening c
    · cases closes : isClosing c
      · exact .inr (.inr (.inr ⟨quotes, opens, closes⟩))
      · exact .inr (.inr (.inl rfl))
    · exact .inr (.inl rfl)
  · exact .inl rfl

/-- The characters of a class are plain if no quote and no bracket is among them. -/
theorem IsPlain.of_class {p : Char → Bool}
    (apart : ['"', '\'', '\x60', '(', '[', '{', ')', ']', '}'].all (!p ·) = true)
    (member : p c = true) : IsPlain c := by
  have other : ∀ mark ∈ ['"', '\'', '\x60', '(', '[', '{', ')', ']', '}'], c ≠ mark := by
    rintro mark listed rfl
    simpa [member] using List.all_eq_true.1 apart c listed
  simp only [List.forall_mem_cons] at other
  exact ⟨by simp [isQuote, other], by simp [isOpening, other], by simp [isClosing, other]⟩

theorem ne_backslash_of_isQuote (quotes : isQuote c = true) : c ≠ '\\' := by
  rintro rfl
  contradiction

theorem IsPlain.next {depth : Nat} (plain : IsPlain c) :
    Nesting.next ⟨depth, none, false⟩ c = ⟨depth, none, false⟩ := by
  simp [Nesting.next, plain.unquoted, plain.notOpening, plain.notClosing]

theorem next_inside {depth : Nat} {quote : Char} (apart : c ≠ quote) (backslash : c ≠ '\\') :
    Nesting.next ⟨depth, some quote, false⟩ c = ⟨depth, some quote, false⟩ := by
  simp [Nesting.next, Nesting.quoted, apart, backslash]

theorem next_opening {depth : Nat} (opens : isOpening c = true) :
    Nesting.next ⟨depth, none, false⟩ c = ⟨depth + 1, none, false⟩ := by
  rcases isOpening_iff.1 opens with rfl | rfl | rfl <;> rfl

theorem next_closing {depth : Nat} (closes : isClosing c = true) :
    Nesting.next ⟨depth, none, false⟩ c = ⟨depth - 1, none, false⟩ := by
  rcases isClosing_iff.1 closes with rfl | rfl | rfl <;> rfl

end Kinds

section Steps

variable {close c : Char} {depth index : Nat} {rest : List Char}

theorem matchingFrom_plain (plain : IsPlain c) :
    matchingFrom close ⟨depth, none, false⟩ index (c :: rest) =
      matchingFrom close ⟨depth, none, false⟩ (index + 1) rest := by
  rw [matchingFrom, plain.next, if_neg (by simp [plain.notClosing])]

theorem matchingFrom_quote (quotes : isQuote c = true) :
    matchingFrom close ⟨depth, none, false⟩ index (c :: rest) =
      matchingFrom close ⟨depth, some c, false⟩ (index + 1) rest := by
  rcases isQuote_iff.1 quotes with rfl | rfl | rfl <;> rfl

/-- No bracket counts inside of a literal. -/
theorem matchingFrom_inside (quote : Char) (escaped : Bool) :
    matchingFrom close ⟨depth, some quote, escaped⟩ index (c :: rest) =
      matchingFrom close (Nesting.next ⟨depth, some quote, escaped⟩ c) (index + 1) rest := by
  rw [matchingFrom, if_neg (by simp)]

theorem matchingFrom_opening (opens : isOpening c = true) :
    matchingFrom close ⟨depth, none, false⟩ index (c :: rest) =
      matchingFrom close ⟨depth + 1, none, false⟩ (index + 1) rest := by
  rw [matchingFrom, next_opening opens, if_neg (by simp)]

/-- The end of a group inside of another one. -/
theorem matchingFrom_closing (closes : isClosing c = true) :
    matchingFrom close ⟨depth + 2, none, false⟩ index (c :: rest) =
      matchingFrom close ⟨depth + 1, none, false⟩ (index + 1) rest := by
  rw [matchingFrom, next_closing closes, if_neg (by simp)]
  rfl

/-- The end of the group that was opened first. -/
theorem matchingFrom_last (closes : isClosing c = true) :
    matchingFrom close ⟨1, none, false⟩ index (c :: rest) = if c = close then some index else none := by
  rw [matchingFrom, next_closing closes, if_pos (by simp [closes])]
  simp only [beq_iff_eq]

end Steps

section Passing

variable {close quote : Char} {nesting : Nesting} {depth index stop : Nat}
variable {text content : List Char}

/-- A bracket that was found stays the one that matches, whatever follows. -/
theorem matchingFrom_append (after : List Char)
    (found : matchingFrom close nesting index text = some stop) :
    matchingFrom close nesting index (text ++ after) = some stop := by
  induction text generalizing nesting index with
  | nil => cases found
  | cons c rest ih =>
    rw [matchingFrom] at found
    rw [List.cons_append, matchingFrom]
    split
    · next closes => rwa [if_pos closes] at found
    · next goesOn =>
      rw [if_neg goesOn] at found
      exact ih found

/-- From inside of a literal the search gets behind its closing quote. -/
theorem matchingFrom_quotable (quotes : isQuote quote = true) (quotable : Quotable quote content)
    (index : Nat) (rest : List Char) :
    matchingFrom close ⟨depth, some quote, false⟩ index (content ++ quote :: rest) =
      matchingFrom close ⟨depth, none, false⟩ (index + content.length + 1) rest := by
  induction quotable generalizing index with
  | nil =>
    have closes : Nesting.next ⟨depth, some quote, false⟩ quote = ⟨depth, none, false⟩ := by
      simp [Nesting.next, Nesting.quoted, ne_backslash_of_isQuote quotes]
    rw [List.nil_append, matchingFrom_inside, closes, List.length_nil, Nat.add_zero]
  | plain apart backslash _ ih =>
    rw [List.cons_append, matchingFrom_inside, next_inside apart backslash, ih, List.length_cons]
    congr 1
    omega
  | @escaped c text _ ih =>
    have escapes : Nesting.next ⟨depth, some quote, false⟩ '\\' = ⟨depth, some quote, true⟩ := rfl
    have passes : Nesting.next ⟨depth, some quote, true⟩ c = ⟨depth, some quote, false⟩ := rfl
    rw [List.cons_append, List.cons_append, matchingFrom_inside, escapes, matchingFrom_inside, passes, ih,
      List.length_cons, List.length_cons]
    congr 1
    omega

/-- Text that a search for the end of a group passes over. -/
def Inert (text : List Char) : Prop :=
  ∀ close depth index rest, matchingFrom close ⟨depth + 1, none, false⟩ index (text ++ rest) =
    matchingFrom close ⟨depth + 1, none, false⟩ (index + text.length) rest

theorem Inert.nil : Inert [] := fun _ _ _ _ => rfl

theorem Inert.append {before after : List Char} (first : Inert before) (second : Inert after) :
    Inert (before ++ after) := by
  intro close depth index rest
  rw [List.append_assoc, first, second, List.length_append, Nat.add_assoc]

theorem Inert.of_plain (plain : ∀ c ∈ text, IsPlain c) : Inert text := by
  induction text with
  | nil => exact .nil
  | cons c text ih =>
    intro close depth index rest
    have others := ih fun c member => plain c (List.mem_cons_of_mem _ member)
    rw [List.cons_append, matchingFrom_plain (plain c List.mem_cons_self), others, List.length_cons,
      Nat.add_assoc, Nat.add_comm 1]

theorem Inert.literal (quotes : isQuote quote = true) (quotable : Quotable quote content) :
    Inert (quote :: (content ++ [quote])) := by
  intro close depth index rest
  rw [List.cons_append, List.append_assoc, List.singleton_append, matchingFrom_quote quotes,
    matchingFrom_quotable quotes quotable]
  simp only [List.length_cons, List.length_append, List.length_nil]
  congr 1
  omega

theorem Inert.group {first last : Char} {inner : List Char} (brackets : IsGroup first last)
    (inert : Inert inner) : Inert (first :: (inner ++ [last])) := by
  intro close depth index rest
  rw [List.cons_append, List.append_assoc, List.singleton_append, matchingFrom_opening brackets.1,
    inert close (depth + 1), matchingFrom_closing brackets.2]
  simp only [List.length_cons, List.length_append, List.length_nil]
  congr 1
  omega

/-- Closed groups and literals are passed over, whatever the kinds of the brackets are. -/
theorem Bracketed.inert (bracketed : Bracketed IsGroup text) : Inert text := by
  induction bracketed with
  | nil => exact .nil
  | plain apart _ ih => exact (Inert.of_plain (List.forall_mem_singleton.2 apart)).append ih
  | literal quotes quotable _ ih => simpa using (Inert.literal quotes quotable).append ih
  | group brackets _ _ within ih => simpa using (Inert.group brackets within).append ih

end Passing

section Finding

variable {close quote : Char} {depth index stop : Nat} {escaped : Bool} {text : List Char}

/-- A search that succeeds from inside of a literal got behind its closing quote. -/
theorem exists_quotable
    (found : matchingFrom close ⟨depth, some quote, escaped⟩ index text = some stop) :
    ∃ content after, text = content ++ quote :: after ∧
      if escaped then Quotable quote ('\\' :: content) else Quotable quote content := by
  -- The induction carries the escape: the character behind a backslash ends no literal.
  induction text generalizing index escaped with
  | nil => cases found
  | cons c rest ih =>
    rw [matchingFrom_inside] at found
    cases escaped with
    | true =>
      obtain ⟨content, after, rfl, quotable⟩ := @ih (index + 1) false found
      exact ⟨c :: content, after, rfl, .escaped quotable⟩
    | false =>
      by_cases backslash : c = '\\'
      · subst backslash
        obtain ⟨content, after, rfl, quotable⟩ := @ih (index + 1) true found
        exact ⟨'\\' :: content, after, rfl, quotable⟩
      · by_cases apart : c = quote
        · subst apart
          exact ⟨[], rest, rfl, .nil⟩
        · rw [next_inside apart backslash] at found
          obtain ⟨content, after, rfl, quotable⟩ := ih found
          exact ⟨c :: content, after, rfl, .plain apart backslash quotable⟩

/-- A search that succeeds passes over bracketed text to the bracket that closes the innermost group. -/
theorem exists_bracketed
    (found : matchingFrom close ⟨depth + 1, none, false⟩ index text = some stop) :
    ∃ inner last after, text = inner ++ last :: after ∧ Bracketed IsGroup inner ∧
      isClosing last = true := by
  -- Behind a group or a literal the search goes on in a shorter text, which need not be the next one.
  induction size : text.length using Nat.strongRecOn generalizing text depth index with
  | ind length ih =>
    subst size
    cases text with
    | nil => cases found
    | cons c rest =>
      rcases kind_cases c with quotes | opens | closes | plain
      · rw [matchingFrom_quote quotes] at found
        obtain ⟨content, after, rfl, quotable⟩ := exists_quotable found
        rw [matchingFrom_quotable quotes quotable] at found
        obtain ⟨inner, last, after, rfl, bracketed, closes⟩ := ih _ (by simp; omega) found rfl
        exact ⟨c :: (content ++ c :: inner), last, after, by simp, .literal quotes quotable bracketed, closes⟩
      · rw [matchingFrom_opening opens] at found
        obtain ⟨group, end', after, rfl, within, ends⟩ := ih _ (by simp) found rfl
        rw [within.inert, matchingFrom_closing ends] at found
        obtain ⟨inner, last, after, rfl, bracketed, closes⟩ := ih _ (by simp; omega) found rfl
        exact ⟨c :: (group ++ end' :: inner), last, after, by simp,
          .group ⟨opens, ends⟩ within bracketed, closes⟩
      · exact ⟨[], c, rest, rfl, .nil, closes⟩
      · rw [matchingFrom_plain plain] at found
        obtain ⟨inner, last, after, rfl, bracketed, closes⟩ := ih _ (by simp) found rfl
        exact ⟨c :: inner, last, after, rfl, .plain plain bracketed, closes⟩

end Finding

section Groups

variable {first close : Char} {inner rest : List Char} {stop : Nat}

/-- A bracket is matched by the first one behind inert text. -/
theorem matchingBracket?_enclosed (inert : Inert inner) (opens : isOpening first = true)
    (closes : isClosing close = true) (tail : List Char) :
    matchingBracket? close (first :: (inner ++ close :: tail)) = some (inner.length + 1) := by
  rw [matchingBracket?, matchingFrom_opening opens, inert, matchingFrom_last closes, if_pos rfl,
    Nat.zero_add, Nat.add_comm]

/-- The bracket that ends a group is the one behind bracketed text. It has to be of the kind that is looked
for; of which kind the group's own bracket is does not matter. -/
theorem matchingBracket?_eq_some_iff (opens : isOpening first = true) :
    matchingBracket? close (first :: rest) = some stop ↔
      isClosing close = true ∧
        ∃ inner after, rest = inner ++ close :: after ∧ Bracketed IsGroup inner ∧
          stop = inner.length + 1 := by
  constructor
  · intro found
    rw [matchingBracket?, matchingFrom_opening opens] at found
    obtain ⟨inner, last, after, rfl, bracketed, closes⟩ := exists_bracketed found
    rw [bracketed.inert, matchingFrom_last closes] at found
    split at found
    · next same =>
      subst same
      cases found
      exact ⟨closes, inner, after, rfl, bracketed, by omega⟩
    · contradiction
  · rintro ⟨closes, inner, after, rfl, bracketed, rfl⟩
    exact matchingBracket?_enclosed bracketed.inert opens closes after

end Groups

end Querymap.Pug
