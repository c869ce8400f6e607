import Querymap.Proofs.Pug.Brackets
import Querymap.Proofs.Text.Bytes
import Querymap.Pug.Head

/-! Reading that checks itself. Texts are cut at bytes, and a cut that is no part of its text stops the reading
for good; so does a step that does not have less left to read than the one it belongs to. -/
namespace Querymap.Pug

/-- Why a reading stops for good. -/
inductive Trap
  /-- The part ends before it starts, is not inside of the text, or divides a character. -/
  | cut (text : List Char) (start stop : Nat)
  /-- A step has no less to read than the one before it. -/
  | stall (left whole : Nat)
deriving DecidableEq

/-- A reading that may be trapped; an error in the template is one of its outcomes. -/
abbrev Checked := ExceptT ParseError (Except Trap)

namespace Checked

variable {α β : Type}

/-- A reading that came to its outcome. -/
def settled (outcome : Except ParseError α) : Checked α := ExceptT.mk (.ok outcome)

def trap (reason : Trap) : Checked α := ExceptT.mk (.error reason)

/-- The part of a text between two bytes. -/
def cut (text : List Char) (start stop : Nat) : Checked (List Char) :=
  match Text.slice? start stop text with
  | some part => pure part
  | none => trap (.cut text start stop)

/-- The text from a byte on. -/
def cutFrom (text : List Char) (start : Nat) : Checked (List Char) :=
  cut text start (Text.byteLength text)

/-- A step that has `left` to read, out of `whole`. -/
def descend (left whole : Nat) (step : left < whole → Checked α) : Checked α :=
  if less : left < whole then step less else trap (.stall left whole)

@[simp] theorem settled_ok_bind (a : α) (next : α → Checked β) : settled (.ok a) >>= next = next a := rfl

theorem descend_of_lt {left whole : Nat} (less : left < whole) (step : left < whole → Checked α) :
    descend left whole step = step less :=
  dif_pos less

section Cuts

variable {text before after : List Char}

theorem cut_of_slice? {start stop : Nat} {part : List Char}
    (sliced : Text.slice? start stop text = some part) : cut text start stop = pure part := by
  rw [cut, sliced]

theorem cutFrom_append (before after : List Char) :
    cutFrom (before ++ after) (Text.byteLength before) = pure after :=
  cut_of_slice? (Text.slice?_end before after)

theorem cutFrom_behind (before part after : List Char) :
    cutFrom (before ++ (part ++ after)) (Text.byteLength before + Text.byteLength part) = pure after := by
  rw [← List.append_assoc, ← Text.byteLength_append, cutFrom_append]

/-- The bytes of a text in front of its last part. -/
def matched (text after : List Char) : Nat := Text.byteLength text - Text.byteLength after

theorem matched_append (before after : List Char) : matched (before ++ after) after = Text.byteLength before := by
  rw [matched, Text.byteLength_append, Nat.add_sub_cancel]

theorem cut_matched (whole : before ++ after = text) : cut text 0 (matched text after) = pure before := by
  subst whole
  rw [matched_append]
  exact cut_of_slice? (Text.slice?_start before after)

theorem cutFrom_matched (ends : after <:+ text) : cutFrom text (matched text after) = pure after := by
  obtain ⟨before, rfl⟩ := ends
  rw [matched_append, cutFrom_append]

end Cuts

/-! Brackets. -/

/-- The byte of the bracket that closes the one at the start of a text. -/
def closing? (close : Char) (text : List Char) : Option Nat :=
  (matchingBracket? close text).map (Text.place text)

/-- The inside of the group at the start of a text, and what follows its last bracket at the byte `stop`. -/
def enclosed (text : List Char) (stop : Nat) : Checked (List Char × List Char) := do
  let inner ← cut text 1 stop
  let after ← cutFrom text (stop + 1)
  return (inner, after)

theorem utf8Size_of_isOpening {c : Char} (opens : isOpening c = true) : c.utf8Size = 1 := by
  rcases isOpening_iff.1 opens with rfl | rfl | rfl <;> rfl

theorem utf8Size_of_isClosing {c : Char} (closes : isClosing c = true) : c.utf8Size = 1 := by
  rcases isClosing_iff.1 closes with rfl | rfl | rfl <;> rfl

theorem enclosed_group {opening close : Char} (opens : isOpening opening = true)
    (closes : isClosing close = true) (inner after : List Char) :
    enclosed (opening :: (inner ++ close :: after)) (Text.byteLength (opening :: inner)) =
      pure (inner, after) := by
  have first := utf8Size_of_isOpening opens
  have last := utf8Size_of_isClosing closes
  have inside : cut (opening :: (inner ++ close :: after)) 1 (Text.byteLength (opening :: inner)) =
      pure inner := by
    refine cut_of_slice? (Text.slice?_eq_some_iff.2 ⟨[opening], close :: after, by simp, ?_, ?_⟩)
    · simp [first]
    · rw [Text.byteLength_cons, first]
  have behind : cutFrom (opening :: (inner ++ close :: after)) (Text.byteLength (opening :: inner) + 1) =
      pure after := by
    have whole := cutFrom_behind (opening :: inner) [close] after
    rwa [Text.byteLength_cons close, last] at whole
  rw [enclosed, inside, pure_bind, behind, pure_bind]

theorem place_behind (first : Char) (inner after : List Char) :
    Text.place (first :: (inner ++ after)) (inner.length + 1) = Text.byteLength (first :: inner) := by
  simp [Text.place]

/-- The cuts around a group are where its brackets are. -/
theorem enclosed_closing {opening close : Char} {rest : List Char} {stop : Nat}
    (opens : isOpening opening = true) (found : matchingBracket? close (opening :: rest) = some stop) :
    enclosed (opening :: rest) (Text.place (opening :: rest) stop) =
      pure (((opening :: rest).take stop).drop 1, (opening :: rest).drop (stop + 1)) := by
  obtain ⟨closes, inner, after, rfl, -, rfl⟩ := (matchingBracket?_eq_some_iff opens).1 found
  rw [place_behind, enclosed_group opens closes]
  simp

/-- The byte of a bracket that is found has bracketed text in front of it. -/
theorem closing?_eq_some_iff {opening close : Char} {rest : List Char} {stop : Nat}
    (opens : isOpening opening = true) :
    closing? close (opening :: rest) = some stop ↔
      isClosing close = true ∧
        ∃ inner after, rest = inner ++ close :: after ∧ Bracketed IsGroup inner ∧
          stop = Text.byteLength (opening :: inner) := by
  constructor
  · intro found
    obtain ⟨index, matched, rfl⟩ := Option.map_eq_some_iff.1 found
    obtain ⟨closes, inner, after, rfl, bracketed, rfl⟩ := (matchingBracket?_eq_some_iff opens).1 matched
    exact ⟨closes, inner, after, rfl, bracketed, place_behind opening inner (close :: after)⟩
  · rintro ⟨closes, inner, after, rfl, bracketed, rfl⟩
    have matched := (matchingBracket?_eq_some_iff opens).2 ⟨closes, inner, after, rfl, bracketed, rfl⟩
    rw [closing?, matched, Option.map_some, place_behind]

/-- Kinds are not compared inside of a group. -/
example : closing? ']' "([)]".toList = some 3 ∧ closing? ')' "([)]".toList = none := by decide

/-- Brackets match with regard to quotes and nesting: a group is ended by its own closing bracket, whatever
stands behind it. Wherever the search ends, it is at a character's first byte, at the bracket looked for and
behind the opening one, and what is between them is bracketed. -/
theorem closing?_bracketed (close : Char) :
    (∀ opening inner, IsPair opening close → Bracketed IsPair inner → ∀ after,
      closing? close (opening :: (inner ++ close :: after)) =
        some (Text.byteLength (opening :: inner))) ∧
    ∀ opening rest stop, isOpening opening = true → closing? close (opening :: rest) = some stop →
      1 ≤ stop ∧ ∃ inner after,
        Text.cutAt? stop (opening :: rest) = some (opening :: inner, close :: after) ∧
          Bracketed IsGroup inner := by
  constructor
  · intro opening inner pair bracketed after
    obtain ⟨opens, closes⟩ := pair.isGroup
    have loose : Bracketed IsGroup inner := bracketed.mono fun _ _ => IsPair.isGroup
    exact (closing?_eq_some_iff opens).2 ⟨closes, inner, after, rfl, loose, rfl⟩
  · intro opening rest stop opens found
    obtain ⟨_, inner, after, rfl, bracketed, rfl⟩ := (closing?_eq_some_iff opens).1 found
    exact ⟨Text.byteLength_pos (List.cons_ne_nil _ _), inner, after,
      Text.cutAt?_append (opening :: inner) (close :: after), bracketed⟩

/-- A group with a literal, which holds its closing bracket, an escaped quote and a letter of two bytes, and
with groups in each other. More brackets follow. -/
theorem closing?_bracketed_literal :
    IsPair '(' ')' ∧ Bracketed IsPair "é=\"ü)\\\"\"[{}]".toList ∧ isOpening '(' = true ∧
    closing? ')' "(é=\"ü)\\\"\"[{}])])".toList = some 15 ∧
    1 ≤ 15 ∧ ∃ inner after,
      Text.cutAt? 15 "(é=\"ü)\\\"\"[{}])])".toList = some ('(' :: inner, ')' :: after) ∧
        Bracketed IsGroup inner := by
  have content : Quotable '"' "ü)\\\"".toList :=
    .plain (by decide) (by decide) (.plain (by decide) (by decide) (.escaped .nil))
  have braces : Bracketed IsPair "{}".toList :=
    Bracketed.group (by decide : IsPair '{' '}') .nil .nil
  have groups : Bracketed IsPair "[{}]".toList :=
    Bracketed.group (by decide : IsPair '[' ']') braces .nil
  have literal : Bracketed IsPair "\"ü)\\\"\"[{}]".toList :=
    Bracketed.literal (by decide : isQuote '"' = true) content groups
  have bracketed : Bracketed IsPair "é=\"ü)\\\"\"[{}]".toList :=
    .plain ⟨rfl, rfl, rfl⟩ (.plain ⟨rfl, rfl, rfl⟩ literal)
  have pair : IsPair '(' ')' := by decide
  obtain ⟨ends, inside⟩ := closing?_bracketed ')'
  have found : closing? ')' "(é=\"ü)\\\"\"[{}])])".toList = some 15 :=
    ends '(' _ pair bracketed "])".toList
  exact ⟨pair, bracketed, rfl, found, inside '(' _ 15 rfl found⟩

/-! Pairs of characters. -/

/-- The byte of the first place where two characters stand together. -/
def findPair? (first second : Char) : List Char → Option Nat
  | [] => none
  | c :: rest =>
    if c = first ∧ rest.head? = some second then some 0
    else (findPair? first second rest).map (c.utf8Size + ·)

theorem findPair?_eq_none {first second : Char} {text : List Char}
    (absent : findPair? first second text = none) : ¬[first, second] <:+: text := by
  induction text with
  | nil => simp
  | cons c rest ih =>
    rw [findPair?] at absent
    split at absent
    · contradiction
    · next apart =>
      rw [List.infix_cons_iff]
      rintro (⟨after, same⟩ | inside)
      · cases same
        exact apart ⟨rfl, rfl⟩
      · exact ih (Option.map_eq_none_iff.1 absent) inside

theorem findPair?_eq_some {first second : Char} {text : List Char} {place : Nat}
    (found : findPair? first second text = some place) :
    ∃ before after, text = before ++ first :: second :: after ∧ Text.byteLength before = place ∧
      ¬[first, second] <:+: before := by
  induction text generalizing place with
  | nil => cases found
  | cons c rest ih =>
    rw [findPair?] at found
    split at found
    · next pair =>
      cases found
      obtain ⟨rfl, head⟩ := pair
      obtain ⟨after, rfl⟩ := List.head?_eq_some_iff.1 head
      exact ⟨[], after, rfl, rfl, by simp⟩
    · next apart =>
      obtain ⟨place, later, rfl⟩ := Option.map_eq_some_iff.1 found
      obtain ⟨before, after, rfl, rfl, free⟩ := ih later
      refine ⟨c :: before, after, rfl, rfl, ?_⟩
      rw [List.infix_cons_iff]
      rintro (⟨more, same⟩ | inside)
      · cases same
        exact apart ⟨rfl, rfl⟩
      · exact free inside

end Checked

end Querymap.Pug
