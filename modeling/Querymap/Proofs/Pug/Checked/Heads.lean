import Querymap.Proofs.Pug.Checked.Lists
import Querymap.Proofs.Pug.Heads

/-! The heads of lines and their forms, cut out byte by byte. A group may take in the lines that follow; what it
leaves of its line and of the others is less than what there was. -/
namespace Querymap.Pug

/-- A result without the proof about the lines that are left. -/
def erase₂ {α β : Type} {lines : List Line} (result : Except ParseError (α × β × Rest lines)) :
    Except ParseError (α × β × List Line) :=
  result.map fun (a, b, rest) => (a, b, rest.1)

namespace Checked

/-- The group at the start of a text, which takes in lines until it is closed: its inside, what follows it, and
the lines that are left. The text gets longer with each round, but the lines get fewer. -/
def readParentheses (number : Nat) (head : List Char) (lines : List Line) :
    Checked (List Char × List Char × List Line) :=
  match closing? ')' head with
  | some stop => do
    let (inner, after) ← enclosed head stop
    return (inner, after, lines)
  | none =>
    match lines with
    | [] => settled (.error ⟨number, .unclosedParenthesis⟩)
    | next :: others =>
      descend others.length (next :: others).length fun _ =>
        readParentheses number (head ++ '\n' :: next.text) others

/-- Shorthands and groups, with what follows them. Each one leaves less, of the head or of the lines. -/
def readTagAttributes (number : Nat) (head : List Char) (lines : List Line) :
    Checked (List Attribute × List Char × List Line) :=
  match splitShorthand? head with
  | some (attr, after) => do
    let after ← cutFrom head (matched head after)
    descend (room after lines) (room head lines) fun _ => do
      let (attributes, tail, rest) ← readTagAttributes number after lines
      return (attr :: attributes, tail, rest)
  | none =>
    if head.head? = some '(' then do
      let (inner, after, left) ← readParentheses number head lines
      let listed ← readAttributes inner
      descend (room after left) (room head lines) fun _ => do
        let (attributes, tail, rest) ← readTagAttributes number after left
        return (listed ++ attributes, tail, rest)
    else
      match Text.dropStart? "&attributes".toList head with
      | none => return ([], head, lines)
      | some argument =>
        if argument.head? = some '(' then do
          let (_, after, left) ← readParentheses number argument lines
          descend (room after left) (room head lines) fun _ => readTagAttributes number after left
        else settled (.error ⟨number, .missingAttributesArgument⟩)
termination_by room head lines

def skipArguments (number : Nat) (head : List Char) (lines : List Line) :
    Checked (List Char × List Char × List Line) :=
  if head.head? = some '(' then readParentheses number head lines else return ([], head, lines)

def readCall (number : Nat) (text : List Char) (lines : List Line) : Checked (Form × List Line) :=
  match splitMixinName? text with
  | none => settled (.error ⟨number, .unnamedCall⟩)
  | some (name, _) => do
    let head ← cutFrom text (Text.byteLength name.toList)
    let (_, head, left) ← skipArguments number head lines
    let (inner, tail, left) ← skipArguments number head left
    let attributes ← readAttributes inner
    match Text.dropStart? [':'] (Text.trimStart tail) with
    | some text => do
      let text ← settled (expansion number text)
      return (.call name attributes (some text), left)
    | none => return (.call name attributes none, left)

/-- The name of a tag and the text behind it. -/
def tagName (text : List Char) : Checked (List Char × List Char) :=
  match splitTagName? text with
  | some (name, _) => do
    let head ← cutFrom text (Text.byteLength name)
    return (name, head)
  | none => return ("div".toList, text)

def readTag (number : Nat) (text : List Char) (lines : List Line) : Checked (Form × List Line) := do
  let (name, head) ← tagName text
  let (attributes, tail, left) ← readTagAttributes number head lines
  let tail ← settled (readTail number (withoutSlash tail))
  return (.tag (String.ofList name) attributes tail, left)

/-- The text after the first `: `, if there is one. -/
def afterColon (text : List Char) : Checked (Option (List Char)) :=
  match findPair? ':' ' ' text with
  | none => return none
  | some place => some <$> cutFrom text (place + 2)

def readKeyword (number : Nat) (keyword : String) (rest : List Char) : Checked Form :=
  match keyword with
  | "when" | "default" => do
    let text ← afterColon rest
    return .when (text.map Text.trim)
  | _ => settled (Pug.readKeyword number keyword rest)

def readForm (number : Nat) (text : List Char) (lines : List Line) : Checked (Form × List Line) :=
  match text with
  -- These are known by their first characters, and no part is cut out of them.
  | '/' :: '/' :: _ | '|' :: _ | '<' :: _ | '#' :: '[' :: _ | '#' :: '{' :: _ | ':' :: _ | '-' :: _
  | '=' :: _ | '!' :: '=' :: _ => settled (erase (Pug.readForm number text lines))
  | '+' :: call => readCall number (Text.trimStart call) lines
  | _ =>
    match splitKeyword? text with
    | some (keyword, _) => do
      let rest ← cutFrom text (Text.byteLength keyword.toList)
      let form ← readKeyword number keyword (Text.trim rest)
      return (form, lines)
    | none =>
      if text.head? = some '#' || text.head? = some '.' || (splitTagName? text).isSome then
        readTag number text lines
      else settled (.error ⟨number, .unexpectedText (String.ofList text)⟩)

theorem readParentheses_eq {number : Nat} {head : List Char} {lines : List Line}
    (opened : head.head? = some '(') :
    readParentheses number head lines = settled (erase₂ (Pug.readParentheses number head lines)) := by
  obtain ⟨rest, rfl⟩ := List.head?_eq_some_iff.1 opened
  induction lines generalizing rest with
  | nil =>
    rw [readParentheses, Pug.readParentheses, closing?]
    cases found : matchingBracket? ')' ('(' :: rest) with
    | none => rfl
    | some stop =>
      simp only [Option.map_some, enclosed_closing rfl found, pure_bind]
      rfl
  | cons next others ih =>
    rw [readParentheses, Pug.readParentheses, closing?]
    cases found : matchingBracket? ')' ('(' :: rest) with
    | none =>
      have more := ih (rest ++ '\n' :: next.text) rfl
      have less : others.length < (next :: others).length := Nat.lt_succ_self _
      simp only [Option.map_none, List.cons_append, descend_of_lt less, more]
      cases Pug.readParentheses number ('(' :: (rest ++ '\n' :: next.text)) others <;> rfl
    | some stop =>
      simp only [Option.map_some, enclosed_closing rfl found, pure_bind]
      rfl

theorem splitShorthand?_suffix {text after : List Char} {attr : Attribute}
    (shorthand : splitShorthand? text = some (attr, after)) : after <:+ text := by
  unfold splitShorthand? at shorthand
  split at shorthand
  · dsimp only at shorthand
    split at shorthand <;> cases shorthand
    exact (List.dropWhile_suffix _).trans (List.suffix_cons _ _)
  · dsimp only at shorthand
    split at shorthand <;> cases shorthand
    exact (List.dropWhile_suffix _).trans (List.suffix_cons _ _)
  · contradiction

theorem readTagAttributes_settled (number : Nat) (head : List Char) (lines : List Line) :
    readTagAttributes number head lines =
      settled (erase₂ (Pug.readTagAttributes number head lines)) := by
  fun_induction Pug.readTagAttributes number head lines with
  | case1 head lines attr after shorthand ih =>
    have less : room after lines < room head lines := by
      have := splitShorthand?_smaller shorthand
      simp only [room]
      omega
    rw [readTagAttributes, shorthand]
    simp only [cutFrom_matched (splitShorthand?_suffix shorthand), pure_bind, descend_of_lt less, ih]
    cases Pug.readTagAttributes number after lines <;> rfl
  | case2 head lines shorthand opened error group =>
    rw [readTagAttributes, shorthand]
    simp only [opened, if_true, readParentheses_eq opened, group]
    rfl
  | case3 head lines shorthand opened inner after rest group ih =>
    rw [readTagAttributes, shorthand]
    have less : room after rest.1 < room head lines := readParentheses_smaller group
    simp only [opened, if_true, readParentheses_eq opened, group, erase₂, Except.map, settled_ok_bind,
      readAttributes_eq, pure_bind, descend_of_lt less, ih]
    cases Pug.readTagAttributes number after rest.1 <;> rfl
  | case4 head lines shorthand closed spread =>
    rw [readTagAttributes, shorthand]
    simp only [closed, if_false, spread]
    rfl
  | case5 head lines shorthand closed argument spread opened error group =>
    rw [readTagAttributes, shorthand]
    simp only [closed, if_false, spread, opened, if_true, readParentheses_eq opened, group]
    rfl
  | case6 head lines shorthand closed argument spread opened _ after rest group ih =>
    have less : room after rest.1 < room head lines := by
      have := readParentheses_smaller group
      have := dropStart?_length spread
      simp only [room]
      omega
    rw [readTagAttributes, shorthand]
    simp only [closed, if_false, spread, opened, if_true, readParentheses_eq opened, group, erase₂,
      Except.map, settled_ok_bind, descend_of_lt less, ih]
    cases Pug.readTagAttributes number after rest.1 <;> rfl
  | case7 head lines shorthand closed argument spread unopened =>
    rw [readTagAttributes, shorthand]
    simp only [closed, if_false, spread, unopened]
    rfl

theorem skipArguments_settled (number : Nat) (head : List Char) (lines : List Line) :
    skipArguments number head lines = settled (erase₂ (Pug.skipArguments number head lines)) := by
  rw [skipArguments, Pug.skipArguments]
  split
  · next opened => exact readParentheses_eq opened
  · rfl

theorem append_of_splitMixinName? {text after : List Char} {name : String}
    (named : splitMixinName? text = some (name, after)) : text = name.toList ++ after := by
  unfold splitMixinName? at named
  split at named
  · contradiction
  · cases named
    rw [String.toList_ofList, List.takeWhile_append_dropWhile]

theorem readCall_settled (number : Nat) (text : List Char) (lines : List Line) :
    readCall number text lines = settled (erase (Pug.readCall number text lines)) := by
  rw [readCall, Pug.readCall]
  cases named : splitMixinName? text with
  | none => rfl
  | some parts =>
    obtain ⟨name, head⟩ := parts
    obtain rfl := append_of_splitMixinName? named
    simp only [cutFrom_append, pure_bind, skipArguments_settled]
    cases Pug.skipArguments number head lines with
    | error => rfl
    | ok first =>
      obtain ⟨_, head, rest⟩ := first
      simp only [erase₂, Except.map, settled_ok_bind]
      cases Pug.skipArguments number head rest.1 with
      | error => rfl
      | ok second =>
        obtain ⟨inner, tail, rest⟩ := second
        simp only [settled_ok_bind, readAttributes_eq, pure_bind]
        cases dropped : Text.dropStart? [':'] (Text.trimStart tail) with
        | some text =>
          rw [Text.dropStart?_eq_some_iff.1 dropped, List.singleton_append]
          cases expanded : expansion number text <;> simp only [expanded] <;> rfl
        | none =>
          dsimp only
          split
          · next text colon =>
            rw [colon] at dropped
            cases dropped
          · rfl

theorem append_of_splitTagName? {text name after : List Char}
    (named : splitTagName? text = some (name, after)) : text = name ++ after := by
  unfold splitTagName? at named
  split at named
  · contradiction
  · next c rest =>
    split at named
    · cases named
      have word : (c :: rest).takeWhile (fun d => Text.isWord d || isNameJoint d) <+: c :: rest :=
        List.takeWhile_prefix _
      have begins := (Text.prefix_dropEndWhile isNameJoint _).trans word
      exact (List.prefix_iff_eq_append.1 begins).symm
    · contradiction

theorem tagName_eq (text : List Char) :
    tagName text = pure ((splitTagName? text).getD ("div".toList, text)) := by
  rw [tagName]
  cases named : splitTagName? text with
  | none => rfl
  | some parts =>
    obtain ⟨name, head⟩ := parts
    obtain rfl := append_of_splitTagName? named
    simp only [cutFrom_append, pure_bind]
    rfl

theorem readTag_settled (number : Nat) (text : List Char) (lines : List Line) :
    readTag number text lines = settled (erase (Pug.readTag number text lines)) := by
  rw [readTag, Pug.readTag, tagName_eq, pure_bind]
  simp only [readTagAttributes_settled]
  cases Pug.readTagAttributes number ((splitTagName? text).getD ("div".toList, text)).2 lines with
  | error => rfl
  | ok tagged =>
    obtain ⟨attributes, tail, rest⟩ := tagged
    simp only [erase₂, Except.map, settled_ok_bind]
    cases readTail number (withoutSlash tail) <;> rfl

theorem afterColon_eq (text : List Char) : afterColon text = pure (afterColon? text) := by
  rw [afterColon]
  cases found : findPair? ':' ' ' text with
  | none =>
    have plain := afterColon?_of_not_infix (findPair?_eq_none found)
    rw [plain]
  | some place =>
    obtain ⟨before, after, rfl, rfl, free⟩ := findPair?_eq_some found
    have behind : cutFrom (before ++ ':' :: ' ' :: after) (Text.byteLength before + 2) = pure after :=
      cutFrom_behind before [':', ' '] after
    rw [afterColon?_append free]
    dsimp only
    rw [behind, map_pure]

theorem readKeyword_settled (number : Nat) (keyword : String) (rest : List Char) :
    readKeyword number keyword rest = settled (Pug.readKeyword number keyword rest) := by
  unfold readKeyword
  split
  · rw [afterColon_eq, pure_bind]; rfl
  · rw [afterColon_eq, pure_bind]; rfl
  · rfl

theorem append_of_splitKeyword? {text rest : List Char} {keyword : String}
    (read : splitKeyword? text = some (keyword, rest)) : text = keyword.toList ++ rest := by
  obtain ⟨candidate, _, found⟩ := List.exists_of_findSome?_eq_some read
  split at found
  · next after dropped =>
    split at found
    · contradiction
    · cases found
      exact Text.dropStart?_eq_some_iff.1 dropped
  · contradiction

/-- The form of a line is settled: no cut in its head fails. -/
theorem readForm_settled (number : Nat) (text : List Char) (lines : List Line) :
    readForm number text lines = settled (erase (Pug.readForm number text lines)) := by
  unfold Pug.readForm
  dsimp only
  split
  case h_10 call =>
    rw [readForm]
    exact readCall_settled number (Text.trimStart call) lines
  case h_11 =>
    rw [readForm]
    · cases read : splitKeyword? text with
      | some parts =>
        obtain ⟨keyword, rest⟩ := parts
        obtain rfl := append_of_splitKeyword? read
        simp only [cutFrom_append, pure_bind, readKeyword_settled]
        cases Pug.readKeyword number keyword (Text.trim rest) <;> rfl
      | none =>
        dsimp only
        split
        · exact readTag_settled number text lines
        · rfl
    all_goals assumption
  all_goals rfl

end Checked

end Querymap.Pug
