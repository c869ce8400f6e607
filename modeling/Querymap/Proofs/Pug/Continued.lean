import Querymap.Proofs.Pug.LineLayout
import Querymap.Proofs.Pug.Steps

/-! Reading of heads and of single lines, in another layout and with more lines behind. A reader looks no
further than it has to and never at a column: unless an attribute list is still open where the lines end, it
takes the same steps and leaves what is behind as it is. -/
namespace Querymap.Pug

/-- Two results, the second one of a reading in the new layout with `more` behind the lines. What is open
where the lines end may be closed behind them. -/
inductive Continues (layout : LineLayout) (more : List Line) {α β : Type} (same : α → β → Prop) :
    Except ParseError α → Except ParseError β → Prop
  | open (number : Nat) {read' : Except ParseError β} (behind : more ≠ []) :
      Continues layout more same (.error ⟨number, .unclosedParenthesis⟩) read'
  | failed (error : ParseError) :
      Continues layout more same (.error error) (.error (error.renumber layout.number))
  | done {a : α} {b : β} (alike : same a b) : Continues layout more same (.ok a) (.ok b)

/-- A value, and the lines that are left, in the new layout and with more behind them. -/
inductive Keeps (layout : LineLayout) (more : List Line) {α : Type} {lines lines' : List Line} (value : α → α) :
    α × Rest lines → α × Rest lines' → Prop
  | intro (a : α) {rest : Rest lines} {rest' : Rest lines'}
      (left : rest'.1 = rest.1.map layout.line ++ more) : Keeps layout more value (a, rest) (value a, rest')

/-- Two values, and the lines that are left, in the new layout and with more behind them. -/
inductive Keeps₂ (layout : LineLayout) (more : List Line) {α β : Type} {lines lines' : List Line}
    (value : α → α) : α × β × Rest lines → α × β × Rest lines' → Prop
  | intro (a : α) (b : β) {rest : Rest lines} {rest' : Rest lines'}
      (left : rest'.1 = rest.1.map layout.line ++ more) :
      Keeps₂ layout more value (a, b, rest) (value a, b, rest')

section

variable {layout : LineLayout} {more : List Line}

theorem Continues.bind {α β γ δ : Type} {same : α → β → Prop} {same' : γ → δ → Prop}
    {read : Except ParseError α} {read' : Except ParseError β} {next : α → Except ParseError γ}
    {next' : β → Except ParseError δ} (continues : Continues layout more same read read')
    (following : ∀ a b, read = .ok a → same a b → Continues layout more same' (next a) (next' b)) :
    Continues layout more same' (read.bind next) (read'.bind next') := by
  cases continues with
  | «open» number behind => exact .open number behind
  | failed error => exact .failed error
  | done alike => exact following _ _ rfl alike

theorem Continues.map {α β γ δ : Type} {same : α → β → Prop} {same' : γ → δ → Prop}
    {read : Except ParseError α} {read' : Except ParseError β} {f : α → γ} {g : β → δ}
    (continues : Continues layout more same read read') (keeps : ∀ a b, same a b → same' (f a) (g b)) :
    Continues layout more same' (read.map f) (read'.map g) := by
  cases continues with
  | «open» number behind => exact .open number behind
  | failed error => exact .failed error
  | done alike => exact .done (keeps _ _ alike)

/-! Heads and forms. -/

variable {lines lines' : List Line}

theorem readParentheses_continues (number : Nat) (head : List Char)
    (longer : lines' = lines.map layout.line ++ more) :
    Continues layout more (Keeps₂ layout more id) (readParentheses number head lines)
      (readParentheses (layout.number number) head lines') := by
  subst longer
  induction lines generalizing head with
  | nil =>
    rw [readParentheses.eq_def, readParentheses.eq_def (layout.number number)]
    cases matchingBracket? ')' head with
    | some stop => exact .done (.intro _ _ rfl)
    | none =>
      cases more with
      | nil => exact .failed ⟨number, .unclosedParenthesis⟩
      | cons => exact .open number (by simp)
  | cons next others ih =>
    rw [List.map_cons, List.cons_append, readParentheses, readParentheses]
    cases matchingBracket? ')' head with
    | some stop => exact .done (.intro _ _ rfl)
    | none =>
      have deeper := ih (head ++ '\n' :: next.text)
      simp only [LineLayout.line_text]
      generalize readParentheses number _ others = read at deeper ⊢
      generalize readParentheses _ _ (others.map layout.line ++ more) = read' at deeper ⊢
      cases deeper with
      | «open» number behind => exact .open number behind
      | failed error => exact .failed error
      | done alike =>
        obtain ⟨inner, tail, left⟩ := alike
        exact .done (.intro inner tail left)

theorem readTagAttributes_continues {lines lines' : List Line} (number : Nat) (head : List Char)
    (longer : lines' = lines.map layout.line ++ more) :
    Continues layout more (Keeps₂ layout more id) (readTagAttributes number head lines)
      (readTagAttributes (layout.number number) head lines') := by
  rw [readTagAttributes_eq number, readTagAttributes_eq (layout.number number)]
  cases shorthand : splitShorthand? head with
  | some found =>
    obtain ⟨attr, after⟩ := found
    have smaller := splitShorthand?_smaller shorthand
    refine (readTagAttributes_continues number after longer).map ?_
    rintro _ _ ⟨attributes, tail, left⟩
    exact .intro (attr :: attributes) tail left
  | none =>
    dsimp only
    by_cases opened : head.head? = some '('
    · rw [if_pos opened, if_pos opened]
      refine (readParentheses_continues number head longer).bind ?_
      rintro ⟨inner, after, rest⟩ _ group ⟨_, _, left⟩
      have smaller := readParentheses_smaller group
      refine (readTagAttributes_continues number after left).map ?_
      rintro _ _ ⟨attributes, tail, left⟩
      exact .intro (readAttributes inner ++ attributes) tail left
    · rw [if_neg opened, if_neg opened]
      cases spread : Text.dropStart? "&attributes".toList head with
      | none => exact .done (.intro [] head longer)
      | some argument =>
        dsimp only
        by_cases opened : argument.head? = some '('
        · rw [if_pos opened, if_pos opened]
          refine (readParentheses_continues number argument longer).bind ?_
          rintro ⟨inner, after, rest⟩ _ group ⟨_, _, left⟩
          have smaller := readParentheses_smaller group
          have shorter := dropStart?_length spread
          refine (readTagAttributes_continues number after left).map ?_
          rintro _ _ ⟨attributes, tail, left⟩
          exact .intro attributes tail left
        · rw [if_neg opened, if_neg opened]
          exact .failed ⟨number, .missingAttributesArgument⟩
termination_by head.length + weight lines

theorem skipArguments_continues (number : Nat) (head : List Char)
    (longer : lines' = lines.map layout.line ++ more) :
    Continues layout more (Keeps₂ layout more id) (skipArguments number head lines)
      (skipArguments (layout.number number) head lines') := by
  rw [skipArguments, skipArguments]
  split
  · exact readParentheses_continues number head longer
  · exact .done (.intro [] head longer)

theorem expansion_continues (number : Nat) (text : List Char) :
    Continues layout more Eq (expansion number text) (expansion (layout.number number) text) := by
  rw [expansion, expansion]
  split
  · exact .failed ⟨number, .missingExpansion⟩
  · exact .done rfl

theorem readCall_continues (number : Nat) (text : List Char)
    (longer : lines' = lines.map layout.line ++ more) :
    Continues layout more (Keeps layout more layout.form) (readCall number text lines)
      (readCall (layout.number number) text lines') := by
  rw [readCall, readCall]
  cases splitMixinName? text with
  | none => exact .failed ⟨number, .unnamedCall⟩
  | some named =>
    obtain ⟨name, head⟩ := named
    have first := skipArguments_continues number head longer
    dsimp only
    generalize skipArguments number head lines = read at first ⊢
    generalize skipArguments _ head lines' = read' at first ⊢
    cases first with
    | «open» number behind => exact .open number behind
    | failed error => exact .failed error
    | done alike =>
      obtain @⟨_, head, rest, rest', left⟩ := alike
      have second := skipArguments_continues number head left
      dsimp only
      generalize skipArguments number head rest.1 = read at second ⊢
      generalize skipArguments _ head rest'.1 = read' at second ⊢
      cases second with
      | «open» number behind => exact .open number behind
      | failed error => exact .failed error
      | done alike =>
        obtain ⟨inner, tail, left⟩ := alike
        dsimp only
        split
        · refine (expansion_continues number _).map ?_
          rintro text _ rfl
          exact .intro (Form.call name (readAttributes inner) (some text)) left
        · exact .done (.intro (Form.call name (readAttributes inner) none) left)

theorem readTail_continues (number : Nat) (text : List Char) :
    Continues layout more Eq (readTail number text) (readTail (layout.number number) text) := by
  unfold readTail
  split
  · exact .done rfl
  · exact .done rfl
  · exact .done rfl
  · exact .done rfl
  · refine (expansion_continues number _).map ?_
    rintro text _ rfl
    rfl
  · split
    · exact .done rfl
    · exact .failed ⟨number, .unexpectedText _⟩

theorem readTag_continues (number : Nat) (text : List Char)
    (longer : lines' = lines.map layout.line ++ more) :
    Continues layout more (Keeps layout more layout.form) (readTag number text lines)
      (readTag (layout.number number) text lines') := by
  rw [readTag, readTag]
  have tagged := readTagAttributes_continues number
    ((splitTagName? text).getD ("div".toList, text)).2 longer
  generalize readTagAttributes number _ lines = read at tagged ⊢
  generalize readTagAttributes _ _ lines' = read' at tagged ⊢
  cases tagged with
  | «open» number behind => exact .open number behind
  | failed error => exact .failed error
  | done alike =>
    obtain ⟨attributes, tail, left⟩ := alike
    refine (readTail_continues number (withoutSlash tail)).map ?_
    rintro tail _ rfl
    exact .intro (Form.tag _ attributes tail) left

theorem readKeyword_continues (number : Nat) (keyword : String) (rest : List Char) :
    Continues layout more (fun form form' => form' = layout.form form) (readKeyword number keyword rest)
      (readKeyword (layout.number number) keyword rest) := by
  unfold readKeyword
  split
  all_goals try exact .done rfl
  · split
    · exact .done rfl
    · exact .failed ⟨number, .unnamedMixin⟩
  · split
    · exact .failed ⟨number, .missingIncludePath⟩
    · exact .done rfl
  · exact .failed ⟨number, .unexpectedKeyword keyword⟩

theorem readForm_continues (number : Nat) (text : List Char)
    (longer : lines' = lines.map layout.line ++ more) :
    Continues layout more (Keeps layout more layout.form) (readForm number text lines)
      (readForm (layout.number number) text lines') := by
  unfold readForm
  dsimp only
  split
  case h_10 => exact readCall_continues number _ longer
  case h_11 =>
    split
    · next keyword rest _ =>
      refine (readKeyword_continues number keyword (Text.trim rest)).map ?_
      rintro form _ rfl
      exact .intro form longer
    · split
      · exact readTag_continues number text longer
      · exact .failed ⟨number, .unexpectedText (String.ofList text)⟩
  all_goals exact .done (.intro _ longer)

/-! Lines. -/

mutual

theorem readLine_continues {lines lines' : List Line} (number : Nat) (text : List Char)
    (longer : lines' = lines.map layout.line ++ more) :
    Continues layout more (Keeps₂ layout more (Node.renumber layout.number)) (readLine number text lines)
      (readLine (layout.number number) text lines') := by
  rw [readLine_eq number, readLine_eq (layout.number number)]
  refine (readForm_continues number text longer).bind ?_
  rintro _ _ read ⟨form, left⟩
  have bound := readForm_reach read
  match form with
  | .node node children => exact .done (.intro node children left)
  | .when none => exact .done (.intro (Node.when []) _ left)
  | .call name attributes none => exact .done (.intro (Node.call name attributes []) _ left)
  | .tag name attributes .empty | .tag name attributes .dot =>
    exact .done (.intro (Node.tag name attributes []) _ left)
  | .prose prose =>
    refine (readProse_continues number prose left).map ?_
    rintro _ _ ⟨nodes, left⟩
    cases nodes with
    | nil => exact .intro Node.text Children.none left
    | cons node rest => exact .intro (Node.group (node :: rest)) Children.none left
  | .when (some inner) =>
    refine (readLine_continues number inner left).map ?_
    rintro _ _ ⟨node, _, left⟩
    exact .intro (Node.when [node]) _ left
  | .call name attributes (some inner) =>
    refine (readLine_continues number inner left).map ?_
    rintro _ _ ⟨node, _, left⟩
    exact .intro (Node.call name attributes [node]) _ left
  | .tag name attributes (.prose prose) =>
    refine (readProse_continues number prose left).map ?_
    rintro _ _ ⟨nodes, left⟩
    exact .intro (Node.tag name attributes nodes) _ left
  | .tag name attributes (.expansion inner) =>
    refine (readLine_continues number inner left).map ?_
    rintro _ _ ⟨node, _, left⟩
    exact .intro (Node.tag name attributes [node]) _ left
termination_by 2 * room text lines + 1
decreasing_by
  all_goals
    simp only [Form.reach, room] at *
    omega

theorem readProse_continues {lines lines' : List Line} (number : Nat) (text : List Char)
    (longer : lines' = lines.map layout.line ++ more) :
    Continues layout more (Keeps layout more (renumber layout.number)) (readProse number text lines)
      (readProse (layout.number number) text lines') := by
  rw [readProse_eq number, readProse_eq (layout.number number)]
  cases next : interpolation? false text with
  | none => exact .done (.intro [] longer)
  | some found =>
    obtain ⟨escaped, group⟩ := found
    have shorter := interpolation?_length next
    cases escaped with
    | true => exact readProse_continues number (group.drop 1) longer
    | false =>
      dsimp only
      cases closed : matchingBracket? ']' group with
      | none => exact .failed ⟨number, .unclosedInterpolation⟩
      | some stop =>
        have inside := matchingBracket?_lt closed
        have trimmed : (Text.trim ((group.take stop).drop 1)).length ≤ min stop group.length - 1 := by
          simpa only [List.length_drop, List.length_take] using trim_length ((group.take stop).drop 1)
        refine (readLine_continues number (Text.trim ((group.take stop).drop 1)) longer).bind ?_
        rintro ⟨node, _, rest⟩ _ _ ⟨_, _, left⟩
        have fewer := weight_le rest.2
        refine (readProse_continues number (group.drop (stop + 1)) left).map ?_
        rintro _ _ ⟨nodes, left⟩
        exact .intro (node :: nodes) left
termination_by 2 * room text lines
decreasing_by
  all_goals
    simp only [room, List.length_drop]
    omega

end

end

end Querymap.Pug
