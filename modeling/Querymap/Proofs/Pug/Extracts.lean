import Querymap.Extract
import Querymap.Proofs.Pug.IncludeTable

/-! Extraction of a template by rules: parse it, inline its includes with nothing remembered, and record
the elements. The extractor gives the same maps and the same errors. -/
namespace Querymap.Pug

/-- What a template contributes, or why it does not. -/
inductive Extracts (files : Files) (mode : Markup.ScopeMode) (path : Option Path) (content : String) :
    Except ExtractError ScopeMap → Prop
  | malformed {error : ParseError} : parse content = .error error →
      Extracts files mode path content (.error (.template (displayPath path) error))
  | failed {nodes : Block} {error : ExtractError} : parse content = .ok nodes →
      Inlines files path.toList path (inclusions nodes) (.error error) →
      Extracts files mode path content (.error error)
  | done {nodes : Block} {blocks : List Block} : parse content = .ok nodes →
      Inlines files path.toList path (inclusions nodes) (.ok blocks) →
      Extracts files mode path content (.ok (Markup.record mode (events (fill blocks nodes))))

variable {files : Files} {shunned : List Path} {source : Source} {mode : Markup.ScopeMode}
  {path : Option Path} {content : String} {nodes : Block} {table : Includes}

/-- The rules lead to one result only. -/
theorem Extracts.unique {result result' : Except ExtractError ScopeMap}
    (first : Extracts files mode path content result)
    (second : Extracts files mode path content result') : result = result' := by
  cases first with
  | malformed unparsed =>
    cases second with
    | malformed unparsed' => cases unparsed.symm.trans unparsed'; rfl
    | failed parsed | done parsed => cases unparsed.symm.trans parsed
  | failed parsed inlines =>
    cases second with
    | malformed unparsed => cases unparsed.symm.trans parsed
    | failed parsed' inlines' =>
      cases parsed.symm.trans parsed'
      cases inlines.unique inlines'
      rfl
    | done parsed' inlines' =>
      cases parsed.symm.trans parsed'
      cases inlines.unique inlines'
  | done parsed inlines =>
    cases second with
    | malformed unparsed => cases unparsed.symm.trans parsed
    | failed parsed' inlines' =>
      cases parsed.symm.trans parsed'
      cases inlines.unique inlines'
    | done parsed' inlines' =>
      cases parsed.symm.trans parsed'
      cases inlines.unique inlines'
      rfl

theorem Inlines.of_outcome {outcome : Except ExtractError (List Block)}
    (parsed : parse content = .ok nodes)
    (inlines : Inlines files path.toList path (inclusions nodes) outcome) :
    Extracts files mode path content
      (outcome.map fun blocks => Markup.record mode (events (fill blocks nodes))) := by
  cases outcome with
  | error => exact .failed parsed inlines
  | ok => exact .done parsed inlines

theorem run_pug_of_error {error : ParseError} (unparsed : parse content = .error error) :
    (Extract.pug source mode path content).run table =
      (.error (.template (displayPath path) error), table) := by
  unfold Extract.pug
  simp only [unparsed]
  rfl

theorem run_pug_of_ok (parsed : parse content = .ok nodes) :
    (Extract.pug source mode path content).run table =
      Prod.map (Except.map fun blocks => Markup.record mode (events (fill blocks nodes))) id
        ((loadAll (load source path .empty path) (inclusions nodes)).run table) := by
  unfold Extract.pug
  simp only [parsed, inlineIncludes, expandBlock_eq_fill, map_eq_pure_bind, bind_assoc, pure_bind]
  rw [run_bind]
  generalize ExceptT.run (m := StateM Includes) _ table = outcome
  rcases outcome with ⟨error | blocks, table⟩ <;> rfl

/-- The includes of the main template. -/
theorem loadAll_main_follows {list : List Inclusion} (within : ∀ main ∈ shunned, main ∈ path)
    (linked : ∀ main ∈ path, Linked files shunned [main] main list)
    (sound : table.Sound files shunned) :
    Follows files shunned path.toList path list
      ((loadAll (load files.source path .empty path) list).run table) := by
  cases path with
  | some main =>
    exact loadAll_follows .empty (fun other member => Option.mem_toList.2 (within other member))
      (linked main rfl) sound
  | none =>
    cases list with
    | nil => exact ⟨.done, sound⟩
    | cons first rest =>
      rw [run_loadAll_error run_load_none]
      exact ⟨.homeless, sound⟩

theorem pug_extracts (within : ∀ main ∈ shunned, main ∈ path)
    (linked : ∀ nodes, parse content = .ok nodes →
      ∀ main ∈ path, Linked files shunned [main] main (inclusions nodes))
    (sound : table.Sound files shunned) :
    Extracts files mode path content ((Extract.pug files.source mode path content).run table).1 ∧
      ((Extract.pug files.source mode path content).run table).2.Sound files shunned := by
  cases parsed : parse content with
  | error error =>
    rw [run_pug_of_error parsed]
    exact ⟨.malformed parsed, sound⟩
  | ok nodes =>
    have follows := loadAll_main_follows within (linked nodes parsed) sound
    rw [run_pug_of_ok parsed]
    exact ⟨follows.inlines.of_outcome parsed, follows.sound⟩

/-- With nothing read yet, the text may differ from that of the file: nothing known leads back to it. -/
theorem pug_extracts_afresh (files : Files) (mode : Markup.ScopeMode) (path : Option Path)
    (content : String) :
    Extracts files mode path content ((Extract.pug files.source mode path content).run []).1 := by
  have linked : ∀ nodes, parse content = .ok nodes → ∀ main ∈ path,
      Linked files path.toList [main] main (inclusions nodes) := fun _ _ main found other inside =>
    .inl (List.mem_singleton.1 inside ▸ Option.mem_toList.2 found)
  exact (pug_extracts (by simp) linked (Includes.sound_nil files path.toList)).1

/-- An extractor that has read nothing yet gives what the rules give. -/
theorem pug_eq_iff_extracts (files : Files) (mode : Markup.ScopeMode) (path : Option Path)
    (content : String) (result : Except ExtractError ScopeMap) :
    ((Extract.pug files.source mode path content).run []).1 = result ↔
      Extracts files mode path content result := by
  have extracts := pug_extracts_afresh files mode path content
  constructor
  · rintro rfl
    exact extracts
  · exact extracts.unique

end Querymap.Pug
