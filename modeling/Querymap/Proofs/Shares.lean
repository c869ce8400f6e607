import Querymap.Proofs.Outcome
import Querymap.Proofs.Pug.Extracts

/-! Extraction in shares. What a share remembers of included templates is what reading them again would
give, so each file contributes what it contributes alone, and neither the dealing nor the order shows. -/
namespace Querymap

namespace Pug

theorem Linked.main {files : Files} {path : Path} {nodes : Block} (shunned : List Path)
    (holds : Holds files path nodes) : Linked files shunned [path] path (inclusions nodes) := by
  intro first member
  cases List.mem_singleton.1 member
  exact .inr fun _ => (reaches_iff_reachedFrom holds).2

/-- The template of a file gives what the rules give, from whatever sound table. -/
theorem pug_file_extracts {files : Files} {path : Path} {content : String}
    (mode : Markup.ScopeMode) (read : files.read path = .ok content) {table : Includes}
    (sound : table.Sound files []) :
    Extracts files mode (some path) content
        ((Extract.pug files.source mode (some path) content).run table).1 ∧
      ((Extract.pug files.source mode (some path) content).run table).2.Sound files [] := by
  refine pug_extracts (by simp) (fun nodes parsed main found => ?_) sound
  cases found
  exact .main [] ⟨content, read, parsed⟩

end Pug

theorem run_extract_pug (source : Source) (options : Options) (path : Option Path) (content : String)
    (table : Pug.Includes) :
    (extract source options .pug path content).run table =
      Prod.map (Except.map (⟨·, none⟩)) id
        ((Extract.pug source options.scopeMode path content).run table) := by
  unfold extract
  dsimp only
  rw [Pug.run_bind]
  generalize (Extract.pug source options.scopeMode path content).run table = outcome
  rcases outcome with ⟨error | map, table⟩ <;> rfl

variable {files : Files} {options : Options} {path : Path} {paths : List Path}
  {table : Pug.Includes}

/-- A file contributes what it contributes alone, and leaves a sound table, even if it fails. -/
theorem extractFile_of_sound (options : Options) (path : Path) (sound : table.Sound files []) :
    ((extractFile files.source options path).run table).1 =
        extractAlone files.source options path ∧
      ((extractFile files.source options path).run table).2.Sound files [] := by
  simp only [extractAlone, extractFile]
  cases read : files.source.read path with
  | error cause => exact ⟨rfl, sound⟩
  | ok content =>
    dsimp only
    -- Only templates read includes.
    by_cases template : FileType.ofPath path = .pug
    · rw [template, run_extract_pug, run_extract_pug]
      have here := Pug.pug_file_extracts options.scopeMode read sound
      have alone := Pug.pug_file_extracts options.scopeMode read (Pug.Includes.sound_nil files [])
      refine ⟨?_, here.2⟩
      simp only [Prod.map_fst, here.1.unique alone.1]
    · have free := includeless_of_ne template content
      rw [run_extract_of_includeless files.source files.source options free,
        run_extract_of_includeless files.source files.source options free]
      exact ⟨rfl, sound⟩

theorem extractShare_of_sound (options : Options) (sound : table.Sound files []) :
    extractShare files.source options paths table =
      paths.map fun path => (path, extractAlone files.source options path) := by
  induction paths generalizing table with
  | nil => rfl
  | cons path rest ih =>
    obtain ⟨same, after⟩ := extractFile_of_sound options path sound
    simp only [extractShare, List.map_cons]
    rw [← same]
    exact congrArg _ (ih after)

/-- The files of some shares that are not skipped. -/
def asked (skipped : List String) (shares : List (List Path)) : List Path :=
  shares.flatten.filter (!skipped.contains ·.spelling)

theorem extractShares_eq_ofFunction (files : Files) (options : Options) (skipped : List String)
    (shares : List (List Path)) :
    extractShares files.source options skipped shares =
      .ofFunction (extractAlone files.source options) (asked skipped shares) := by
  simp only [extractShares, Outcome.ofFunction, asked,
    extractShare_of_sound options (Pug.Includes.sound_nil files [])]
  rw [List.filter_flatten, List.map_flatten, List.map_map, List.flatMap_def]
  rfl

namespace Outcome

variable {result : Path → Except ExtractError Extracted} {paths others : List Path}

/-- The failures among some files, one for each time that a file is listed. -/
def failures (result : Path → Except ExtractError Extracted) (paths : List Path) :
    List (String × ExtractError) :=
  paths.filterMap fun path =>
    match result path with
    | .error error => some (path.spelling, error)
    | .ok _ => none

theorem errors_ofFunction_perm (result : Path → Except ExtractError Extracted) (paths : List Path) :
    (ofFunction result paths).errors.Perm (failures result paths) := by
  refine (List.mergeSort_perm _ _).trans (List.Perm.of_eq ?_)
  rw [List.filterMap_map]
  refine congrArg (paths.filterMap ·) (funext fun path => ?_)
  dsimp only [Function.comp]
  cases result path <;> rfl

theorem typings_ofFunction_perm (same : paths.Perm others) :
    (ofFunction result paths).typings = (ofFunction result others).typings := by
  have equal : ∀ (path : Path) map, (ofFunction result paths).typings.get? path.spelling = some map ↔
      (ofFunction result others).typings.get? path.spelling = some map := by
    intro path map
    rw [get?_typings_ofFunction, get?_typings_ofFunction, same.mem_iff]
  exact Dict.ext_get? fun key => Option.ext fun map => equal ⟨key⟩ map

/-- A path has one error only, so sorting by path leaves no choice. -/
theorem errors_ofFunction_perm_eq (same : paths.Perm others) :
    (ofFunction result paths).errors = (ofFunction result others).errors := by
  refine List.Perm.eq_of_pairwise ?_ (errors_ofResults_sorted _) (errors_ofResults_sorted _)
    ((errors_ofFunction_perm result paths).trans
      ((same.filterMap _).trans (errors_ofFunction_perm result others).symm))
  rintro ⟨name, error⟩ ⟨name', error'⟩ first second le ge
  obtain ⟨path, _, rfl, failed⟩ := mem_errors_ofFunction.1 first
  obtain ⟨path', _, rfl, failed'⟩ := mem_errors_ofFunction.1 second
  have equal : path = path' := congrArg Path.mk (String.le_antisymm le ge)
  subst equal
  cases failed.symm.trans failed'
  rfl

end Outcome

/-- An outcome holds what each file of a list gives: the maps of those that succeed, under their paths,
and the errors of all others in path order. -/
structure Outcome.Covers (outcome : Outcome) (result : Path → Except ExtractError Extracted)
    (paths : List Path) : Prop where
  typings : ∀ path map, outcome.typings.get? path.spelling = some map ↔
    path ∈ paths ∧ ∃ extracted, result path = .ok extracted ∧ extracted.map = map
  errors : outcome.errors.Perm (failures result paths)
  sorted : outcome.errors.Pairwise (·.1 ≤ ·.1)

/-- However a list of files is dealt out, the outcome holds what each file gives alone; from the same
files in another order or dealt out otherwise come the same typings and the same errors. -/
theorem extractShares_covers (files : Files) (options : Options) (skipped : List String)
    (paths : List Path) (shares : List (List Path)) (dealt : shares.flatten = paths) :
    (extractShares files.source options skipped shares).Covers (extractAlone files.source options)
        (paths.filter (!skipped.contains ·.spelling)) ∧
      ∀ others : List (List Path), others.flatten.Perm paths →
        (extractShares files.source options skipped others).typings =
            (extractShares files.source options skipped shares).typings ∧
          (extractShares files.source options skipped others).errors =
            (extractShares files.source options skipped shares).errors := by
  subst dealt
  simp only [extractShares_eq_ofFunction]
  refine ⟨⟨fun _ _ => Outcome.get?_typings_ofFunction, Outcome.errors_ofFunction_perm _ _,
    Outcome.errors_ofResults_sorted _⟩, fun others same => ?_⟩
  have reordered : (asked skipped others).Perm (asked skipped shares) := same.filter _
  exact ⟨Outcome.typings_ofFunction_perm reordered, Outcome.errors_ofFunction_perm_eq reordered⟩

/-- Two templates that include a third one, dealt out to two shares or to one. -/
theorem extractShares_two_pages :
    let files : Files := ⟨[(⟨"a.pug"⟩, "include part"), (⟨"b.pug"⟩, "include part"),
      (⟨"part.pug"⟩, "#menu")]⟩
    (extractShares files.source {} [] [[⟨"a.pug"⟩], [⟨"b.pug"⟩]]).Covers
        (extractAlone files.source {}) [⟨"a.pug"⟩, ⟨"b.pug"⟩] ∧
      (extractShares files.source {} [] [[⟨"b.pug"⟩, ⟨"a.pug"⟩]]).typings =
        (extractShares files.source {} [] [[⟨"a.pug"⟩], [⟨"b.pug"⟩]]).typings := by
  intro files
  have whole := extractShares_covers files {} [] [⟨"a.pug"⟩, ⟨"b.pug"⟩] [[⟨"a.pug"⟩], [⟨"b.pug"⟩]] rfl
  exact ⟨whole.1, (whole.2 [[⟨"b.pug"⟩, ⟨"a.pug"⟩]] (.swap ..)).1⟩

end Querymap
