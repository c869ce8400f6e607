import Mathlib.Data.List.Nodup
import Querymap.Proofs.Outcome

/-! What each file of a list gives in its turn. Files are taken from any source, so what a file gives may
hang on the templates that were read before it; a file that cannot be read or parsed gives its error
all the same. -/
namespace Querymap

/-- The result of a file in its turn among the files of a list. -/
def Gives (source : Source) (options : Options) (paths : List Path) (path : Path)
    (result : Except ExtractError Extracted) : Prop :=
  (path, result) ∈ extractShare source options paths []

variable {source : Source} {options : Options} {paths : List Path} {path : Path}

theorem extractShare_cons (source : Source) (options : Options) (path : Path) (paths : List Path)
    (includes : Pug.Includes) :
    extractShare source options (path :: paths) includes =
      (path, ((extractFile source options path).run includes).1) ::
        extractShare source options paths ((extractFile source options path).run includes).2 := rfl

theorem map_fst_extractShare (source : Source) (options : Options) (paths : List Path)
    (includes : Pug.Includes) :
    (extractShare source options paths includes).map (·.1) = paths := by
  induction paths generalizing includes with
  | nil => rfl
  | cons path rest ih =>
    rw [extractShare_cons, List.map_cons, ih]

theorem Gives.listed {result : Except ExtractError Extracted}
    (gives : Gives source options paths path result) : path ∈ paths := by
  have listed := List.mem_map_of_mem (f := Prod.fst) gives
  rwa [map_fst_extractShare] at listed

theorem exists_gives (listed : path ∈ paths) : ∃ result, Gives source options paths path result := by
  rw [← map_fst_extractShare source options paths []] at listed
  obtain ⟨⟨_, result⟩, member, rfl⟩ := List.mem_map.1 listed
  exact ⟨result, member⟩

theorem functional_extractShare (distinct : (paths.map (·.spelling)).Nodup) :
    ∀ a ∈ extractShare source options paths [], ∀ b ∈ extractShare source options paths [],
      a.1 = b.1 → a.2 = b.2 := by
  intro a first b second same
  have nodup : ((extractShare source options paths []).map (·.1)).Nodup := by
    rw [map_fst_extractShare]
    exact distinct.of_map _
  exact congrArg Prod.snd (List.inj_on_of_nodup_map nodup first second same)

theorem extractFiles_eq_ofResults (source : Source) (options : Options) (paths : List Path) :
    extractFiles source options [] paths = .ofResults (extractShare source options paths []) := by
  have all : paths.filter (!([] : List String).contains ·.spelling) = paths :=
    List.filter_eq_self.2 fun _ _ => rfl
  rw [extractFiles, extractShares, List.flatMap_cons, List.flatMap_nil, List.append_nil, all]

theorem mem_errors_iff {name : String} {error : ExtractError} :
    (name, error) ∈ (extractFiles source options [] paths).errors ↔
      Gives source options paths ⟨name⟩ (.error error) := by
  rw [extractFiles_eq_ofResults]
  exact Outcome.mem_errors_ofResults

theorem get?_typings_iff (distinct : (paths.map (·.spelling)).Nodup) {map : ScopeMap} :
    (extractFiles source options [] paths).typings.get? path.spelling = some map ↔
      ∃ extracted, Gives source options paths path (.ok extracted) ∧ extracted.map = map := by
  rw [extractFiles_eq_ofResults]
  exact Outcome.get?_typings_ofResults (functional_extractShare distinct)

/-- Each failing file is reported once, in path order. -/
theorem errors_increasing (distinct : (paths.map (·.spelling)).Nodup) :
    (extractFiles source options [] paths).errors.Pairwise (·.1 < ·.1) := by
  rw [extractFiles_eq_ofResults]
  have results : (extractShare source options paths []).Pairwise fun a b =>
      a.1.spelling ≠ b.1.spelling := by
    rw [← map_fst_extractShare source options paths [], List.map_map] at distinct
    exact List.pairwise_map.1 distinct
  have apart : (Outcome.ofResults (extractShare source options paths [])).errors.Pairwise
      (·.1 ≠ ·.1) := by
    refine (List.mergeSort_perm _ _).symm.pairwise ?_ fun other => Ne.symm other
    apply results.filterMap
    rintro ⟨one, error | _⟩ ⟨two, cause | _⟩ other _ ⟨⟩ _ ⟨⟩
    exact other
  refine (Outcome.errors_ofResults_sorted _).imp₂ (fun a b le other => ?_) apart
  exact Decidable.byContradiction fun less => other (String.le_antisymm le (String.not_lt.1 less))

theorem gives_of_always {result : Except ExtractError Extracted} (listed : path ∈ paths)
    (always : ∀ includes, ((extractFile source options path).run includes).1 = result) :
    Gives source options paths path result := by
  have turn : ∀ (paths : List Path) (includes : Pug.Includes), path ∈ paths →
      (path, result) ∈ extractShare source options paths includes := by
    intro paths
    induction paths with
    | nil => exact fun _ member => absurd member List.not_mem_nil
    | cons first rest ih =>
      intro includes member
      rw [extractShare_cons]
      rcases List.mem_cons.1 member with rfl | member
      · rw [always]
        exact List.mem_cons_self
      · exact List.mem_cons_of_mem _ (ih _ member)
  exact turn paths [] listed

/-- A file that cannot be read, or whose own content cannot be parsed. -/
inductive Broken (source : Source) (path : Path) : ExtractError → Prop
  | unreadable {cause : FileError} (read : source.read path = .error cause) :
      Broken source path (.unreadable path cause)
  | template {content : String} {error : Pug.ParseError} (type : FileType.ofPath path = .pug)
      (read : source.read path = .ok content) (parse : Pug.parse content = .error error) :
      Broken source path (.template path.spelling error)
  | script {content : String} {failure : Script.Failure}
      (type : FileType.ofPath path = .jsx ∨ FileType.ofPath path = .tsx)
      (read : source.read path = .ok content) (parse : Script.parse content = .error failure) :
      Broken source path (.script path.spelling failure.line)

theorem Broken.always {error : ExtractError} (broken : Broken source path error) (options : Options)
    (includes : Pug.Includes) :
    ((extractFile source options path).run includes).1 = .error error := by
  cases broken with
  | unreadable read =>
    unfold extractFile
    rw [read]
    rfl
  | template type read parse =>
    unfold extractFile
    rw [read]
    dsimp only
    rw [type]
    unfold extract Extract.pug
    dsimp only
    rw [parse]
    rfl
  | script type read parse =>
    unfold extractFile
    rw [read]
    dsimp only
    rcases type with type | type
    all_goals
      rw [type]
      unfold extract Extract.jsx
      dsimp only
      rw [parse]
      rfl

theorem Broken.gives {error : ExtractError} (broken : Broken source path error) (listed : path ∈ paths) :
    Gives source options paths path (.error error) :=
  gives_of_always listed (broken.always options)

end Querymap
