import Querymap.Cache
import Querymap.Proofs.Outcome

/-! Watched runs over a set of files: edits of the files, and requests for the model of a list of files.
Each answer is kept with the files as they were when it was given. -/
namespace Querymap

namespace Files

/-- A change to one file. -/
inductive Edit
  | write (path : Path) (content : String)
  | remove (path : Path)
deriving DecidableEq

def Edit.path : Edit → Path
  | .write path _ | .remove path => path

def edit (files : Files) : Edit → Files
  | .write path content => files.write path content
  | .remove path => files.remove path

theorem read_edit_of_ne (files : Files) (edit : Edit) {other : Path}
    (apart : edit.path.same other = false) :
    (files.edit edit).source.read other = files.source.read other := by
  cases edit with
  | write path content =>
    simp only [Files.edit, source, read, find?_write, Edit.path] at *
    simp [apart]
  | remove path =>
    simp only [Files.edit, source, read, find?_remove, Edit.path] at *
    simp [apart]

end Files

namespace Cache

structure Watch where
  files : Files
  cache : Cache := {}

inductive Step
  | edit (edit : Files.Edit)
  /-- Asks for the model of a list of files. -/
  | refresh (paths : List Path)
  /-- Tells of the change of a file and asks for the model. -/
  | change (path : Path) (paths : List Path)
deriving DecidableEq

structure Answer where
  files : Files
  paths : List Path
  result : Except ExtractError Model

/-- The list that was asked about, with the files at that moment. -/
def Answer.request (answer : Answer) : Files × List Path := (answer.files, answer.paths)

/-- The requests of a run, in order. -/
def requests (files : Files) : List Step → List (Files × List Path)
  | [] => []
  | .edit edit :: rest => requests (files.edit edit) rest
  | .refresh paths :: rest => (files, paths) :: requests files rest
  | .change _ paths :: rest => (files, paths) :: requests files rest

namespace Watch

def forget (watch : Watch) (path : Path) : Watch :=
  { watch with cache := watch.cache.forget path }

def refresh (options : Options) (watch : Watch) (paths : List Path) : Watch × Answer :=
  match (watch.cache.refresh watch.files.source options paths).2 with
  | .error error => (watch, ⟨watch.files, paths, .error error⟩)
  | .ok cache => ({ watch with cache }, ⟨watch.files, paths, .ok cache.model⟩)

def step (options : Options) (watch : Watch) : Step → Watch × Option Answer
  | .edit edit => ({ watch with files := watch.files.edit edit }, none)
  | .refresh paths => (watch.refresh options paths).map id some
  | .change path paths => ((watch.forget path).refresh options paths).map id some

/-- The answers of a run, in order. -/
def answers (options : Options) (watch : Watch) : List Step → List Answer
  | [] => []
  | step :: rest =>
    (watch.step options step).2.toList ++ answers options (watch.step options step).1 rest

/-- A request is answered about the files as they are, and does not change them. -/
theorem refresh_about (options : Options) (watch : Watch) (paths : List Path) :
    (watch.refresh options paths).2.request = (watch.files, paths) ∧
      (watch.refresh options paths).1.files = watch.files := by
  simp only [refresh]
  split <;> exact ⟨rfl, rfl⟩

/-- Every request is answered, in order. -/
theorem answers_requests (options : Options) (watch : Watch) (steps : List Step) :
    (watch.answers options steps).map Answer.request = requests watch.files steps := by
  have answered (watch : Watch) (paths : List Path) {rest : List Step}
      (later : ∀ watch : Watch,
        (watch.answers options rest).map Answer.request = requests watch.files rest) :
      ((watch.refresh options paths).2 :: (watch.refresh options paths).1.answers options rest).map
        Answer.request = (watch.files, paths) :: requests watch.files rest := by
    obtain ⟨about, kept⟩ := watch.refresh_about options paths
    rw [List.map_cons, about, later, kept]
  induction steps generalizing watch with
  | nil => rfl
  | cons step rest ih =>
    cases step with
    | edit edit => exact ih _
    | refresh paths => exact answered watch paths ih
    | change path paths => exact answered (watch.forget path) paths ih

end Watch

/-- What a renewed cache knows: of the listed files what was known before, or else what was
extracted. -/
theorem get?_renewed (cache : Cache) (outcome : Outcome) (paths : List Path) (path : Path) :
    (cache.renewed outcome paths).get? path.spelling =
      if path ∈ paths then
        (cache.entries.get? path.spelling).or
          ((outcome.typings.get? path.spelling).map fun map => ⟨map, cache.computations⟩)
      else none := by
  let entry (path : Path) : Option Entry := (cache.entries.get? path.spelling).or
    ((outcome.typings.get? path.spelling).map fun map => ⟨map, cache.computations⟩)
  have members : ∀ {name value}, (name, value) ∈
      (paths.filterMap fun path => (entry path).map (path.spelling, ·)) ↔
        (⟨name⟩ : Path) ∈ paths ∧ entry ⟨name⟩ = some value := by
    intro name value
    simp only [List.mem_filterMap, Option.map_eq_some_iff, Prod.mk.injEq]
    constructor
    · rintro ⟨path, member, _, found, rfl, rfl⟩
      exact ⟨member, found⟩
    · rintro ⟨member, found⟩
      exact ⟨_, member, value, found, rfl, rfl⟩
  have functional : ∀ a ∈ paths.filterMap fun path => (entry path).map (path.spelling, ·),
      ∀ b ∈ paths.filterMap fun path => (entry path).map (path.spelling, ·),
        a.1 = b.1 → a.2 = b.2 := by
    rintro ⟨name, a⟩ first ⟨_, b⟩ second rfl
    exact Option.some.inj ((members.1 first).2.symm.trans (members.1 second).2)
  apply Option.ext
  intro value
  rw [renewed, Dict.get?_ofList_eq_some_iff functional, members]
  by_cases member : path ∈ paths <;> simp [member, entry]

end Cache

end Querymap
