import Querymap.Extract
import Querymap.FileType
import Querymap.Merge

/-! Extraction of many files. The files are dealt out in shares; within a share, templates that several
files include are read once. -/
namespace Querymap

/-- Reads a file and extracts what it contributes; its extension tells its language. -/
def extractFile (source : Source) (options : Options) (path : Path) : Pug.Reading Extracted := do
  match source.read path with
  | .error cause => throw (.unreadable path cause)
  | .ok content => extract source options (FileType.ofPath path) (some path) content

/-- The files of one share in turn. Templates stay known even after a file that failed. -/
def extractShare (source : Source) (options : Options) :
    List Path → Pug.Includes → List (Path × Except ExtractError Extracted)
  | [], _ => []
  | path :: paths, includes =>
    let (result, includes) := (extractFile source options path).run includes
    (path, result) :: extractShare source options paths includes

structure Outcome where
  typings : FileTypings := ∅
  /-- The files that failed, in path order. -/
  errors : List (String × ExtractError) := []
  /-- The compiled scripts that broke off, with the line. -/
  brokenOff : List (String × Nat) := []

def Outcome.ofResults (results : List (Path × Except ExtractError Extracted)) : Outcome where
  typings := Dict.ofList <| results.filterMap fun (path, result) =>
    result.toOption.map fun extracted => (path.spelling, extracted.map)
  errors :=
    (results.filterMap fun
      | (path, .error error) => some (path.spelling, error)
      | (_, .ok _) => none).mergeSort fun a b => a.1 ≤ b.1
  brokenOff := results.filterMap fun (path, result) =>
    (result.toOption.bind (·.brokenOff)).map (path.spelling, ·)

/-- The outcome of several shares. Files among `skipped` are left out. -/
def extractShares (source : Source) (options : Options) (skipped : List String)
    (shares : List (List Path)) : Outcome :=
  .ofResults <| shares.flatMap fun share =>
    extractShare source options (share.filter (!skipped.contains ·.spelling)) []

def extractFiles (source : Source) (options : Options) (skipped : List String)
    (paths : List Path) : Outcome :=
  extractShares source options skipped [paths]

def Outcome.model (outcome : Outcome) : Except ExtractError Model :=
  match outcome.errors with
  | (_, error) :: _ => .error error
  | [] => .ok outcome.typings.mergeAll

end Querymap
