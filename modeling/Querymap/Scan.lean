import Querymap.FileType
import Querymap.Glob.Expansion

/-! From inputs, which are files, folders and wildcard patterns, to the files they stand for and the
folders to watch for them. -/
namespace Querymap

inductive ScanWarning
  | inaccessible (path : Path) (cause : FileError)
  | invalidPattern (input : String) (error : Glob.PatternError)
  | missing (path : Path)
deriving DecidableEq, Inhabited

def ScanWarning.message : ScanWarning → String
  | .inaccessible path cause =>
    "warning: Cannot access path: IO error for operation on " ++ path.spelling ++ ": " ++ cause.message
  | .invalidPattern input error =>
    "warning: Invalid glob pattern '" ++ input ++ "': " ++ error.message
  | .missing path => "warning: Input path does not exist: " ++ path.spelling

/-- A path joins an increasing list of paths unless the same path is in it. -/
def insertPath (path : Path) : List Path → List Path
  | [] => [path]
  | other :: rest =>
    match path.compare other with
    | .lt => path :: other :: rest
    | .eq => other :: rest
    | .gt => other :: insertPath path rest

/-- The different paths in increasing order, each as it was first spelled. -/
def sortPaths (paths : List Path) : List Path :=
  paths.foldl (fun sorted path => insertPath path sorted) []

structure Scan where
  /-- The different files in increasing order. -/
  files : List Path := []
  /-- How many entries could not be looked at. -/
  skipped : Nat := 0
  warnings : List ScanWarning := []
deriving DecidableEq

namespace Scan

/-- The files found for an input, in the order in which they were found. -/
structure Found where
  files : List Path := []
  warnings : List ScanWarning := []

instance : Append Found where
  append a b := ⟨a.files ++ b.files, a.warnings ++ b.warnings⟩

def concat (parts : List Found) : Found :=
  ⟨parts.flatMap (·.files), parts.flatMap (·.warnings)⟩

def inaccessible (path : Path) (cause : FileError) : Found :=
  { warnings := [.inaccessible path cause] }

/-- The supported files in a folder and in the folders below it. Links to files count, links to folders
are not followed. -/
def below (disk : Disk) (withCompiled : Bool) : Nat → Path → Found
  | 0, _ => {}
  | depth + 1, folder =>
    match disk.list folder with
    | .error cause => inaccessible folder cause
    | .ok names => concat <| names.map fun name =>
      let path := folder.join ⟨name⟩
      if disk.isFile path then { files := if FileType.isSupported path withCompiled then [path] else [] }
      else match disk.ownStatus path with
        | .ok .folder => below disk withCompiled depth path
        | _ => {}

/-- A file itself, or what is below a folder. -/
def collect (disk : Disk) (withCompiled : Bool) (path : Path) : Found :=
  if disk.isFile path then { files := [path] }
  else match disk.status path with
    | .error cause => inaccessible path cause
    | .ok _ => below disk withCompiled (disk.entries.length + 1) path

def input (disk : Disk) (base : Path) (withCompiled : Bool) (text : String) : Found :=
  let path := base.join ⟨text⟩
  if Glob.isGlob text then
    match Glob.ofPath path with
    | .ok glob => concat ((glob.expand disk).map (collect disk withCompiled))
    | .error error => { warnings := [.invalidPattern text error] }
  else if disk.exists? path then collect disk withCompiled path
  else { warnings := [.missing path] }

def isInaccessible : ScanWarning → Bool
  | .inaccessible .. => true
  | _ => false

end Scan

/-- Looks up inputs relative to a folder. Folders are searched for supported files, compiled scripts on
request only; a file that is named itself or matches a pattern is taken whatever its extension. -/
def scan (disk : Disk) (base : Path) (inputs : List String) (withCompiled : Bool) : Scan :=
  let found := Scan.concat (inputs.map (Scan.input disk base withCompiled))
  { files := sortPaths found.files
    skipped := found.warnings.countP Scan.isInaccessible
    warnings := found.warnings }

namespace Scan

/-- The folders of a pattern before its first name with a wildcard. -/
def fixedPart (path : Path) : Path :=
  .ofComponents <| path.components.takeWhile fun
    | .name text => !Glob.isGlob text
    | _ => true

/-- The folder that is watched for an input. -/
def root (disk : Disk) (base : Path) (text : String) : Path :=
  let path := base.join ⟨text⟩
  if Glob.isGlob text then fixedPart path
  else if disk.isFolder path then path
  else path.parent?.getD path

end Scan

/-- The folders to watch for inputs. A folder below another one is left to it. -/
def watchRoots (disk : Disk) (base : Path) (inputs : List String) : List Path :=
  let roots := sortPaths ((inputs.map (Scan.root disk base)).filter disk.exists?)
  roots.filter fun root => !roots.any fun other => !other.same root && root.startsWith other

end Querymap
