import Querymap.Disk.Access
import Querymap.Glob.Pattern

/-! The paths of a file system that a wildcard pattern stands for. -/
namespace Querymap

structure Glob where
  absolute : Bool
  names : List Glob.Pattern
  /-- A separator ends the pattern. -/
  onlyFolders : Bool
deriving DecidableEq

namespace Glob

/-- The texts between separators; none stands behind a separator at the end. -/
def pieces (text : List Char) : List (List Char) :=
  let all := Text.splitAt (· == '/') text
  if all.getLast? == some [] then all.dropLast else all

def ofPath (path : Path) : Except PatternError Glob := do
  let text := path.spelling.toList
  let _ ← Pattern.read text
  return {
    absolute := path.isAbsolute
    names := ← (pieces (if path.isAbsolute then text.drop 1 else text)).mapM Pattern.read
    onlyFolders := text.getLast? == some '/' }

/-- Names below the working folder stand alone. -/
def child (folder : Path) (name : String) : Path :=
  if folder.same ⟨"."⟩ then ⟨name⟩ else folder.join ⟨name⟩

section

variable (disk : Disk) (onlyFolders : Bool) (expand : List Pattern → Path → List Path)

/-- The paths that go on from one found so far. -/
def onward (rest : List Pattern) (path : Path) : List Path :=
  if !rest.isEmpty then expand rest path
  else if !onlyFolders || disk.isFolder path then [path]
  else []

def ifMatched (pattern : Pattern) (rest : List Pattern) (path : Path) : List Path :=
  match path.fileName? with
  | some name => if pattern.isMatch name.toList then onward disk onlyFolders expand rest path else []
  | none => []

/-- A folder that stands for `**` comes before what is found below it. -/
def visit (pattern : Pattern) (rest : List Pattern) (path : Path) : List Path :=
  if pattern.isFolders then
    let below (rest : List Pattern) := if disk.isFolder path then expand rest path else []
    match rest.dropWhile Pattern.isFolders with
    | [] => if disk.isFolder path then path :: below [pattern] else []
    | next :: rest =>
      ifMatched disk onlyFolders expand next rest path ++ below (pattern :: next :: rest)
  else ifMatched disk onlyFolders expand pattern rest path

/-- The special names stand for themselves and need a folder. Only a pattern that begins with a dot
stands for them; then `..` comes first. -/
def expandName (pattern : Pattern) (rest : List Pattern) (folder : Path) : List Path :=
  match pattern.literal? with
  | some name =>
    let path := child folder (String.ofList name)
    let special := name == ['.'] || name == ['.', '.']
    let present := if special then disk.isFolder folder else (disk.ownStatus path).isOk
    if present then onward disk onlyFolders expand rest path else []
  | none =>
    match disk.isFolder folder, disk.list folder with
    | true, .ok names =>
      let special := if pattern.head? == some (.char '.') then ["..", "."] else []
      ((special.filter fun name => pattern.isMatch name.toList).flatMap fun name =>
        onward disk onlyFolders expand rest (folder.join ⟨name⟩)) ++
      names.flatMap fun name => visit disk onlyFolders expand pattern rest (child folder name)
    | _, _ => []

end

def expandWithin (disk : Disk) (onlyFolders : Bool) : Nat → List Pattern → Path → List Path
  | 0, _, _ => []
  | _, [], _ => []
  | depth + 1, pattern :: rest, folder =>
    expandName disk onlyFolders (expandWithin disk onlyFolders depth) pattern rest folder

/-- Each step adds a name to the path or uses one up, and no longer path leads anywhere. -/
def expand (glob : Glob) (disk : Disk) : List Path :=
  expandWithin disk glob.onlyFolders (glob.names.length + Disk.pathLimit) glob.names
    ⟨if glob.absolute then "/" else "."⟩

end Glob

end Querymap
