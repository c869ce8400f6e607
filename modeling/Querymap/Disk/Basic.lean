import Querymap.FileError

/-! A file system as a value: folders, files and links below one root, seen from a working folder.
`Disk.locate` follows the names and links of a path. -/
namespace Querymap

/-- The names from the root down to an entry. -/
abbrev Place := List String

inductive Entry
  | folder
  /-- No text stands for a content that is not valid text. -/
  | file (text : Option String)
  | link (target : String)
deriving DecidableEq, Inhabited

structure Disk where
  entries : List (Place × Entry) := []
  here : Place := []
deriving DecidableEq, Inhabited

namespace Disk

/-- The root is always a folder. -/
def get? (disk : Disk) (place : Place) : Option Entry :=
  if place.isEmpty then some .folder else disk.entries.lookup place

def put (disk : Disk) (place : Place) (entry : Entry) : Disk :=
  { disk with entries := (place, entry) :: disk.entries.filter (·.1 != place) }

/-- The names of a path; the last one is `.` where a separator ends it. -/
def names (text : String) : List String :=
  ((Text.splitAt (· == '/') text.toList).filter (!·.isEmpty)).map String.ofList

def endsInSeparator (text : String) : Bool := text.toList.getLast? == some '/'

/-- A path that ends in a separator leads into a folder. -/
def steps (text : String) : List String :=
  if endsInSeparator text && !(names text).isEmpty then names text ++ ["."] else names text

inductive Progress
  | arrived (place : Place)
  /-- A folder without an entry of the next name. -/
  | missing (place : Place) (rest : List String)
  | redirected (start : Place) (steps : List String)
  | failed (error : FileError)

def nameLimit : Nat := 255

/-- Takes steps from a folder, up to a link to follow. A link that ends the path is followed on
request only. -/
def advance (disk : Disk) (follow : Bool) (place : Place) : List String → Progress
  | [] => .arrived place
  | name :: rest =>
    if name = "." then advance disk follow place rest
    else if name = ".." then advance disk follow place.dropLast rest
    else if nameLimit < Text.byteLength name.toList then .failed .nameTooLong
    else match disk.get? (place ++ [name]) with
      | none => .missing (place ++ [name]) rest
      | some .folder => advance disk follow (place ++ [name]) rest
      | some (.file _) => if rest.isEmpty then .arrived (place ++ [name]) else .failed .notDirectory
      | some (.link target) =>
        if rest.isEmpty && !follow then .arrived (place ++ [name])
        else .redirected (if (⟨target⟩ : Path).isAbsolute then [] else place) (steps target ++ rest)

inductive Located
  | found (place : Place)
  | missing (place : Place) (rest : List String)

/-- So many links may be followed on the way. -/
def linkLimit : Nat := 40

def walk (disk : Disk) (follow : Bool) : Nat → Place → List String → Except FileError Located
  | links, place, names =>
    match disk.advance follow place names with
    | .arrived place => .ok (.found place)
    | .missing place rest => .ok (.missing place rest)
    | .failed error => .error error
    | .redirected start names =>
      match links with
      | 0 => .error .linkLoop
      | links + 1 => walk disk follow links start names

/-- The length at which a path is too long, in bytes. -/
def pathLimit : Nat := 4096

/-- Takes the steps of a path, which may leave out the one behind a separator at the end. -/
def locateBy (disk : Disk) (follow : Bool) (path : Path) (names : List String) :
    Except FileError Located :=
  if path.spelling.isEmpty then .error .notFound
  else if path.spelling.toList.contains '\x00' then .error .invalidName
  else if pathLimit ≤ Text.byteLength path.spelling.toList then .error .nameTooLong
  else disk.walk follow linkLimit (if path.isAbsolute then [] else disk.here) names

def locate (disk : Disk) (follow : Bool) (path : Path) : Except FileError Located :=
  disk.locateBy follow path (steps path.spelling)

def find (disk : Disk) (follow : Bool) (path : Path) : Except FileError (Place × Entry) := do
  match ← disk.locate follow path with
  | .missing .. => throw .notFound
  | .found place =>
    match disk.get? place with
    | some entry => return (place, entry)
    | none => throw .notFound

end Disk

end Querymap
