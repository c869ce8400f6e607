import Querymap.Disk.Access

/-! Changes to a file system. A change that fails may leave a part of its work behind. -/
namespace Querymap.Disk

abbrev Edit (α : Type) := ExceptT FileError (StateM Disk) α

/-- Files may be written through a link, also where its target does not exist yet. -/
def write (path : Path) (content : Option String) : Edit Unit := do
  let disk ← get
  if endsInSeparator path.spelling then
    match disk.locateBy false path (names path.spelling) with
    | .error error => throw error
    | .ok (.missing _ (_ :: _)) => throw .notFound
    | .ok _ => throw .isDirectory
  else
    match disk.locate true path with
    | .error error => throw error
    | .ok (.missing place []) => set (disk.put place (.file content))
    | .ok (.missing ..) => throw .notFound
    | .ok (.found place) =>
      if disk.get? place = some .folder then throw .isDirectory
      else set (disk.put place (.file content))

def create (path : Path) (entry : Entry) : Edit Unit := do
  let disk ← get
  match disk.locateBy false path (names path.spelling) with
  | .error error => throw error
  | .ok (.found _) => throw .alreadyExists
  | .ok (.missing place []) => set (disk.put place entry)
  | .ok (.missing ..) => throw .notFound

/-- Nothing is wrong where a folder stands already. -/
def unlessFolder (path : Path) (error : FileError) : Edit Unit := do
  unless (← get).isFolder path do throw error

/-- Makes a folder below so many missing ones at most. -/
def makeFoldersWithin : Nat → Path → Edit Unit
  | 0, _ => throw .notFound
  | depth + 1, path => do
    if path.spelling.isEmpty then return
    tryCatch (create path .folder) fun error =>
      match error, path.parent? with
      | .notFound, some parent => do
        makeFoldersWithin depth parent
        tryCatch (create path .folder) (unlessFolder path)
      | _, _ => unlessFolder path error

def makeFolders (path : Path) : Edit Unit := makeFoldersWithin (path.components.length + 1) path

def remove (disk : Disk) (path : Path) : Disk :=
  match disk.find false path with
  | .ok (place, _) => { disk with entries := disk.entries.filter (!place.isPrefixOf ·.1) }
  | .error _ => disk

end Querymap.Disk
