import Querymap.CommandLine.Settings
import Querymap.Disk.Edit

/-! What a command works on, a file system and two streams of text, and the lines that it prints. -/
namespace Querymap

structure Console where
  disk : Disk
  output : String := ""
  errors : String := ""
deriving DecidableEq, Inhabited

/-- What is done before a failure stays done. -/
abbrev Action (α : Type) := ExceptT CommandError (StateM Console) α

inductive ExitStatus
  | success
  /-- There was nothing to do. -/
  | failure
  | error
deriving DecidableEq, Inhabited

def ExitStatus.code : ExitStatus → UInt8
  | .success => 0
  | .failure => 1
  | .error => 2

namespace Console

def print (text : String) : Action Unit :=
  modify fun console => { console with output := console.output ++ text }

def report (line : String) : Action Unit :=
  modify fun console => { console with errors := console.errors ++ line ++ "\n" }

def edit (change : Disk.Edit Unit) (reason : FileError → CommandError) : Action Unit := do
  let (result, disk) := change.run (← get).disk
  modify fun console => { console with disk := disk }
  match result with
  | .ok () => return
  | .error cause => throw (reason cause)

/-- Writes a generated file with the folders it needs. -/
def writeArtifact (path : Path) (content : String) : Action Unit := do
  match path.parent? with
  | none => pure ()
  | some folder => edit (Disk.makeFolders folder) (.folderNotMade folder)
  edit (Disk.write path (some content)) (.notWritten path)

def counted (count : Nat) (word : String) : String :=
  toString count ++ " " ++ word ++ if count = 1 then "" else "s"

def printWritten (path : Path) (count : Nat) : Action Unit :=
  print ("✓ Wrote " ++ path.spelling ++ " from " ++ counted count "file" ++ "\n")

def reportNoInputs : Action Unit := report "warning: no input files matched"

def reportSkipped (scan : Scan) : Action Unit := do
  unless scan.skipped = 0 do
    report ("warning: " ++ counted scan.skipped "path" ++
      " could not be accessed (use -v for details)")

def reportBrokenOff (brokenOff : List (String × Nat)) : Action Unit :=
  brokenOff.forM fun (path, line) =>
    report ("warning: " ++ path ++ ": parsing stopped at line " ++ toString line)

def reportSource (path : String) : Action Unit := report ("  --> " ++ path)

def reportErrors (errors : List (String × ExtractError)) : Action Unit := do
  errors.forM fun (path, error) => do
    report ("error: " ++ error.message)
    reportSource path
  report ("✘ " ++ counted errors.length "file" ++ " failed, nothing written")

/-- Looks up the inputs. Warnings are shown on request. -/
def scanInputs (settings : Settings) : Action Scan := do
  let scan := settings.scan (← get).disk
  if settings.verbose then scan.warnings.forM fun warning => report warning.message
  return scan

end Console

end Querymap
