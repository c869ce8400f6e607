import Querymap.CommandLine.Parser
import Querymap.CommandLine.Run
import Std.Data.HashMap

/-! The command line. What a command may look at is read into a file system value first; what the command
changed there is written back afterwards. -/
namespace Querymap.Main

def placeOf (path : String) : Place := Disk.names path

def pathOf (place : Place) : String := "/" ++ "/".intercalate place

def add (disk : Disk) (place : Place) (entry : Entry) : Disk :=
  if (disk.get? place).isSome then disk
  else { disk with entries := (place, entry) :: disk.entries }

def addAbove (disk : Disk) : Place → Disk
  | place => (List.range place.length).foldl (fun disk n => add disk (place.take n) .folder) disk

def readContent (path : String) : IO Entry := do
  try return .file (String.fromUTF8? (← IO.FS.readBinFile path))
  catch _ => return .file none

mutual

/-- Adds a folder with all below it. What a repository keeps for itself is left out. -/
partial def addFolder (disk : Disk) (path : String) : IO Disk := do
  let folder ← IO.FS.realPath path
  let place := placeOf folder.toString
  if !place.isEmpty && (disk.get? place).isSome then return disk
  let mut disk := add (addAbove disk place) place .folder
  unless place.getLast? == some ".git" do
    for entry in ← folder.readDir do
      let below := place ++ [entry.fileName]
      match (← entry.path.symlinkMetadata).type with
      | .dir => disk ← addFolder disk entry.path.toString
      | .file => disk := add disk below (← readContent entry.path.toString)
      | .symlink => disk ← addLink disk below entry.path.toString
      | .other => pure ()
  return disk

/-- Adds a link and what it leads to. -/
partial def addLink (disk : Disk) (place : Place) (path : String) : IO Disk := do
  try
    let target ← IO.FS.realPath path
    let disk := add disk place (.link target.toString)
    if ← target.isDir then addFolder disk target.toString
    else
      let place := placeOf target.toString
      return add (addAbove disk place) place (← readContent target.toString)
  catch _ => return add disk place (.link (path ++ "/"))

end

def addIfFolder (disk : Disk) (path : String) : IO Disk := do
  try addFolder disk path catch _ => return disk

partial def projectFolder? (folder : Path) : IO (Option Path) := do
  let names := (← (← IO.FS.realPath folder.spelling).readDir).map (·.fileName)
  if names.contains Config.fileName || names.contains ".git" then return some folder
  else match folder.parent? with
    | none => return none
    | some parent => projectFolder? parent

/-- What a command in a folder may look at: its project, its inputs, and the way to its output. -/
def look (folder : Path) (command : Command) : IO Disk := do
  let project := (← projectFolder? folder).getD folder
  let disk ← addFolder { here := placeOf folder.spelling } project.spelling
  match command with
  | .generate arguments .. | .watch arguments =>
    match Settings.load disk folder arguments with
    | .error _ => return disk
    | .ok settings =>
      let outside := settings.config.input.map (Scan.root disk settings.base) ++
        (settings.output.bind (·.parent?)).toList
      outside.foldlM (fun disk path => addIfFolder disk path.spelling) disk
  | .help | .init => return disk

def writeBack (before after : Disk) : IO Unit := do
  let known := Std.HashMap.ofList before.entries
  for (place, entry) in after.entries.reverse do
    unless known[place]? == some entry do
      match entry with
      | .folder => IO.FS.createDirAll (pathOf place)
      | .file (some content) => IO.FS.writeFile (pathOf place) content
      | .file none | .link _ => pure ()

def flush (before after : Console) : IO Unit := do
  writeBack before.disk after.disk
  IO.print after.output
  (← IO.getStdout).flush
  IO.eprint after.errors

/-- The relevant files that differ. -/
def changes (session : WatchSession) (roots : List Path) (before after : Disk) : List Path :=
  let differing (one other : Disk) : List Path :=
    let known := Std.HashMap.ofList other.entries
    one.entries.filterMap fun (place, entry) =>
      let path : Path := ⟨pathOf place⟩
      if known[place]? != some entry && roots.any path.startsWith && session.isRelevant path then
        some path
      else none
  sortPaths (differing after before ++ differing before after)

partial def watch (folder : Path) (command : Command) (session : WatchSession) (roots : List Path)
    (seen : Disk) : IO Unit := do
  IO.sleep 200
  let disk ← look folder command
  let before : Console := { disk }
  let (result, after) := (session.handleChanges (changes session roots seen disk)).run before
  flush before after
  let session := match result with
    | .ok next => next
    | .error _ => session
  watch folder command session roots after.disk

def reportFailure (error : CommandError) : IO UInt32 := do
  IO.eprintln ("Error: " ++ error.message)
  return 2

def runCommand (folder : Path) (command : Command) : IO UInt32 := do
  let before : Console := { disk := ← look folder command }
  match command with
  | .watch arguments =>
    let (result, after) := (WatchSession.begin arguments folder).run before
    flush before after
    match result with
    | .error error => reportFailure error
    | .ok none => return ExitStatus.failure.code.toUInt32
    | .ok (some (session, roots)) =>
      watch folder command session roots after.disk
      return 0
  | command =>
    let (result, after) := (command.run folder).run before
    flush before after
    match result with
    | .error error => reportFailure error
    | .ok status => return status.code.toUInt32

end Querymap.Main

def main (words : List String) : IO UInt32 := do
  match Querymap.CommandLine.read words with
  | .ok .help =>
    IO.print Querymap.Command.helpText
    return 0
  | .ok command => Querymap.Main.runCommand ⟨(← IO.currentDir).toString⟩ command
  | .error .displayHelp =>
    IO.print Querymap.Command.helpText
    return 0
  | .error .displayVersion =>
    IO.println "html-typings 0.5.0"
    return 0
  | .error error =>
    IO.eprintln ("error: " ++ error.message ++ "\n\nFor more information, try '--help'.")
    return 2
