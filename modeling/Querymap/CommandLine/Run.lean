import Querymap.CommandLine.Generate
import Querymap.CommandLine.WatchSession

/-! The commands as actions from a working folder. -/
namespace Querymap

open Console

def initProject (folder : Path) : Action ExitStatus := do
  let path := folder.join ⟨Config.fileName⟩
  if (← get).disk.exists? path then
    report ("Error: " ++ Config.fileName ++ " already exists")
    return .failure
  edit (Disk.write path (some Config.initial.toJson.render)) .configNotWritten
  print ("✓ Created " ++ Config.fileName ++ "\n")
  return .success

namespace WatchSession

def reportWritten : Except CommandError (List Written) → Action Unit
  | .ok written => written.forM fun artifact => printWritten artifact.path artifact.inputs
  | .error error => report ("error: " ++ error.message)

/-- Generates once. Without a folder to watch there is no session. -/
def begin (arguments : Arguments) (folder : Path) : Action (Option (WatchSession × List Path)) := do
  let settings ← Settings.load (← get).disk folder arguments
  let roots := settings.watchRoots (← get).disk
  if roots.isEmpty then
    reportNoInputs
    return none
  let (result, session) ← (← ofSettings settings).start
  reportWritten result
  print ("Watching " ++ ", ".intercalate (roots.map (·.spelling)) ++ "\n")
  return some (session, roots)

def handleChanges (session : WatchSession) : List Path → Action WatchSession
  | [] => return session
  | path :: paths => do
    if session.settings.verbose then report ("changed: " ++ path.spelling)
    let (result, session) ← session.handleChange path
    reportWritten result
    session.handleChanges paths

end WatchSession

/-- Runs a command up to where it would wait for changes. -/
def Command.run (folder : Path) : Command → Action ExitStatus
  | .help => do
    print Command.helpText
    return .success
  | .generate arguments format printed => Querymap.generate arguments format printed folder
  | .watch arguments => do
    match ← WatchSession.begin arguments folder with
    | none => return .failure
    | some _ => return .success
  | .init => initProject folder

end Querymap
