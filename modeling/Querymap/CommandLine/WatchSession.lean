import Querymap.Cache
import Querymap.CommandLine.Console

/-! A watched run: everything is generated once, then again what a change touches. -/
namespace Querymap

open Console

structure WatchSession where
  settings : Settings
  cache : Cache := {}
  /-- The file of all typings; none if each input has its own. -/
  output : Option Path

/-- A generated file and the number of inputs behind it. -/
structure Written where
  path : Path
  inputs : Nat
deriving DecidableEq, Inhabited

namespace WatchSession

def ofSettings (settings : Settings) : Except CommandError WatchSession :=
  if settings.config.separate then .ok { settings, output := none }
  else match settings.output with
    | some output => .ok { settings, output := some output }
    | none => .error .noWatchedOutput

/-- Only changes of such files matter. -/
def isRelevant (session : WatchSession) (path : Path) : Bool :=
  FileType.isSupported path session.settings.config.factory.isSome

/-- An action together with the session after it, which also a failure changes. -/
abbrev Step := StateM Console (Except CommandError (List Written) × WatchSession)

def writeModel (session : WatchSession) (path : Path) (model : Model) : Action Unit :=
  writeArtifact path (model.artifact session.settings.config.exported .declarations)

def writeBeside (session : WatchSession) (file : Path) (model : Model) : Action Written := do
  let path := file.generated OutputFormat.declarations.suffix
  session.writeModel path model
  return ⟨path, 1⟩

/-- Extracts what is not known yet and writes the typings of all files. -/
def writeAll (session : WatchSession) (output : Path) (files : List Path) : Step := do
  let (outcome, refreshed) :=
    session.cache.refresh (← get).disk.source session.settings.options files
  let _ ← (reportBrokenOff outcome.brokenOff).run
  match refreshed with
  | .error error => return (.error (.extraction error), session)
  | .ok cache =>
    let result ← (session.writeModel output cache.model).run
    return (result.map fun _ => [⟨output, files.length⟩], { session with cache })

/-- Writes the typings of each file that can be extracted and reports the others. -/
def writeEach (session : WatchSession) (files : List Path) : Action (List Written) := do
  let outcome := extractFiles (← get).disk.source session.settings.options [] files
  reportBrokenOff outcome.brokenOff
  outcome.errors.forM fun (_, error) => report ("error: " ++ error.message)
  outcome.typings.mergeEach.entries.mapM fun (file, model) => session.writeBeside ⟨file⟩ model

def writeOne (session : WatchSession) (file : Path) : Action (List Written) := do
  let outcome := extractFiles (← get).disk.source session.settings.options [] [file]
  reportBrokenOff outcome.brokenOff
  match outcome.errors with
  | (_, error) :: _ => throw (.extraction error)
  | [] => outcome.typings.mergeEach.values.mapM fun model => session.writeBeside file model

def start (session : WatchSession) : Step := do
  let scan ← (scanInputs session.settings).run
  match scan with
  | .error error => return (.error error, session)
  | .ok scan =>
    match session.output with
    | some output => session.writeAll output scan.files
    | none => return (← (session.writeEach scan.files).run, session)

/-- The input that is the changed file: the same path, or else a path to the same place. -/
def input? (disk : Disk) (files : List Path) (changed : Path) : Option Path :=
  (files.find? (·.same changed)).or do
    let place ← disk.place? changed
    files.find? fun file => disk.place? file == some place

/-- Generates again after a file was made, changed or removed. -/
def handleChange (session : WatchSession) (changed : Path) : Step := do
  let scan ← (scanInputs session.settings).run
  match scan with
  | .error error => return (.error error, session)
  | .ok scan =>
    let known := input? (← get).disk scan.files changed
    match session.output, known with
    | some output, known =>
      let session := { session with cache := session.cache.forget (known.getD changed) }
      session.writeAll output scan.files
    | none, some file => return (← (session.writeOne file).run, session)
    | none, none => return (.ok [], session)

end WatchSession

end Querymap
