import Querymap.CommandLine.Console
import Querymap.Pipeline

/-! Generating: the typings of all inputs in one file, in a file beside each input, or printed. -/
namespace Querymap

open Console

/-- A single input may be written beside itself. -/
def Settings.combinedOutput (settings : Settings) (files : List Path) (format : OutputFormat) :
    Except CommandError Path :=
  match settings.output, files with
  | some output, _ => .ok output
  | none, [file] => .ok (file.generated format.suffix)
  | none, files => .error (.noOutput files.length)

def writeEach (settings : Settings) (format : OutputFormat) (typings : FileTypings) : Action Unit :=
  typings.mergeEach.entries.forM fun (file, model) => do
    let path := (⟨file⟩ : Path).generated format.suffix
    writeArtifact path (model.artifact settings.config.exported format)
    printWritten path 1

def writeCombined (settings : Settings) (format : OutputFormat) (files : List Path)
    (typings : FileTypings) : Action Unit := do
  let path ← settings.combinedOutput files format
  writeArtifact path (typings.mergeAll.artifact settings.config.exported format)
  if settings.verbose then files.forM fun file => reportSource file.spelling
  printWritten path files.length

/-- Nothing is written unless every file can be extracted. -/
def generate (arguments : Arguments) (format : OutputFormat) (printed : Bool) (folder : Path) :
    Action ExitStatus := do
  let settings ← Settings.load (← get).disk folder arguments
  let scan ← scanInputs settings
  unless settings.verbose do reportSkipped scan
  if scan.files.isEmpty then
    reportNoInputs
    return .failure
  let outcome := extractFiles (← get).disk.source settings.options [] scan.files
  reportBrokenOff outcome.brokenOff
  unless outcome.errors.isEmpty do
    reportErrors outcome.errors
    return .error
  if printed then
    print (outcome.typings.mergeAll.artifact settings.config.exported format)
  else if settings.config.separate then
    writeEach settings format outcome.typings
  else
    writeCombined settings format scan.files outcome.typings
  return .success

end Querymap
