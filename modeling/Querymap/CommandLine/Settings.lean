import Querymap.CommandLine.Command
import Querymap.Config.File
import Querymap.ExtractError
import Querymap.Extract
import Querymap.Scan

/-! The settings of a run: its arguments come first, then the configuration file. -/
namespace Querymap

inductive CommandError
  | config (error : ConfigError)
  | noInputs
  | extraction (error : ExtractError)
  /-- So many files and no single place to write to. -/
  | noOutput (count : Nat)
  | noWatchedOutput
  | folderNotMade (path : Path) (cause : FileError)
  | notWritten (path : Path) (cause : FileError)
  | configNotWritten (cause : FileError)
deriving DecidableEq, Inhabited

/-- A message tells the cause too. -/
def CommandError.message : CommandError → String
  | .config error => error.message
  | .noInputs => "No inputs given. Pass -i/--input or set 'input' in " ++ Config.fileName
  | .extraction (.unreadable path cause) =>
    (ExtractError.unreadable path cause).message ++ ": " ++ cause.message
  | .extraction error => error.message
  | .noOutput count =>
    toString count ++ " input files found: pass -o/--output or use -s/--separate"
  | .noWatchedOutput => "watch needs -o/--output unless -s/--separate is used"
  | .folderNotMade path cause =>
    "Failed to create directory: " ++ path.spelling ++ ": " ++ cause.message
  | .notWritten path cause => "Failed to write " ++ path.spelling ++ ": " ++ cause.message
  | .configNotWritten cause => cause.message

structure Settings where
  config : Config
  /-- The folder from which the inputs are looked up. -/
  base : Path
  output : Option Path
  verbose : Bool
deriving DecidableEq, Inhabited

namespace Settings

/-- Paths among the arguments start from the working folder, those of the configuration file from its
own folder. -/
def combine (folder : Path) (arguments : Arguments) (loaded : LoadedConfig) : Settings :=
  let root := loaded.root.getD folder
  let fromFile := arguments.inputs.isEmpty
  { config := {
      input := if fromFile then loaded.config.input else arguments.inputs
      output := arguments.output.or loaded.config.output
      exported := arguments.exported || loaded.config.exported
      separate := arguments.separate || loaded.config.separate
      factory := arguments.factory.or loaded.config.factory
      nestedScopes := arguments.nestedScopes || loaded.config.nestedScopes }
    base := if fromFile then root else folder
    output := (arguments.output.map fun output => folder.join ⟨output⟩).or
      (loaded.config.output.map fun output => root.join ⟨output⟩)
    verbose := arguments.verbose }

def load (disk : Disk) (folder : Path) (arguments : Arguments) : Except CommandError Settings := do
  let settings := combine folder arguments (← (Config.load disk folder).mapError .config)
  settings.config.check.mapError .config
  if settings.config.input.isEmpty then throw .noInputs
  return settings

def options (settings : Settings) : Options where
  factory := settings.config.factory
  scopeMode := settings.config.scopeMode

def scan (settings : Settings) (disk : Disk) : Scan :=
  Querymap.scan disk settings.base settings.config.input settings.config.factory.isSome

def watchRoots (settings : Settings) (disk : Disk) : List Path :=
  Querymap.watchRoots disk settings.base settings.config.input

end Settings

end Querymap
