import Querymap.Config.Reader
import Querymap.Disk.Access

/-! The configuration file of a project: where it is looked for and what it holds. -/
namespace Querymap

inductive ConfigError
  | unreadable (cause : FileError)
  | malformed (path : Path)
  | invalid (fault : ConfigFault)
deriving DecidableEq, Inhabited

/-- A path in quotes, with signs and control characters escaped. -/
def Path.quoted (path : Path) : String :=
  let escape (c : Char) : List Char :=
    if c = '\x00' then ['\\', '0']
    else if c = '\t' then ['\\', 't']
    else if c = '\n' then ['\\', 'n']
    else if c = '\r' then ['\\', 'r']
    else if c = '"' || c = '\'' || c = '\\' then ['\\', c]
    else if c.toNat < 32 || c.toNat = 127 then
      ['\\', 'u', '{'] ++ Nat.toDigits 16 c.toNat ++ ['}']
    else [c]
  String.ofList ('"' :: path.spelling.toList.flatMap escape ++ ['"'])

def ConfigError.message : ConfigError → String
  | .unreadable cause => cause.message
  | .malformed path => "Failed to parse config file: " ++ path.quoted
  | .invalid fault => fault.message

/-- A configuration and the folder from which its paths start, if a file gave it. -/
structure LoadedConfig where
  config : Config := {}
  root : Option Path := none
deriving DecidableEq, Inhabited

namespace Config

def fileName : String := ".htmltypingsrc.json"

/-- The configuration file of a folder or else of those above it, up to the top of a repository. -/
def findWithin (disk : Disk) : Nat → Path → Option Path
  | 0, _ => none
  | depth + 1, folder =>
    if disk.exists? (folder.join ⟨fileName⟩) then some (folder.join ⟨fileName⟩)
    else if disk.exists? (folder.join ⟨".git"⟩) then none
    else folder.parent?.bind (findWithin disk depth)

def find? (disk : Disk) (folder : Path) : Option Path :=
  findWithin disk (folder.components.length + 1) folder

def check (config : Config) : Except ConfigError Unit :=
  match config.fault? with
  | some fault => .error (.invalid fault)
  | none => .ok ()

def load (disk : Disk) (folder : Path) : Except ConfigError LoadedConfig := do
  match find? disk folder with
  | none => return {}
  | some path =>
    match disk.read path with
    | .error cause => throw (.unreadable cause)
    | .ok text =>
      match read? text with
      | none => throw (.malformed path)
      | some config =>
        config.check
        return { config, root := path.parent? }

end Config

end Querymap
