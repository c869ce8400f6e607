import Querymap.Pug.Line
import Querymap.Source

/-! The reasons for which a file yields no typings. -/
namespace Querymap

inductive ExtractError
  /-- An include of a template that has no path. -/
  | missingBasePath (path : String) (line : Nat)
  /-- Compiled elements without the name of the function that makes them. -/
  | missingFactory
  | template (path : String) (error : Pug.ParseError)
  | script (path : String) (line : Nat)
  | unreadable (path : Path) (cause : FileError)
  | includeCycle (path : Path)
deriving DecidableEq, Inhabited

namespace ExtractError

def message : ExtractError → String
  | .missingBasePath path line =>
    "Pug include '" ++ path ++ "' on line " ++ toString line ++
      " cannot be resolved without a base path; pass the template's file path"
  | .missingFactory => "JSX factory needs to be defined when parsing compiled JSX"
  | .template path error =>
    "Failed to parse " ++ path ++ ": line " ++ toString error.line ++ ": " ++ error.fault.message
  | .script path line => "Failed to parse " ++ path ++ ": line " ++ toString line
  | .unreadable path cause => "Failed to read " ++ path.spelling ++ ": " ++ cause.message
  | .includeCycle path => "Include cycle detected at " ++ path.spelling

/-- Errors of the settings rather than of the file. -/
def isConfiguration : ExtractError → Bool
  | .missingBasePath .. | .missingFactory => true
  | _ => false

end ExtractError

end Querymap
