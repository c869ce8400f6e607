import Querymap.Glob.Pattern
import Querymap.JsonValue.Basic
import Querymap.Markup.Recorder

/-! The configuration of a project, its text, and what can be wrong with it. -/
namespace Querymap

structure Config where
  /-- Files, folders and wildcard patterns. -/
  input : List String := []
  output : Option String := none
  exported : Bool := false
  /-- A declaration file beside each input. -/
  separate : Bool := false
  factory : Option String := none
  nestedScopes : Bool := false
deriving DecidableEq, Inhabited

inductive ConfigFault
  | invalidPattern (pattern : String) (error : Glob.PatternError)
  | blankFactory
deriving DecidableEq, Inhabited

def ConfigFault.message : ConfigFault → String
  | .invalidPattern pattern error =>
    "Invalid glob pattern in 'input': \"" ++ pattern ++ "\": " ++ error.message
  | .blankFactory => "'jsxFactory' must not be empty"

namespace Config

def scopeMode (config : Config) : Markup.ScopeMode :=
  if config.nestedScopes then .nested else .single

def patternFault? (pattern : String) : Option ConfigFault :=
  if Glob.isGlob pattern then
    match Glob.Pattern.read pattern.toList with
    | .ok _ => none
    | .error error => some (.invalidPattern pattern error)
  else none

def fault? (config : Config) : Option ConfigFault :=
  match config.input.findSome? patternFault? with
  | some fault => some fault
  | none =>
    if config.factory.any fun factory => factory.toList.all Text.isBlank then some .blankFactory
    else none

def toJson (config : Config) : JsonValue :=
  let optional (name : String) (value : Option String) : List (String × JsonValue) :=
    (value.map fun text => (name, .text text)).toList
  .record <|
    [("input", .array (config.input.map .text))] ++ optional "output" config.output ++
    [("export", .boolean config.exported), ("separate", .boolean config.separate)] ++
    optional "jsxFactory" config.factory ++ [("nestedScopes", .boolean config.nestedScopes)]

def initial : Config where
  input := ["src/**/*.html"]
  output := some "src/querymap.d.ts"

end Config

end Querymap
