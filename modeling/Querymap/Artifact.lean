import Querymap.Declaration
import Querymap.FileType
import Querymap.JsonValue.Basic

/-! The content of generated files. -/
namespace Querymap

/-- Declarations, or the model itself. -/
inductive OutputFormat
  | declarations
  | json
deriving DecidableEq, Inhabited

namespace OutputFormat

def ofName? : String → Option OutputFormat
  | "d-ts" => some .declarations
  | "json" => some .json
  | _ => none

def suffix : OutputFormat → String
  | .declarations => declarationSuffix
  | .json => "-querymap.json"

end OutputFormat

namespace Model

def toJson (model : Model) : JsonValue :=
  let texts (dict : Dict String) : JsonValue :=
    .record (dict.entries.map fun entry => (entry.1, .text entry.2))
  .record [
    ("selectors", texts model.selectors),
    ("modules", .record (model.modules.entries.map fun entry => (entry.1, texts entry.2))),
    ("ids", texts model.ids),
    ("classes", texts model.classes),
    ("tags", texts model.tags)]

def artifact (model : Model) (exported : Bool) : OutputFormat → String
  | .declarations => model.declaration exported
  | .json => model.toJson.render ++ "\n"

end Model

end Querymap
