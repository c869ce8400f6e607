import Querymap.Config.Basic
import Querymap.JsonValue.Reader

/-! Reading of a configuration, which is an object of named fields or an array of fields in order. -/
namespace Querymap.Config

def texts? : List JsonValue → Option (List String)
  | [] => some []
  | .string (some text) :: items => (texts? items).map (text :: ·)
  | _ => none

/-- The fields in the order in which an array gives them. -/
inductive Field
  | input
  | output
  | exported
  | separate
  | factory
  | nestedScopes
deriving DecidableEq

namespace Field

def all : List Field := [.input, .output, .exported, .separate, .factory, .nestedScopes]

def name : Field → String
  | .input => "input"
  | .output => "output"
  | .exported => "export"
  | .separate => "separate"
  | .factory => "jsxFactory"
  | .nestedScopes => "nestedScopes"

/-- Only the optional fields may be null. -/
def set? (config : Config) : Field → JsonValue → Option Config
  | .input, .array items => (texts? items).map fun texts => { config with input := texts }
  | .output, .null => some { config with output := none }
  | .output, .string (some text) => some { config with output := some text }
  | .exported, .boolean value => some { config with exported := value }
  | .separate, .boolean value => some { config with separate := value }
  | .factory, .null => some { config with factory := none }
  | .factory, .string (some text) => some { config with factory := some text }
  | .nestedScopes, .boolean value => some { config with nestedScopes := value }
  | _, _ => none

end Field

/-- A field may be given once. Members of other names are left aside. -/
def ofMembers? : List Field → List (Option String × JsonValue) → Config → Option Config
  | _, [], config => some config
  | _, (none, _) :: _, _ => none
  | given, (some key, value) :: members, config =>
    match Field.all.find? (·.name == key) with
    | none => ofMembers? given members config
    | some field =>
      if given.contains field then none
      else (field.set? config value).bind (ofMembers? (field :: given) members)

def ofItems? : List Field → List JsonValue → Config → Option Config
  | _, [], config => some config
  | [], _ :: _, _ => none
  | field :: fields, item :: items, config => (field.set? config item).bind (ofItems? fields items)

def ofJson? : JsonValue → Option Config
  | .object members => ofMembers? [] members {}
  | .array items => ofItems? Field.all items {}
  | _ => none

def read? (text : String) : Option Config := (JsonValue.read? text).bind ofJson?

end Querymap.Config
