import Querymap.Markup.Recorder
import Querymap.Script.Tree

/-! What counts of an element in a script. -/
namespace Querymap.Script

structure ElementAttributes where
  id : Option String := none
  /-- Lists of classes, each as it is written. -/
  classes : List String := []
  type : Option String := none
deriving DecidableEq

namespace ElementAttributes

/-- The last id and the last type count, but all classes. Empty values do not. -/
def set (attributes : ElementAttributes) (name value : String) : ElementAttributes :=
  if value.isEmpty then attributes
  else if name = "id" then { attributes with id := some value }
  else if name = "class" ∨ name = "className" then
    { attributes with classes := attributes.classes ++ [value] }
  else if name = Markup.typeAttribute then { attributes with type := some value }
  else attributes

def ofPairs (pairs : List (String × String)) : ElementAttributes :=
  pairs.foldl (fun attributes (name, value) => attributes.set name value) {}

end ElementAttributes

def stringFields (entries : List Tree) : List (String × String) :=
  entries.filterMap fun
    | .field name (.string (some value)) => some (name, value)
    | _ => none

/-- Names and texts of the attributes in a tag. Of spread values only object literals are known. -/
def stringAttributes (attributes : List Tree) : List (String × String) :=
  attributes.flatMap fun
    | .attr name (.string (some value)) => [(name, value)]
    | .spread (.object entries) => stringFields entries
    | _ => []

/-- The type of an element's id. A template is typed by its id. -/
def ElementAttributes.idType (attributes : ElementAttributes) (tag id : String)
    (typeArguments : List String) : String :=
  attributes.type.getD <|
    if tag = Markup.templateTag then Element.typeName (some id) []
    else Element.typeName (some tag) typeArguments

def ElementAttributes.classType (attributes : ElementAttributes) (tag : String)
    (typeArguments : List String) : String :=
  attributes.type.getD (Element.typeName (some tag) typeArguments)

/-- Records the id and the classes of one element. The id of a module is its scope's name only. -/
def recordElement (map : ScopeMap) (scope : ScopeKey) (tag : String) (typeArguments : List String)
    (attributes : ElementAttributes) : ScopeMap :=
  let withId := match attributes.id with
    | some id =>
      if tag = Markup.moduleTag then map
      else map.recordId scope id (attributes.idType tag id typeArguments)
    | none => map
  attributes.classes.foldl
    (fun map names => map.recordClasses scope names (attributes.classType tag typeArguments)) withId

end Querymap.Script
