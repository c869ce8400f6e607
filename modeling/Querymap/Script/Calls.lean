import Querymap.Script.Attributes

/-! Recording of the elements that calls of a function make. -/
namespace Querymap.Script

/-- The name that an expression spells with dots. -/
def dottedName? : Tree → Option String
  | .identifier name => some name
  | .member owner property => (dottedName? owner).map (· ++ "." ++ property)
  | _ => none

/-- The element that a call makes: its first argument, a text or the name of a component. -/
def madeTag? (factory : String) (callee : Tree) (arguments : List Tree) : Option String :=
  if dottedName? callee = some factory then
    match arguments with
    | .string text :: _ => text
    | .identifier name :: _ => if name.toList.head?.any Char.isUpper then some name else none
    | _ => none
  else none

mutual

/-- The plain strings in all object literals of a tree, outer ones first. -/
def objectFields : Tree → List (String × String)
  | .identifier _ | .string _ => []
  | .member owner _ => objectFields owner
  | .call callee arguments => objectFields callee ++ allObjectFields arguments
  | .object entries => stringFields entries ++ allObjectFields entries
  | .field _ value | .spread value | .attr _ value => objectFields value
  | .element _ attributes _ children => allObjectFields attributes ++ allObjectFields children
  | .group _ parts => allObjectFields parts

def allObjectFields : List Tree → List (String × String)
  | [] => []
  | tree :: trees => objectFields tree ++ allObjectFields trees

end

/-- The attributes are those of all object literals in the second argument. -/
def madeAttributes : List Tree → ElementAttributes
  | _ :: properties :: _ => .ofPairs (objectFields properties)
  | _ => {}

def innerScope (scope : ScopeKey) (tag : String) (attributes : ElementAttributes) : ScopeKey :=
  match attributes.id with
  | some id => if tag = Markup.moduleTag then .named id else scope
  | none => scope

mutual

/-- Records the elements that calls of `factory` make, in source order. A module with an id is the
scope of itself and of all calls inside it. -/
def recordCalls (factory : String) (scope : ScopeKey) (map : ScopeMap) : Tree → ScopeMap
  | .identifier _ | .string _ => map
  | .member owner _ => recordCalls factory scope map owner
  | .call callee arguments =>
    match madeTag? factory callee arguments with
    | some tag =>
      let attributes := madeAttributes arguments
      let scope := innerScope scope tag attributes
      let map := recordElement (map.touch scope) scope tag [] attributes
      recordAllCalls factory scope (recordCalls factory scope map callee) arguments
    | none => recordAllCalls factory scope (recordCalls factory scope map callee) arguments
  | .object entries => recordAllCalls factory scope map entries
  | .field _ value | .spread value | .attr _ value => recordCalls factory scope map value
  | .element _ attributes _ children =>
    recordAllCalls factory scope (recordAllCalls factory scope map attributes) children
  | .group _ parts => recordAllCalls factory scope map parts

def recordAllCalls (factory : String) (scope : ScopeKey) (map : ScopeMap) : List Tree → ScopeMap
  | [] => map
  | tree :: trees => recordAllCalls factory scope (recordCalls factory scope map tree) trees

end

end Querymap.Script
