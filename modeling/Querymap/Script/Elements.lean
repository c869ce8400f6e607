import Querymap.Script.Attributes

/-! Recording of the JSX elements in a script. -/
namespace Querymap.Script

mutual

/-- Records the elements of a tree in source order. A module with an id records nothing itself and is
the scope of all elements inside it. -/
def recordElements (scope : ScopeKey) (map : ScopeMap) : Tree → ScopeMap
  | .identifier _ | .string _ => map
  | .member owner _ => recordElements scope map owner
  | .call callee arguments =>
    recordAllElements scope (recordElements scope map callee) arguments
  | .object entries => recordAllElements scope map entries
  | .field _ value | .spread value | .attr _ value => recordElements scope map value
  | .element tag attributes typeArguments children =>
    let own := ElementAttributes.ofPairs (stringAttributes attributes)
    match decide (tag = Markup.moduleTag), own.id with
    | true, some id =>
      let inside := recordAllElements (.named id) (map.touch (.named id)) attributes
      recordAllElements (.named id) inside children
    | _, _ =>
      let inside := recordAllElements scope (recordElement map scope tag typeArguments own) attributes
      recordAllElements scope inside children
  | .group _ parts => recordAllElements scope map parts

def recordAllElements (scope : ScopeKey) (map : ScopeMap) : List Tree → ScopeMap
  | [] => map
  | tree :: trees => recordAllElements scope (recordElements scope map tree) trees

end

end Querymap.Script
