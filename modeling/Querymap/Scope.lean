import Querymap.Dict
import Querymap.Text.Blank

/-! What one file contributes: ids and classes with their element types, by scope. -/
namespace Querymap

inductive ScopeKey
  | default
  | named (name : String)
deriving DecidableEq, Inhabited

/-- Ids are kept as selectors, with their `#`; classes keep the order and the repetitions of the
recording. -/
structure Scope where
  ids : Dict String := ∅
  classes : List (String × String) := []
deriving DecidableEq, Inhabited

namespace Scope

def isEmpty (scope : Scope) : Bool := scope.ids.isEmpty && scope.classes.isEmpty

def recordId (scope : Scope) (id type : String) : Scope :=
  { scope with ids := scope.ids.insert ("#" ++ id) type }

/-- One class per word of `names`. -/
def recordClasses (scope : Scope) (names type : String) : Scope :=
  { scope with
    classes := scope.classes ++
      (Text.words names.toList).map fun name => (String.ofList name, type) }

end Scope

/-- The scopes of one file. The default scope always exists. -/
structure ScopeMap where
  default : Scope := {}
  named : Dict Scope := ∅
deriving DecidableEq, Inhabited

namespace ScopeMap

def get? (map : ScopeMap) : ScopeKey → Option Scope
  | .default => some map.default
  | .named name => map.named.get? name

def set (map : ScopeMap) (key : ScopeKey) (scope : Scope) : ScopeMap :=
  match key with
  | .default => { map with default := scope }
  | .named name => { map with named := map.named.insert name scope }

/-- Changes a scope, which is created empty first if it is missing. -/
def modify (map : ScopeMap) (key : ScopeKey) (change : Scope → Scope) : ScopeMap :=
  map.set key (change ((map.get? key).getD {}))

def touch (map : ScopeMap) (key : ScopeKey) : ScopeMap := map.modify key id

def reset (map : ScopeMap) (key : ScopeKey) : ScopeMap := map.set key {}

def recordId (map : ScopeMap) (key : ScopeKey) (id type : String) : ScopeMap :=
  map.modify key (·.recordId id type)

def recordClasses (map : ScopeMap) (key : ScopeKey) (names type : String) : ScopeMap :=
  map.modify key (·.recordClasses names type)

/-- The default scope and then the named ones in the order of their names. -/
def scopes (map : ScopeMap) : List (ScopeKey × Scope) :=
  (.default, map.default) :: map.named.entries.map fun entry => (.named entry.1, entry.2)

def size (map : ScopeMap) : Nat := map.named.size + 1

def isEmpty (map : ScopeMap) : Bool := map.scopes.all (·.2.isEmpty)

/-- One change to a scope map. -/
inductive Step
  | id (scope : ScopeKey) (id type : String)
  | classes (scope : ScopeKey) (names type : String)
  | touch (scope : ScopeKey)
  | reset (scope : ScopeKey)
deriving DecidableEq

def Step.scope : Step → ScopeKey
  | .id scope .. | .classes scope .. | .touch scope | .reset scope => scope

def apply (map : ScopeMap) : Step → ScopeMap
  | .id scope id type => map.recordId scope id type
  | .classes scope names type => map.recordClasses scope names type
  | .touch scope => map.touch scope
  | .reset scope => map.reset scope

@[simp] theorem get?_set (map : ScopeMap) (key other : ScopeKey) (scope : Scope) :
    (map.set key scope).get? other = if other = key then some scope else map.get? other := by
  cases key <;> cases other <;> simp [set, get?]

end ScopeMap

/-- The scope maps of many files, by path. -/
abbrev FileTypings := Dict ScopeMap

end Querymap
