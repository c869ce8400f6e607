import Querymap.Element
import Querymap.Scope

/-! The typing model, and the merging of scope maps into it. -/
namespace Querymap

/-- What selectors, ids, classes, modules and tags stand for. -/
structure Model where
  selectors : Dict String := ∅
  modules : Dict (Dict String) := ∅
  ids : Dict String := ∅
  classes : Dict String := ∅
  tags : Dict String := ∅
deriving DecidableEq, Inhabited

namespace Merge

/-- The model so far, and the types seen for each class. -/
structure Collector where
  model : Model := {}
  classTypes : Dict (Dict Unit) := ∅

def withoutHash (selector : String) : String :=
  match selector.toList with
  | '#' :: rest => String.ofList rest
  | _ => selector

namespace Collector

def addDefaultId (collector : Collector) (entry : String × String) : Collector :=
  { collector with
    model := { collector.model with
      ids := collector.model.ids.insert (withoutHash entry.1) entry.2
      selectors := collector.model.selectors.insert entry.1 entry.2 } }

def addModule (collector : Collector) (name : String) (scope : Scope) : Collector :=
  let tag := Element.typeName (some name) []
  let ids := Dict.ofList (scope.ids.entries.map fun entry => (withoutHash entry.1, entry.2))
  { collector with
    model := { collector.model with
      modules := collector.model.modules.insert name ids
      selectors := collector.model.selectors.insert name tag
      tags := collector.model.tags.insert name tag } }

def addClass (collector : Collector) (entry : String × String) : Collector :=
  let types := (collector.classTypes.get? entry.1).getD ∅
  { collector with classTypes := collector.classTypes.insert entry.1 (types.insert entry.2 ()) }

def addScope (collector : Collector) (entry : ScopeKey × Scope) : Collector :=
  let withIds := match entry.1 with
    | .default => entry.2.ids.entries.foldl addDefaultId collector
    | .named name => collector.addModule name entry.2
  entry.2.classes.foldl addClass withIds

def add (collector : Collector) (map : ScopeMap) : Collector :=
  map.scopes.foldl addScope collector

def addUnion (model : Model) (entry : String × Dict Unit) : Model :=
  let union := String.intercalate "|" entry.2.keys
  { model with
    selectors := model.selectors.insert ("." ++ entry.1) union
    classes := model.classes.insert entry.1 union }

/-- Classes are written last: each becomes the union of its types in increasing order. -/
def finish (collector : Collector) : Model :=
  collector.classTypes.entries.foldl addUnion collector.model

end Collector

end Merge

def ScopeMap.merge (map : ScopeMap) : Model := (({} : Merge.Collector).add map).finish

/-- One model for all files; the files count in path order. -/
def FileTypings.mergeAll (files : FileTypings) : Model :=
  (files.values.foldl Merge.Collector.add {}).finish

def FileTypings.mergeEach (files : FileTypings) : Dict Model := files.mapValues (·.merge)

end Querymap
