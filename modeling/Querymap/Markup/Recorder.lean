import Querymap.Element
import Querymap.Scope

/-! Tags as a stream of events, whatever language they were written in, and the recording of such a
stream into scopes. A `dom-module` with an id opens a scope of that name. -/
namespace Querymap.Markup

abbrev Attributes := Dict String

inductive Event
  | opened (tag : String) (attributes : Attributes)
  | closed (tag : String)
deriving DecidableEq

/-- The value of an attribute, if it has one that is not empty. -/
def Attributes.value? (attributes : Attributes) (name : String) : Option String :=
  (attributes.get? name).filter (!·.isEmpty)

def moduleTag : String := "dom-module"

def templateTag : String := "template"

def typeAttribute : String := "data-element-type"

inductive ScopeMode
  /-- One current scope: the end of any module leads back to the default scope. -/
  | single
  /-- A stack of scopes: the end of a module leads back to the scope around it. -/
  | nested
deriving DecidableEq, Inhabited

structure Recorder where
  map : ScopeMap := {}
  current : ScopeKey := .default
  /-- Scopes to go back to, the innermost first; used in nested mode only. -/
  outer : List ScopeKey := []
deriving DecidableEq

namespace Recorder

/-- A module without an id stays in the current scope. -/
def openModule (mode : ScopeMode) (recorder : Recorder) (attributes : Attributes) : Recorder :=
  let outer := match mode with
    | .single => recorder.outer
    | .nested => recorder.current :: recorder.outer
  match attributes.value? "id" with
  | some id => ⟨recorder.map.reset (.named id), .named id, outer⟩
  | none => ⟨recorder.map, recorder.current, outer⟩

def closeModule (mode : ScopeMode) (recorder : Recorder) : Recorder :=
  match mode, recorder.outer with
  | .nested, scope :: outer => ⟨recorder.map, scope, outer⟩
  | _, _ => ⟨recorder.map, .default, recorder.outer⟩

/-- The type of an element's id. A template is typed by what it stands for. -/
def idType (tag : String) (attributes : Attributes) : String :=
  match attributes.value? typeAttribute with
  | some type => type
  | none =>
    if tag = templateTag then Element.typeName (attributes.value? "is") []
    else Element.typeName (some tag) []

def classType (tag : String) (attributes : Attributes) : String :=
  (attributes.value? typeAttribute).getD (Element.typeName (some tag) [])

def recordElement (map : ScopeMap) (scope : ScopeKey) (tag : String) (attributes : Attributes) :
    ScopeMap :=
  let withId := match attributes.value? "id" with
    | some id => map.recordId scope id (idType tag attributes)
    | none => map
  match attributes.value? "class" with
  | some names => withId.recordClasses scope names (classType tag attributes)
  | none => withId

def step (mode : ScopeMode) (recorder : Recorder) : Event → Recorder
  | .opened tag attributes =>
    if tag = moduleTag then recorder.openModule mode attributes
    else { recorder with map := recordElement recorder.map recorder.current tag attributes }
  | .closed tag => if tag = moduleTag then recorder.closeModule mode else recorder

def run (mode : ScopeMode) (recorder : Recorder) (events : List Event) : Recorder :=
  events.foldl (step mode) recorder

end Recorder

/-- The scopes that a stream of events fills. -/
def record (mode : ScopeMode) (events : List Event) : ScopeMap :=
  (Recorder.run mode {} events).map

end Querymap.Markup
