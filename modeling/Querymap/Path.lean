import Querymap.Text.Blank

/-! Lexical paths: a spelling with `/` between its components. Repeated separators and inner `.`
components carry no meaning; a leading `.` and every `..` do. -/
namespace Querymap

structure Path where
  spelling : String
deriving DecidableEq, Inhabited

namespace Path

/-- The constructors stand in the order in which paths sort. -/
inductive Component
  | root
  | current
  | parent
  | name (text : String)
deriving DecidableEq, Inhabited

namespace Component

def rank : Component → Nat
  | .root => 0
  | .current => 1
  | .parent => 2
  | .name _ => 3

def compare : Component → Component → Ordering
  | .name a, .name b => Ord.compare a b
  | a, b => Ord.compare a.rank b.rank

end Component

/-- Each component with the length of the spelling up to its end. -/
def scan (leading : Bool) (offset : Nat) : List (List Char) → List (Component × Nat)
  | [] => []
  | piece :: rest =>
    let stop := offset + piece.length
    let found : List (Component × Nat) :=
      match piece with
      | [] => []
      | ['.'] => if leading then [(.current, stop)] else []
      | ['.', '.'] => [(.parent, stop)]
      | _ => [(.name (String.ofList piece), stop)]
    found ++ scan false (stop + 1) rest

def isAbsolute (path : Path) : Bool := path.spelling.toList.head? == some '/'

def marks (path : Path) : List (Component × Nat) :=
  let text := path.spelling.toList
  if path.isAbsolute then (.root, 1) :: scan false 0 (Text.splitAt (· == '/') text)
  else scan true 0 (Text.splitAt (· == '/') text)

def components (path : Path) : List Component := path.marks.map (·.1)

/-- The plain spelling of some components. -/
def ofComponents (components : List Component) : Path :=
  let names := components.filterMap fun
    | .root => none
    | .current => some "."
    | .parent => some ".."
    | .name text => some text
  ⟨(if components.head? = some .root then "/" else "") ++ String.intercalate "/" names⟩

/-- Paths with the same components name the same file. -/
def same (a b : Path) : Bool := a.components == b.components

def compareComponents : List Component → List Component → Ordering
  | [], [] => .eq
  | [], _ :: _ => .lt
  | _ :: _, [] => .gt
  | a :: as, b :: bs => (a.compare b).then (compareComponents as bs)

def compare (a b : Path) : Ordering := compareComponents a.components b.components

/-- `path` seen from `base`; an absolute `path` stands for itself. -/
def join (base path : Path) : Path :=
  if path.isAbsolute || base.spelling.isEmpty then path
  else if base.spelling.toList.getLast? == some '/' then ⟨base.spelling ++ path.spelling⟩
  else ⟨base.spelling ++ "/" ++ path.spelling⟩

/-- The spelling up to the component before the last one; none for a root or an empty path. -/
def parent? (path : Path) : Option Path :=
  match path.marks.reverse with
  | [] => none
  | (.root, _) :: _ => none
  | [_] => some ⟨""⟩
  | _ :: (_, stop) :: _ => some ⟨String.ofList (path.spelling.toList.take stop)⟩

def fileName? (path : Path) : Option String :=
  match path.components.getLast? with
  | some (.name text) => some text
  | _ => none

/-- A file name before and after its last dot; a name whose only dot leads has no extension. -/
def splitName (name : List Char) : List Char × Option (List Char) :=
  let after := name.reverse.takeWhile (· != '.')
  match name.reverse.dropWhile (· != '.') with
  | [] => (name, none)
  | ['.'] => (name, none)
  | _ :: before => (before.reverse, some after.reverse)

def stem? (path : Path) : Option String :=
  path.fileName?.map fun name => String.ofList (splitName name.toList).1

def extension? (path : Path) : Option String :=
  path.fileName?.bind fun name => (splitName name.toList).2.map String.ofList

def withFileName (path : Path) (name : String) : Path :=
  match path.fileName? with
  | none => path.join ⟨name⟩
  | some _ => ((path.parent?).getD ⟨""⟩).join ⟨name⟩

/-- `path` with `extension` added to its file name; a path without one stays as it is. -/
def addExtension (path : Path) (extension : String) : Path :=
  match path.marks.getLast? with
  | some (.name _, stop) =>
    ⟨String.ofList (path.spelling.toList.take stop ++ '.' :: extension.toList)⟩
  | _ => path

/-- Every component of `base` leads `path`. -/
def startsWith (path base : Path) : Bool := base.components.isPrefixOf path.components

end Path

end Querymap
