import Querymap.Path

/-! The languages of input files. -/
namespace Querymap

inductive FileType
  | html
  | pug
  | compiledJsx
  | jsx
  | tsx
deriving DecidableEq, Inhabited

namespace FileType

def ofPath (path : Path) : FileType :=
  match path.extension? with
  | some "pug" | some "jade" => .pug
  | some "js" => .compiledJsx
  | some "jsx" => .jsx
  | some "tsx" => .tsx
  | _ => .html

def markupExtensions : List String := ["html", "htm", "pug", "jade", "jsx", "tsx"]

def isSupported (path : Path) (withCompiled : Bool) : Bool :=
  match path.extension? with
  | some extension => markupExtensions.contains extension || (extension == "js" && withCompiled)
  | none => false

end FileType

def declarationSuffix : String := "-querymap.d.ts"

/-- The file that is written beside an input: its stem with a suffix. -/
def Path.generated (input : Path) (suffix : String) : Path :=
  input.withFileName (input.stem?.getD "" ++ suffix)

end Querymap
