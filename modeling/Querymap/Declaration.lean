import Querymap.Merge
import Querymap.Text.Literal

/-! The text of the declaration file of a model. -/
namespace Querymap

namespace Declaration

/-- Text is assembled from characters, so that it can be read back. -/
abbrev Chars := List Char

def indent (depth : Nat) : Chars := List.replicate depth '\t'

/-- One line per entry at `depth` tabs, the closing brace one tab less. -/
def body {β : Type} (value : β → Chars) (depth : Nat) (dict : Dict β) : Chars :=
  if dict.isEmpty then ['{', ' ', '}']
  else
    ['{', '\n'] ++
      dict.entries.flatMap (fun entry =>
        indent depth ++ Text.quoted entry.1.toList ++ [':', ' '] ++ value entry.2 ++ [';', '\n']) ++
      indent (depth - 1) ++ ['}']

def types (depth : Nat) (dict : Dict String) : Chars := body String.toList depth dict

/-- The five bodies with the name of each interface. -/
def bodies (model : Model) : List (String × Chars) := [
  ("SelectorMap", types 1 model.selectors),
  ("IDMap", types 1 model.ids),
  ("ClassMap", types 1 model.classes),
  ("ModuleMap", body (types 2) 1 model.modules),
  ("TagMap", types 1 model.tags)]

def nodeSelector : String :=
  "interface NodeSelector \x7b\n" ++
  "\tquerySelector<T extends keyof SelectorMap>(selector: T): SelectorMap[T];\n" ++
  "\tquerySelectorAll<T extends keyof SelectorMap>(selector: T): SelectorMap[T][];\n" ++
  "\x7d\n"

def document : String :=
  "interface Document \x7b\n" ++
  "\tgetElementById<T extends keyof IDMap>(elementId: T): IDMap[T];\n" ++
  "\tgetElementsByClassName<T extends keyof ClassMap>(classNames: string): " ++
    "HTMLCollectionOf<ClassMap[T]>;\n" ++
  "\tgetElementsByTagName<T extends keyof TagMap>(tagName: T): NodeListOf<TagMap[T]>;\n" ++
  "\x7d\n"

/-- With `exported`, every interface is exported and type aliases of the five bodies follow. -/
def chars (model : Model) (exported : Bool) : Chars :=
  let keyword := if exported then "export ".toList else []
  let interfaces := (bodies model).flatMap fun (name, text) =>
    keyword ++ "interface ".toList ++ name.toList ++ [' '] ++ text ++ ['\n', '\n']
  let lookups := keyword ++ nodeSelector.toList ++ ['\n'] ++ keyword ++ document.toList
  let aliases :=
    if exported then
      "\nexport type ModuleIDs<T extends keyof ModuleMap> = ModuleMap[T];\n".toList ++
        (bodies model).flatMap fun (name, text) =>
          "\nexport type ".toList ++ name.toList ++ "Type = ".toList ++ text ++ ['\n']
    else []
  interfaces ++ lookups ++ aliases

end Declaration

def Model.declaration (model : Model) (exported : Bool) : String :=
  String.ofList (Declaration.chars model exported)

end Querymap
