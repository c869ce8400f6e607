import Querymap.FileType
import Querymap.Html.Tokenizer
import Querymap.Pug.Include
import Querymap.Pug.Mixin
import Querymap.Script.Calls
import Querymap.Script.Elements
import Querymap.Script.Recovery

/-! Extraction: from the content of a file to what it contributes. -/
namespace Querymap

structure Options where
  /-- The function whose calls make elements in compiled scripts. -/
  factory : Option String := none
  scopeMode : Markup.ScopeMode := .single
deriving DecidableEq

/-- What a file contributes, and the line at which the reading of a compiled script broke off. -/
structure Extracted where
  map : ScopeMap
  brokenOff : Option Nat := none
deriving DecidableEq, Inhabited

def displayPath : Option Path → String
  | some path => path.spelling
  | none => "<string>"

namespace Extract

def html (mode : Markup.ScopeMode) (content : String) : ScopeMap :=
  Markup.record mode (Html.parse content)

def pug (source : Source) (mode : Markup.ScopeMode) (path : Option Path) (content : String) :
    Pug.Reading ScopeMap := do
  match Pug.parse content with
  | .error error => throw (.template (displayPath path) error)
  | .ok block =>
    let block ← Pug.inlineIncludes source path block
    return Markup.record mode (Pug.events block)

def jsx (path : Option Path) (content : String) : Except ExtractError ScopeMap :=
  match Script.parse content with
  | .error failure => .error (.script (displayPath path) failure.line)
  | .ok items => .ok (Script.recordAllElements .default {} items)

def compiled (factory content : String) : Extracted :=
  let recovered := Script.parseTolerant content
  { map := Script.recordAllCalls factory .default {} (recovered.result.getD [])
    brokenOff := recovered.failure.map (·.line) }

end Extract

/-- What a content of a known language contributes. -/
def extract (source : Source) (options : Options) (type : FileType) (path : Option Path)
    (content : String) : Pug.Reading Extracted := do
  match type with
  | .html => return ⟨Extract.html options.scopeMode content, none⟩
  | .pug => return ⟨← Extract.pug source options.scopeMode path content, none⟩
  | .jsx | .tsx =>
    match Extract.jsx path content with
    | .ok map => return ⟨map, none⟩
    | .error error => throw error
  | .compiledJsx =>
    match options.factory.filter (!·.isEmpty) with
    | none => throw .missingFactory
    | some factory => return Extract.compiled factory content

/-- What a content contributes on its own. -/
def extractOne (source : Source) (options : Options) (type : FileType) (path : Option Path)
    (content : String) : Except ExtractError Extracted :=
  (extract source options type path content |>.run []).1

end Querymap
