import Querymap.Text.Blank
import Querymap.Text.Uppercase

/-! The interface that types an element, from its tag name. -/
namespace Querymap.Element

/-- Interfaces of the tag names that the naming rule does not cover. -/
def known? : String → Option String
  | "svg" => some "SVGElement"
  | "textarea" => some "HTMLTextAreaElement"
  | "a" => some "HTMLAnchorElement"
  | "h1" | "h2" | "h3" | "h4" | "h5" | "h6" => some "HTMLHeadingElement"
  | "br" => some "HTMLBRElement"
  | "img" => some "HTMLImageElement"
  | "hr" => some "HTMLHRElement"
  | "li" => some "HTMLLIElement"
  | "ol" => some "HTMLOListElement"
  | "p" => some "HTMLParagraphElement"
  | "ul" => some "HTMLUListElement"
  | "tbody" | "thead" | "td" => some "HTMLTableDataCellElement"
  | "tfoot" => some "HTMLTableSectionElement"
  | "th" => some "HTMLTableHeaderCellElement"
  | "tr" => some "HTMLTableRowElement"
  | "datalist" => some "HTMLDataListElement"
  | "fieldset" => some "HTMLFieldSetElement"
  | "optgroup" => some "HTMLOptGroupElement"
  | "frameset" => some "HTMLFrameSetElement"
  | "b" | "address" | "article" | "aside" | "footer" | "header" | "hgroup" | "nav"
  | "section" | "blockquote" | "dd" | "dl" | "dt" | "figcaption" | "figures" | "figure"
  | "main" | "abbr" | "bdi" | "cite" | "code" | "dfn" | "em" | "i" | "kbd" | "mark"
  | "q" | "rp" | "rt" | "rtc" | "ruby" | "s" | "samp" | "small" | "strong" | "sup"
  | "var" | "wbr" | "noscript" | "del" | "ins" | "caption" | "col" | "colgroup"
  | "details" | "dialog" | "menuitem" | "summary" | "content" | "element" | "shadw"
  | "acronym" | "basefront" | "big" | "blink" | "center" | "command" | "dir"
  | "isindex" | "key" | "listing" | "multicol" | "nextid" | "noembed" | "plaintext"
  | "spacer" | "strike" | "tt" | "xmp" | "shadow" | "sub" | "u" => some "HTMLElement"
  | _ => none

def capitalize : List Char → List Char
  | [] => []
  | c :: rest => Text.uppercase c ++ rest

/-- The capitalized words of a hyphenated name before `Element`, after `HTML` for a plain name. -/
def synthesized (name : List Char) : List Char :=
  let words := (Text.splitAt (· == '-') name).flatMap capitalize
  (if name.contains '-' then [] else "HTML".toList) ++ words ++ "Element".toList

/-- An unnamed element is a template. Type arguments are appended verbatim. -/
def typeName (name : Option String) (typeArguments : List String) : String :=
  let base := match name with
    | none => "HTMLTemplateElement"
    | some name => (known? name).getD (String.ofList (synthesized name.toList))
  if typeArguments.isEmpty then base
  else base ++ "<" ++ String.intercalate "," typeArguments ++ ">"

end Querymap.Element
