import Querymap.Markup.Recorder

/-! Tags of a document as well-nested events. Elements that are left open end with the element around
them, or with the document. -/
namespace Querymap.Html

open Markup

inductive Tag
  | start (name : String) (attributes : Attributes) (selfClosing : Bool)
  | stop (name : String)
deriving DecidableEq

def voidElements : List String := [
  "area", "base", "basefont", "br", "col", "command", "embed", "frame", "hr", "img", "input",
  "isindex", "keygen", "link", "meta", "param", "source", "track", "wbr"]

/-- The events of the tags, given the open elements, the innermost first. An end tag that matches none
of them is ignored. -/
def eventsWithin (stack : List String) : List Tag → List Event
  | [] => stack.map .closed
  | .start name attributes selfClosing :: rest =>
    if selfClosing || voidElements.contains name then
      .opened name attributes :: .closed name :: eventsWithin stack rest
    else .opened name attributes :: eventsWithin (name :: stack) rest
  | .stop name :: rest =>
    match stack.dropWhile (· != name) with
    | [] => eventsWithin stack rest
    | _ :: outer =>
      (stack.takeWhile (· != name)).map .closed ++ .closed name :: eventsWithin outer rest

def events (tags : List Tag) : List Event := eventsWithin [] tags

end Querymap.Html
