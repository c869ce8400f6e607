import Querymap.Html.OpenElements
import Querymap.Html.Reference

/-! Reading of the tags of a document, one character at a time. -/
namespace Querymap.Html

structure Draft where
  closing : Bool
  name : List Char := []
  attributes : Markup.Attributes := ∅
  key : List Char := []
  value : List Char := []

/-- What the text of an element may hold besides its end tag. -/
inductive RawText
  | plain
  | script
  /-- Inside a comment of a script, after so many dashes. -/
  | escaped (dashes : Nat)
  /-- Inside a script that is written within such a comment. -/
  | doubleEscaped (dashes : Nat)

inductive Stage
  | name
  | beforeKey
  | key
  | afterKey
  | beforeValue
  | quoted (quote : Char)
  | unquoted
  | afterQuoted
  | selfClosing

inductive RawStage
  | text
  | less
  /-- After `</`, with the letters read so far in reverse. -/
  | endTag (letters : List Char)
  | bang (dash : Bool)
  | nested (letters : List Char)
  /-- After `</` and letters in a nested script. -/
  | nestedEnd (letters : List Char)

inductive State
  | data
  | tagOpen
  | endTagOpen
  | tag (draft : Draft) (stage : Stage)
  /-- A comment that any `>` ends. -/
  | bogus
  /-- After `<!` or `<!-`. -/
  | declaration (dash : Bool)
  /-- In a comment; `bang` after `--!`. -/
  | comment (dashes : Nat) (bang : Bool)
  /-- At the start of a comment, after at most one dash, where `>` ends it. -/
  | commentStart (dash : Bool)
  | raw (element : List Char) (text : RawText) (stage : RawStage)
  | plaintext

def isSpace (c : Char) : Bool := c == ' ' || c == '\t' || c == '\n' || c == '\x0c'

def clean (c : Char) : Char := if c == '\x00' then '\ufffd' else c

namespace Draft

def addName (draft : Draft) (c : Char) : Draft := { draft with name := clean c.toLower :: draft.name }

def addKey (draft : Draft) (c : Char) : Draft := { draft with key := clean c.toLower :: draft.key }

def addValue (draft : Draft) (c : Char) : Draft := { draft with value := clean c :: draft.value }

/-- Ends the current attribute; the first attribute of a name counts. -/
def closeAttribute (draft : Draft) : Draft :=
  let key := String.ofList draft.key.reverse
  let attributes :=
    if draft.key.isEmpty || draft.attributes.contains key then draft.attributes
    else draft.attributes.insert key (String.ofList (decode draft.value.reverse))
  { draft with attributes, key := [], value := [] }

def toTag (draft : Draft) (selfClosing : Bool) : Tag :=
  let name := String.ofList draft.name.reverse
  if draft.closing then .stop name else .start name draft.attributes selfClosing

def following (draft : Draft) : State :=
  let name := draft.name.reverse
  if draft.closing then .data
  else if ["title", "textarea", "style", "iframe", "xmp", "noembed", "noframe", "noscript"].contains
      (String.ofList name) then .raw name .plain .text
  else if name = "script".toList then .raw name .script .text
  else if name = "plaintext".toList then .plaintext
  else .data

end Draft

def finish (draft : Draft) (selfClosing : Bool) : State × Option Tag :=
  let draft := draft.closeAttribute
  (draft.following, some (draft.toTag selfClosing))

def tagStep (draft : Draft) (stage : Stage) (c : Char) : State × Option Tag :=
  let go (draft : Draft) (stage : Stage) : State × Option Tag := (.tag draft stage, none)
  let beforeKey (draft : Draft) : State × Option Tag :=
    if isSpace c then go draft .beforeKey
    else if c == '/' then go draft .selfClosing
    else if c == '>' then finish draft false
    else go (draft.closeAttribute.addKey c) .key
  match stage with
  | .name =>
    if isSpace c || c == '/' || c == '>' then beforeKey draft else go (draft.addName c) .name
  | .beforeKey => beforeKey draft
  | .key =>
    if isSpace c then go draft .afterKey
    else if c == '/' then go draft .selfClosing
    else if c == '>' then finish draft false
    else if c == '=' then go draft .beforeValue
    else go (draft.addKey c) .key
  | .afterKey =>
    if isSpace c then go draft .afterKey
    else if c == '=' then go draft .beforeValue
    else beforeKey draft
  | .beforeValue =>
    if isSpace c then go draft .beforeValue
    else if c == '"' || c == '\'' then go draft (.quoted c)
    else if c == '>' then finish draft false
    else go (draft.addValue c) .unquoted
  | .quoted quote =>
    if c == quote then go draft.closeAttribute .afterQuoted else go (draft.addValue c) (.quoted quote)
  | .unquoted =>
    if isSpace c then go draft.closeAttribute .beforeKey
    else if c == '>' then finish draft false
    else go (draft.addValue c) .unquoted
  | .afterQuoted => beforeKey draft
  | .selfClosing => if c == '>' then finish draft true else beforeKey draft

def dataStep (c : Char) : State := if c == '<' then .tagOpen else .data

def rawChar (element : List Char) (text : RawText) (c : Char) : State :=
  let text := match text, c with
    | .escaped dashes, '-' => .escaped (min 2 (dashes + 1))
    | .escaped 2, '>' => .script
    | .escaped _, _ => .escaped 0
    | .doubleEscaped dashes, '-' => .doubleEscaped (min 2 (dashes + 1))
    | .doubleEscaped 2, '>' => .script
    | .doubleEscaped _, _ => .doubleEscaped 0
    | text, _ => text
  .raw element text .text

def rawTextStep (element : List Char) (text : RawText) (c : Char) : State :=
  if c == '<' then .raw element text .less else rawChar element text c

/-- The text state after a look at something that was no tag. -/
def RawText.settled : RawText → RawText
  | .escaped _ => .escaped 0
  | .doubleEscaped _ => .doubleEscaped 0
  | text => text

/-- One character of raw text. A script outside its comments also stops being raw text at an end tag
of another name, which then counts as text. -/
def rawStep (element : List Char) (text : RawText) (stage : RawStage) (c : Char) :
    State × Option Tag :=
  let stay : State × Option Tag := (rawTextStep element text.settled c, none)
  let ends := isSpace c || c == '/' || c == '>'
  match stage with
  | .text => (rawTextStep element text c, none)
  | .less =>
    match text with
    | .doubleEscaped _ => if c == '/' then (.raw element text (.nestedEnd []), none) else stay
    | .escaped _ =>
      if c == '/' then (.raw element text (.endTag []), none)
      else if c.isAlpha then (.raw element text (.nested [c.toLower]), none)
      else stay
    | .script =>
      if c == '/' then (.raw element text (.endTag []), none)
      else if c == '!' then (.raw element text (.bang false), none)
      else stay
    | .plain => if c == '/' then (.raw element text (.endTag []), none) else stay
  | .endTag letters =>
    if c.isAlpha then (.raw element text (.endTag (c.toLower :: letters)), none)
    else if ends && letters.reverse == element then
      tagStep { closing := true, name := letters } .name c
    else match text, letters with
      | .script, _ :: _ => (dataStep c, none)
      | _, _ => stay
  | .bang false => if c == '-' then (.raw element text (.bang true), none) else stay
  | .bang true => if c == '-' then (.raw element (.escaped 2) .text, none) else stay
  | .nested letters =>
    if c.isAlpha then (.raw element text (.nested (c.toLower :: letters)), none)
    else if ends then
      (.raw element (if letters.reverse == "script".toList then .doubleEscaped 0 else .escaped 0)
        .text, none)
    else stay
  | .nestedEnd letters =>
    if c.isAlpha then (.raw element text (.nestedEnd (c.toLower :: letters)), none)
    else if ends then
      (.raw element (if letters.reverse == "script".toList then .escaped 0 else .doubleEscaped 0)
        .text, none)
    else stay

def bogusStep (c : Char) : State := if c == '>' then .data else .bogus

def commentStep (dashes : Nat) (bang : Bool) (c : Char) : State :=
  if c == '>' && (bang || dashes == 2) then .data
  else if c == '-' then .comment (if bang then 1 else min 2 (dashes + 1)) false
  else if c == '!' && dashes == 2 then .comment 0 true
  else .comment 0 false

def step (state : State) (c : Char) : State × Option Tag :=
  match state with
  | .data => (dataStep c, none)
  | .tagOpen =>
    if c == '!' then (.declaration false, none)
    else if c == '/' then (.endTagOpen, none)
    else if c == '?' then (.bogus, none)
    else if c.isAlpha then tagStep { closing := false } .name c
    else (dataStep c, none)
  | .endTagOpen =>
    if c.isAlpha then tagStep { closing := true } .name c else (bogusStep c, none)
  | .tag draft stage => tagStep draft stage c
  | .bogus => (bogusStep c, none)
  | .declaration dash =>
    if c == '-' then (if dash then .commentStart false else .declaration true, none)
    else (bogusStep c, none)
  | .commentStart dash =>
    if c == '>' then (.data, none)
    else if c == '-' then (if dash then .comment 2 false else .commentStart true, none)
    else (commentStep (if dash then 1 else 0) false c, none)
  | .comment dashes bang => (commentStep dashes bang c, none)
  | .raw element text stage => rawStep element text stage c
  | .plaintext => (.plaintext, none)

def tagsFrom (state : State) : List Char → List Tag
  | [] => []
  | c :: rest =>
    match step state c with
    | (next, some tag) => tag :: tagsFrom next rest
    | (next, none) => tagsFrom next rest

def normalizeLines : List Char → List Char
  | [] => []
  | '\r' :: '\n' :: rest => '\n' :: normalizeLines rest
  | '\r' :: rest => '\n' :: normalizeLines rest
  | c :: rest => c :: normalizeLines rest

/-- The tags of a document in order. A tag that the end of the document cuts off does not count. -/
def tags (content : String) : List Tag := tagsFrom .data (normalizeLines content.toList)

def parse (content : String) : List Markup.Event := events (tags content)

end Querymap.Html
