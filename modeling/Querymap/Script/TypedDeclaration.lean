import Querymap.Script.Class

/-! The syntax of the declarations that only scripts with types have. -/
namespace Querymap.Script

open Reader

variable (inner : Readers)

def typeAlias : Reader Tree := do
  expectWord "type"
  discard identifier
  typeParameters? inner
  expectSign "="
  type inner
  semicolon
  return .nothing

def interfaceDeclaration : Reader Tree := do
  expectWord "interface"
  discard identifier
  typeParameters? inner
  if ← eatWord "extends" then discard (separated "," (type inner))
  typeMembers inner
  return .nothing

def enumDeclaration : Reader Tree := do
  discard (eatWord "const")
  expectWord "enum"
  discard identifier
  expectSign "\x7b"
  let members ← commaList "\x7d" do
    let key ← key inner
    if ← eatSign "=" then return .group .property (key.parts ++ [← inner .assignment])
    return .group .property key.parts
  return .group .statement members

def namespaceBody : Reader Tree := do
  expectSign "\x7b"
  let items ← withReader ({ · with topLevel := true }) (many (atSign "\x7d") (inner .statement))
  expectSign "\x7d"
  return .group .statement items

def namespaceDeclaration : Reader Tree := do
  discard anyWord
  match ← token with
  | .string _ =>
    advance
    if ← atSign "\x7b" then namespaceBody inner
    else
      semicolon
      return .nothing
  | .sign "\x7b" => namespaceBody inner
  | _ =>
    discard (separated "." anyWord)
    namespaceBody inner

/-- What kind of declaration a contextual word begins, by the word after it on the same line. -/
def typedDeclaration? : Reader (Option (Reader Tree)) := do
  unless ← typed do return none
  let next ← peek
  let beforeWord := match next.token with
    | .word name _ => !next.afterBreak && !(["in", "instanceof", "as", "satisfies"].contains name)
    | _ => false
  match ← token, beforeWord, next.token with
  | .word "type" false, true, _ => return some (typeAlias inner)
  | .word "interface" false, true, _ => return some (interfaceDeclaration inner)
  | .word "enum" false, true, _ => return some (enumDeclaration inner)
  | .word "const" false, _, .word "enum" false => return some (enumDeclaration inner)
  | .word "namespace" false, true, _ | .word "module" false, true, _ =>
    return some (namespaceDeclaration inner)
  | .word "module" false, _, .string _ =>
    return if next.afterBreak then none else some (namespaceDeclaration inner)
  | .word "abstract" false, true, .word "class" false => return some do
      advance
      classTail inner true
  | _, _, _ => return none

def atAmbient : Reader Bool := do
  unless (← typed) && (← atWord "declare") do return false
  let next ← peek
  match next.token with
  | .word name _ => return !next.afterBreak && !(["in", "instanceof", "as", "satisfies"].contains name)
  | _ => return false

def ambientDeclaration : Reader Tree := do
  expectWord "declare"
  if ← atWord "global" then return ← namespaceDeclaration inner
  withReader ({ · with ambient := true }) (inner .statement)

end Querymap.Script
