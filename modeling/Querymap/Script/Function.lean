import Querymap.Script.Type

/-! Blocks and functions. -/
namespace Querymap.Script

open Reader

variable (inner : Readers)

/-- Statements between braces. At the end of the source the closing brace may be missing. -/
def block : Reader Tree := do
  expectSign "\x7b"
  let statements ← many (return (← atSign "\x7d") || (← atEnd)) (inner .statement)
  if ← atEnd then report (← last) else advance
  return .group .statement statements

def Context.body (context : Context) (isAsync isGenerator inMember : Bool) : Context :=
  { typed := context.typed
    limit := context.limit
    topLevel := false
    inFunction := true
    inAsync := isAsync
    inGenerator := isGenerator
    inMember
    hasTarget := true }

/-- A body begins with the directive that makes its code strict. -/
def isStrictBody : List Tree → Bool
  | .group .statement [.string text] :: statements => text == some "use strict" || isStrictBody statements
  | _ => false

def areSimple (parameters : List Tree) : Bool :=
  parameters.all fun
    | .identifier _ => true
    | _ => false

/-- The body of a function. It may make itself strict if its parameters are names. -/
def functionBody (parameters : List Tree) : Reader Tree := do
  let start ← spot
  let body ← block inner
  if isStrictBody body.parts && !areSimple parameters then report start
  return body

structure FunctionParts where
  parameters : List Tree
  /-- With types it may be missing. -/
  body : Option Tree

def FunctionParts.parts (function : FunctionParts) : List Tree :=
  function.parameters ++ function.body.toList

structure FunctionKind where
  isAsync : Bool := false
  isGenerator : Bool := false
  isMember : Bool := false
  isConstructor : Bool := false

def functionTail (kind : FunctionKind) : Reader FunctionParts := do
  typeParameters? inner
  let around := fun (context : Context) =>
    { context.body kind.isAsync kind.isGenerator kind.isMember with ambient := context.ambient }
  let parameters ← withReader around (parameters inner kind.isConstructor)
  annotation inner
  if (← typed) && !(← atSign "\x7b") then
    semicolon
    return ⟨parameters, none⟩
  return ⟨parameters, some (← withReader around (functionBody inner parameters))⟩

def function (isAsync named : Bool) : Reader Tree := do
  expectWord "function"
  let isGenerator ← eatSign "*"
  if named || (← atBoundName) then discard boundName
  return .group .expression (← functionTail inner { isAsync, isGenerator }).parts

end Querymap.Script
