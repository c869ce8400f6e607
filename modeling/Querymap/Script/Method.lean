import Querymap.Script.Function

/-! The functions of properties. -/
namespace Querymap.Script

open Reader

variable (inner : Readers)

inductive Accessor
  | getter
  | setter
deriving DecidableEq

/-- A getter has no parameter, and a setter has one, besides `this`. -/
def Accessor.fits (accessor : Accessor) (parameters : List Tree) : Bool :=
  let proper := parameters.filter fun
    | .identifier name => name != "this"
    | _ => true
  match accessor, proper with
  | .getter, [] => true
  | .setter, [.spread _] => false
  | .setter, [_] => true
  | _, _ => false

/-- Consumes a word that is not the name of a member itself. -/
def eatLeading (name : String) : Reader Bool := do
  if ← atWord name then
    let next ← peek
    let leads := match next.token with
      | .word .. | .string _ | .number | .privateName | .sign "[" => true
      | .sign "*" => name == "async"
      | _ => false
    if leads && !(name == "async" && next.afterBreak) then
      advance
      return true
  return false

structure MethodHead where
  isAsync : Bool
  isGenerator : Bool
  accessor : Option Accessor

/-- What follows is a method for certain. -/
def MethodHead.isSpecial (head : MethodHead) : Bool :=
  head.isAsync || head.isGenerator || head.accessor.isSome

def methodHead : Reader MethodHead := do
  let isAsync ← eatLeading "async"
  let isGenerator ← eatSign "*"
  if isAsync || isGenerator then return ⟨isAsync, isGenerator, none⟩
  if ← eatLeading "get" then return ⟨false, false, some .getter⟩
  if ← eatLeading "set" then return ⟨false, false, some .setter⟩
  return ⟨false, false, none⟩

def method (start : Spot) (head : MethodHead) (isConstructor : Bool) : Reader FunctionParts := do
  let parts ← functionTail inner
    { isAsync := head.isAsync, isGenerator := head.isGenerator, isMember := true, isConstructor }
  if let some accessor := head.accessor then
    unless accessor.fits parts.parameters do report start
  return parts

def atParameters : Reader Bool := return (← atSign "(") || ((← typed) && (← startsWith '<'))

end Querymap.Script
