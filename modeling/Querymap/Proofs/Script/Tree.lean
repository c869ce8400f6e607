import Querymap.Script.Tree

/-! Equality of syntax trees can be decided. -/
namespace Querymap.Script

mutual

def Tree.same : Tree → Tree → Bool
  | .identifier a, .identifier b => a == b
  | .string a, .string b => a == b
  | .member a x, .member b y => a.same b && x == y
  | .call a xs, .call b ys => a.same b && allSame xs ys
  | .object xs, .object ys => allSame xs ys
  | .field x a, .field y b => x == y && a.same b
  | .spread a, .spread b => a.same b
  | .element x as types xs, .element y bs types' ys =>
    x == y && allSame as bs && types == types' && allSame xs ys
  | .attr x a, .attr y b => x == y && a.same b
  | .group x as, .group y bs => x == y && allSame as bs
  | _, _ => false

def allSame : List Tree → List Tree → Bool
  | [], [] => true
  | a :: as, b :: bs => a.same b && allSame as bs
  | _, _ => false

end

mutual

theorem Tree.same_iff (a b : Tree) : a.same b = true ↔ a = b := by
  cases a with
  | identifier | string => cases b <;> simp [Tree.same]
  | member a x | field x a | spread a | attr x a =>
    cases b <;> simp [Tree.same, Tree.same_iff a, and_comm]
  | call a xs => cases b <;> simp [Tree.same, Tree.same_iff a, allSame_iff xs]
  | object xs | group x xs => cases b <;> simp [Tree.same, allSame_iff xs]
  | element x as types xs => cases b <;> simp [Tree.same, allSame_iff as, allSame_iff xs, and_assoc]

theorem allSame_iff (as bs : List Tree) : allSame as bs = true ↔ as = bs := by
  cases as with
  | nil => cases bs <;> simp [allSame]
  | cons a as => cases bs <;> simp [allSame, Tree.same_iff a, allSame_iff as]

end

instance : DecidableEq Tree := fun a b => decidable_of_iff (a.same b = true) (Tree.same_iff a b)

end Querymap.Script
