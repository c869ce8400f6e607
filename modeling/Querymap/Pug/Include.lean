import Querymap.ExtractError
import Querymap.Pug.Parser

/-! Includes of a template, replaced by the templates that they name. A file is read once; a file that
includes itself, by whatever way, is an error. -/
namespace Querymap.Pug

mutual

/-- Replaces the includes of a node, in document order. -/
def expandNode {m : Type → Type} [Monad m] (load : String → Nat → m Block) : Node → m Node
  | .include path line => return .group (← load path line)
  | .tag name attributes block => return .tag name attributes (← expandBlock load block)
  | .conditional consequent alternate => do
    let consequent ← expandBlock load consequent
    return .conditional consequent (← expandAlternate load alternate)
  | .mixin name block => return .mixin name (← expandBlock load block)
  | .call name attributes block => return .call name attributes (← expandBlock load block)
  | .each block none => return .each (← expandBlock load block) none
  | .each block (some alternate) => do
    let block ← expandBlock load block
    return .each block (some (← expandBlock load alternate))
  | .loop block => return .loop (← expandBlock load block)
  | .case block => return .case (← expandBlock load block)
  | .when block => return .when (← expandBlock load block)
  | .named name block => return .named name (← expandBlock load block)
  | .code block => return .code (← expandBlock load block)
  | .group block => return .group (← expandBlock load block)
  | .text => return .text
  | .comment => return .comment
  | .doctype => return .doctype
  | .inherits path => return .inherits path

def expandBlock {m : Type → Type} [Monad m] (load : String → Nat → m Block) : List Node → m Block
  | [] => return []
  | node :: rest => do
    let node ← expandNode load node
    return node :: (← expandBlock load rest)

def expandAlternate {m : Type → Type} [Monad m] (load : String → Nat → m Block) :
    Alternate → m Alternate
  | .none => return .none
  | .elseIf block next => do
    let block ← expandBlock load block
    return .elseIf block (← expandAlternate load next)
  | .otherwise block => return .otherwise (← expandBlock load block)

end

/-- The file of an include, seen from the template that holds it. -/
def resolve (base : Path) (name : String) : Path :=
  let target := match base.parent? with
    | some folder => folder.join ⟨name⟩
    | none => ⟨name⟩
  if target.extension?.isNone then target.addExtension "pug" else target

/-- Files in other languages hold no nodes. -/
def isTemplate (path : Path) : Bool :=
  path.extension? == some "pug" || path.extension? == some "jade"

/-- Templates that have been read, with their own includes replaced. -/
abbrev Includes := List (Path × Block)

def Includes.find? (includes : Includes) (path : Path) : Option Block :=
  (List.find? (·.1.same path) includes).map (·.2)

/-- The included files that are being read, the innermost first. -/
structure Chain (source : Source) where
  paths : List Path := []
  distinct : Path.Distinct paths
  readable : ∀ path ∈ paths, (source.read path).isOk = true

namespace Chain

variable {source : Source}

def empty : Chain source := ⟨[], .nil, by simp⟩

def contains (chain : Chain source) (path : Path) : Bool := chain.paths.any (path.same ·)

def push (chain : Chain source) (path : Path) (fresh : chain.contains path = false)
    (readable : (source.read path).isOk = true) : Chain source where
  paths := path :: chain.paths
  distinct := List.pairwise_cons.2 ⟨fun other member => by
    simpa using List.any_eq_false.1 fresh other member, chain.distinct⟩
  readable other member := by
    rcases List.mem_cons.1 member with rfl | member
    · exact readable
    · exact chain.readable other member

/-- How many more files may be read within the innermost one. -/
noncomputable def room (chain : Chain source) : Nat :=
  source.bounded.choose - chain.paths.length

theorem room_push (chain : Chain source) (path : Path) (fresh : chain.contains path = false)
    (readable : (source.read path).isOk = true) :
    (chain.push path fresh readable).room < chain.room := by
  have longer := chain.push path fresh readable
  have := source.bounded.choose_spec _ (chain.push path fresh readable).distinct
    (chain.push path fresh readable).readable
  simp only [push, List.length_cons] at this
  simp only [room, push, List.length_cons]
  omega

end Chain

/-- Steps that may fail, and that keep what they have read even then. -/
abbrev Reading (α : Type) := ExceptT ExtractError (StateM Includes) α

/-- The nodes of an included file. `main` is the template that reading started from. -/
def load (source : Source) (main : Option Path) (chain : Chain source) (base : Option Path)
    (name : String) (line : Nat) : Reading Block :=
  match base with
  | none => throw (.missingBasePath name line)
  | some base =>
    let target := resolve base name
    if isTemplate target = false then pure []
    else if main.any target.same then throw (.includeCycle target)
    else if active : chain.contains target = true then throw (.includeCycle target)
    else do
      match Includes.find? (← get) target with
      | some nodes => return nodes
      | none =>
        match found : source.read target with
        | .error cause => throw (.unreadable target cause)
        | .ok content =>
          match parse content with
          | .error error => throw (.template target.spelling error)
          | .ok nodes =>
            let within := chain.push target (by simpa using active)
              (by simp [found, Except.isOk, Except.toBool])
            let nodes ← expandBlock (load source main within (some target)) nodes
            modify ((target, nodes) :: ·)
            return nodes
termination_by chain.room
decreasing_by exact Chain.room_push ..

def inlineIncludes (source : Source) (path : Option Path) (block : Block) : Reading Block :=
  expandBlock (load source path .empty path) block

end Querymap.Pug
