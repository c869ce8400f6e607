import Querymap.Pipeline

/-! What a watched run remembers: the contribution of every input. After a change only the changed file
is extracted again. -/
namespace Querymap

/-- A contribution, with the number of the computation that extracted it. -/
structure Cache.Entry where
  map : ScopeMap
  computation : Nat
deriving DecidableEq, Inhabited

structure Cache where
  entries : Dict Cache.Entry := ∅
  /-- Computations so far. -/
  computations : Nat := 0

namespace Cache

def get? (cache : Cache) (path : Path) : Option ScopeMap :=
  (cache.entries.get? path.spelling).map (·.map)

def model (cache : Cache) : Model := FileTypings.mergeAll (cache.entries.mapValues (·.map))

def forget (cache : Cache) (path : Path) : Cache :=
  { cache with entries := cache.entries.erase path.spelling }

/-- The entries for a list of files: what is known, and of the others what was extracted. -/
def renewed (cache : Cache) (outcome : Outcome) (paths : List Path) : Dict Entry :=
  Dict.ofList <| paths.filterMap fun path =>
    let extracted := (outcome.typings.get? path.spelling).map fun map =>
      Entry.mk map cache.computations
    ((cache.entries.get? path.spelling).or extracted).map (path.spelling, ·)

/-- Extracts the files that are not known yet and drops all that are not listed. After an error the
cache stays as it was. -/
def refresh (cache : Cache) (source : Source) (options : Options) (paths : List Path) :
    Outcome × Except ExtractError Cache :=
  let outcome := extractFiles source options cache.entries.keys paths
  (outcome, match outcome.errors with
    | (_, error) :: _ => .error error
    | [] => .ok ⟨cache.renewed outcome paths, cache.computations + 1⟩)

end Cache

end Querymap
