import PinballScout.Store.Basic
import PinballScout.Compare.Edge

/-!
# Checks

A check runs part of the library on fixed inputs and says whether the answers are the expected
ones. Checks are run on demand, so that merely linking them costs nothing.
-/

namespace PinballScout.Checks

/-- A check: whether the library gives the expected answers. -/
abbrev Check := Unit → Bool

/-- The value of a store answer, when it is one. -/
def answered {α : Type} (r : StoreResult α) : Option α :=
  match r with
  | .ok a => some a
  | .error _ => none

/-- Whether two store answers are the same value. -/
def agree {α : Type} [DecidableEq α] (a b : StoreResult α) : Bool :=
  match a, b with
  | .ok x, .ok y => x == y
  | _, _ => false

/-- Whether two edges are equal, percentages compared as doubles. -/
def sameEdge : Edge → Edge → Bool
  | .even, .even => true
  | .lopsided a, .lopsided b => a == b
  | .percent x, .percent y => x == y
  | _, _ => false

/-- Whether an edge is a percentage within `1e-9` of `p`. -/
def percentNear (e : Edge) (p : Float) : Bool :=
  match e with
  | .percent x => (x - p).abs < 1e-9
  | _ => false

end PinballScout.Checks
