import PinballScout.Relational.Cell
import PinballScout.Decimal.Shortest

/-!
# The order of cells

Cells sort by storage class first: nothing, then numbers, then text, then byte strings.
Numbers compare by exact value, an integer against a double included; text compares by its
UTF-8 bytes (the order of code points); byte strings compare bytewise, a proper prefix first.
-/

namespace PinballScout

namespace Cell

/-- The rank of a cell's class in the sort order. -/
def classRank : Cell → Nat
  | .null => 0
  | .integer _ => 1
  | .real _ => 1
  | .text _ => 2
  | .blob _ => 3

/-- Two doubles by value; unordered pairs compare equal. -/
def compareReals (a b : Float) : Ordering :=
  if a < b then .lt else if b < a then .gt else .eq

/-- An integer against a double, by exact value. -/
def compareIntReal (i : Int) (r : Float) : Ordering :=
  match Decimal.Parts.ofFloat r with
  | .nan => .gt
  | .infinity negative => if negative then .gt else .lt
  | .zero _ => compare i 0
  | .finite negative b =>
    let v : Int := if negative then -(b.mantissa : Int) else b.mantissa
    if 0 ≤ b.exponent then compare i (v * Int.pow 2 b.exponent.toNat)
    else compare (i * Int.pow 2 (-b.exponent).toNat) v

/-- Byte strings bytewise, a proper prefix first. -/
def compareBytes : List UInt8 → List UInt8 → Ordering
  | [], [] => .eq
  | [], _ :: _ => .lt
  | _ :: _, [] => .gt
  | a :: as, b :: bs => if a < b then .lt else if b < a then .gt else compareBytes as bs

/-- The order of cells. -/
def order : Cell → Cell → Ordering
  | .integer a, .integer b => compare a b
  | .integer a, .real b => compareIntReal a b
  | .real a, .integer b => (compareIntReal b a).swap
  | .real a, .real b => compareReals a b
  | .text a, .text b => compare a b
  | .blob a, .blob b => compareBytes a b
  | a, b => compare a.classRank b.classRank

/-- Whether two cells are equal in the order of cells. -/
def same (a b : Cell) : Bool := order a b == .eq

end Cell

end PinballScout
