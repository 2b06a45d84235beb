import PinballScout.Decimal.Shortest

/-!
# Reading decimals as doubles

`toFloat mantissa exponent` is the double nearest to `mantissa · 10 ^ exponent`, ties to even.
Values far beyond the range of doubles become infinity or zero without their digits being
computed, which changes nothing: their nearest double is infinity or zero anyway.
-/

namespace PinballScout.Decimal

/-- The double nearest to `mantissa · 10 ^ exponent`. -/
def toFloat (mantissa : Nat) (exponent : Int) : Float :=
  let size := exponent + (digitCount mantissa : Int)
  if mantissa = 0 then 0
  else if size > 400 then Float.ofScientific 1 false 400
  else if size < -400 then 0
  else if exponent ≥ 0 then Float.ofScientific (mantissa * Nat.pow 10 exponent.toNat) false 0
  else Float.ofScientific mantissa true (-exponent).toNat

end PinballScout.Decimal
