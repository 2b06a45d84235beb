/-!
# Shortest decimal digits of a double

A finite non-zero double is `mantissa · 2 ^ exponent`. The reals that round to it form an
interval around it whose ends lie halfway to its two neighbours; the ends belong to the
interval exactly when the mantissa is even (ties go to the even neighbour).

`Binary.shortest` returns the decimal with the fewest significant digits inside that
interval, and of two such decimals the nearer one (an exact tie goes to the even last digit).
It tries one, two, … seventeen digits and on each grid looks only at the value's two
neighbours: if a grid point lies in the interval, so does one of them. All arithmetic is on
natural numbers, so every step is exact.
-/

namespace PinballScout.Decimal

/-- The number of decimal digits of `n` (one for zero). -/
def digitCount (n : Nat) : Nat :=
  if n < 10 then 1 else digitCount (n / 10) + 1
termination_by n
decreasing_by omega

/-- A finite non-zero double as `mantissa · 2 ^ exponent`. `lowerCloser` is set when the
double below is nearer than the double above: the mantissa is the least of a binade other
than the lowest. -/
structure Binary where
  mantissa : Nat
  exponent : Int
  lowerCloser : Bool
  deriving Repr, BEq

/-- What a double is: not a number, an infinity, a zero or a finite non-zero value, each
with its sign. -/
inductive Parts where
  | nan
  | infinity (negative : Bool)
  | zero (negative : Bool)
  | finite (negative : Bool) (value : Binary)
  deriving Repr, BEq

/-- Reads the sign, the eleven exponent bits and the fifty-two fraction bits of a double. -/
def Parts.ofBits (bits : UInt64) : Parts :=
  let n := bits.toNat
  let negative := decide (Nat.pow 2 63 ≤ n)
  let biased : Nat := (n / Nat.pow 2 52) % 2048
  let fraction := n % Nat.pow 2 52
  if biased = 2047 then
    if fraction = 0 then .infinity negative else .nan
  else if biased = 0 then
    if fraction = 0 then .zero negative else .finite negative ⟨fraction, -1074, false⟩
  else
    .finite negative ⟨fraction + Nat.pow 2 52, (biased : Int) - 1075, fraction = 0 && 1 < biased⟩

/-- The parts of a double. -/
def Parts.ofFloat (x : Float) : Parts := Parts.ofBits x.toBits

/-- A decimal `digits · 10 ^ exponent`. -/
structure Scientific where
  digits : Nat
  exponent : Int
  deriving Repr, BEq, DecidableEq

/-- Drops the trailing zeros of the digits into the exponent. -/
def Scientific.trim (s : Scientific) : Scientific :=
  if h : 0 < s.digits ∧ s.digits % 10 = 0 then
    Scientific.trim ⟨s.digits / 10, s.exponent + 1⟩
  else s
termination_by s.digits
decreasing_by exact Nat.div_lt_self h.1 (by decide)

/-- The digits of the decimal as text, most significant first. -/
def Scientific.digitText (s : Scientific) : String := toString s.digits

/-- `10 ^ p` split into the factor of a value and the factor of its comparand, so that
`d · 10 ^ p` and `n / den` compare as `d · up p · den` against `n · down p`. -/
def up (p : Int) : Nat := Nat.pow 10 p.toNat

/-- See `up`. -/
def down (p : Int) : Nat := Nat.pow 10 (-p).toNat

/-- The interval of a double, scaled: low end, value and high end over a common denominator. -/
structure Bounds where
  low : Nat
  value : Nat
  high : Nat
  denominator : Nat
  inclusive : Bool

/-- The rounding interval of `b`, in quarters of its last place. -/
def Binary.bounds (b : Binary) : Bounds :=
  let m := 4 * b.mantissa
  let low := if b.lowerCloser then m - 1 else m - 2
  let shift := b.exponent - 2
  let scale := Nat.pow 2 shift.toNat
  let den := Nat.pow 2 (-shift).toNat
  { low := low * scale, value := m * scale, high := (m + 2) * scale, denominator := den,
    inclusive := b.mantissa % 2 == 0 }

/-- The exponent `e` with `10 ^ e ≤ n / den < 10 ^ (e + 1)`, for positive `n` and `den`. -/
def floorLog10 (n den : Nat) : Int :=
  if den ≤ n then (digitCount (n / den) : Int) - 1
  else -(digitCount ((den + n - 1) / n - 1) : Int)

/-- Whether `d · 10 ^ p` lies in the interval. -/
def Bounds.contains (bd : Bounds) (p : Int) (d : Nat) : Bool :=
  let g := d * up p * bd.denominator
  let lo := bd.low * down p
  let hi := bd.high * down p
  if bd.inclusive then lo ≤ g && g ≤ hi else lo < g && g < hi

/-- Twice the distance from `d · 10 ^ p` to the value, on the common scale; compared between
candidates of one grid only. -/
def Bounds.distance (bd : Bounds) (p : Int) (d : Nat) : Nat :=
  let g := d * up p * bd.denominator
  let v := bd.value * down p
  if g ≤ v then v - g else g - v

/-- The nearer of the value's two neighbours on the grid of spacing `10 ^ p` that lies in
the interval, if one does. -/
def Bounds.pick (bd : Bounds) (p : Int) : Option Nat :=
  let num := bd.value * down p
  let den := bd.denominator * up p
  let below := num / den
  let above := below + 1
  match bd.contains p below, bd.contains p above with
  | true, true =>
    let db := bd.distance p below
    let da := bd.distance p above
    if db < da then some below
    else if da < db then some above
    else if below % 2 == 0 then some below else some above
  | true, false => some below
  | false, true => some above
  | false, false => none

/-- The shortest decimal that reads back as `b`, nearest of the shortest. -/
def Binary.shortest (b : Binary) : Scientific :=
  let bd := b.bounds
  let e := floorLog10 bd.value bd.denominator
  let grids := (List.range 17).map fun (k : Nat) => e - (k : Int)
  match grids.findSome? fun p => (bd.pick p).map fun d => (⟨d, p⟩ : Scientific) with
  | some s => s.trim
  | none => (⟨bd.value * down (e - 16) / (bd.denominator * up (e - 16)), e - 16⟩ : Scientific).trim

end PinballScout.Decimal
