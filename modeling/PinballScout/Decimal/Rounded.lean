import PinballScout.Decimal.Shortest

/-!
# Rounding a double to a number of significant digits

`Binary.rounded b n` is the decimal with at most `n` significant digits nearest to `b`, a
half going away from zero; it is computed exactly on natural numbers. `generalText` lays a
double out the way a `%g` conversion with a forced point does: positional while the
decimal exponent lies in `-4 … n - 1`, else with an `e`, a sign and at least two exponent
digits, trailing zeros dropped but at least one digit after the point.
-/

namespace PinballScout.Decimal

/-- The decimal with at most `n` significant digits nearest to `b` (a half rounds up). -/
def Binary.rounded (b : Binary) (n : Nat) : Scientific :=
  let num := b.mantissa * Nat.pow 2 b.exponent.toNat
  let den := Nat.pow 2 (-b.exponent).toNat
  let e := floorLog10 num den
  let p := e - ((n : Int) - 1)
  let scaledNum := num * down p
  let scaledDen := den * up p
  let q := (2 * scaledNum + scaledDen) / (2 * scaledDen)
  if q = Nat.pow 10 n then (⟨q / 10, p + 1⟩ : Scientific).trim else (⟨q, p⟩ : Scientific).trim

/-- The digits of `s` with a point placed for positional layout, at least one digit after
the point. -/
def Scientific.positional (s : Scientific) : String :=
  let ds := s.digitText
  if s.exponent ≥ 0 then ds ++ String.ofList (List.replicate s.exponent.toNat '0') ++ ".0"
  else
    let k := (-s.exponent).toNat
    let len := ds.length
    if k < len then
      let cs := ds.toList
      String.ofList (cs.take (len - k)) ++ "." ++ String.ofList (cs.drop (len - k))
    else "0." ++ String.ofList (List.replicate (k - len) '0') ++ ds

/-- `d.ddd` and the decimal exponent of `s`. -/
def Scientific.mantissaText (s : Scientific) : String :=
  match s.digitText.toList with
  | [] => "0.0"
  | [d] => String.ofList [d, '.', '0']
  | d :: rest => String.ofList (d :: '.' :: rest)

/-- The decimal exponent of the leading digit of `s`. -/
def Scientific.leadExponent (s : Scientific) : Int := s.exponent + (s.digitText.length : Int) - 1

/-- A double rounded to `n` significant digits in general layout with a forced point:
`1.0`, `0.001`, `1.5e+20`, `1.0e-05`; infinities are `Inf` and `-Inf`. -/
def generalText (x : Float) (n : Nat) : String :=
  match Parts.ofFloat x with
  | .nan => "NaN"
  | .infinity neg => if neg then "-Inf" else "Inf"
  | .zero neg => if neg then "-0.0" else "0.0"
  | .finite neg b =>
    let s := b.rounded n
    let x := s.leadExponent
    let body :=
      if x < -4 || x ≥ (n : Int) then
        let mag := x.natAbs
        let expDigits := if mag < 10 then "0" ++ toString mag else toString mag
        s.mantissaText ++ "e" ++ (if x < 0 then "-" else "+") ++ expDigits
      else s.positional
    if neg then "-" ++ body else body

end PinballScout.Decimal
