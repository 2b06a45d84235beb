import PinballScout.Decimal.Shortest

/-!
# Writing a double

A `Layout` fixes the decisions a number format makes on top of the shortest digits: which
decimal exponents are written without an exponent part, whether an integral value keeps
`.0`, how a positive exponent is marked, and the words for the values that are not numbers.
`Layout.render` writes the shortest digits of a double (`Binary.shortest`) that way.
-/

namespace PinballScout.Decimal

/-- How a double is written. -/
structure Layout where
  /-- Decimal exponents `e` (of `d.ddd × 10 ^ e`) written without an exponent part, the
  range `[lo, hi)`; `none` writes every value without one. -/
  plain : Option (Int × Int)
  /-- An integral value written without an exponent part keeps `.0`. -/
  pointZero : Bool
  /-- What stands between `e` and a positive exponent. -/
  exponentPlus : String
  /-- The word for a value that is not a number. -/
  nan : String
  /-- The word for a positive infinity; a negative one is prefixed by `-`. -/
  infinity : String

/-- Digits `ds` of a decimal whose point stands after `k` of them, without an exponent part. -/
def plainText (ds : List Char) (k : Int) (pointZero : Bool) : String :=
  if k ≤ 0 then
    "0." ++ String.ofList (List.replicate (-k).toNat '0' ++ ds)
  else if k.toNat < ds.length then
    String.ofList (ds.take k.toNat ++ '.' :: ds.drop k.toNat)
  else
    String.ofList (ds ++ List.replicate (k.toNat - ds.length) '0') ++
      (if pointZero then ".0" else "")

/-- Digits `ds` with the decimal exponent `e` of their first digit, in exponent form. -/
def exponentText (ds : List Char) (e : Int) (plus : String) : String :=
  let mantissa := match ds with
    | d :: rest@(_ :: _) => String.ofList (d :: '.' :: rest)
    | _ => String.ofList ds
  mantissa ++ "e" ++ (if e < 0 then "-" ++ toString (-e).toNat else plus ++ toString e.toNat)

/-- The text of a non-negative decimal in this layout. -/
def Layout.scientific (l : Layout) (s : Scientific) : String :=
  let ds := s.digitText.toList
  let k := (ds.length : Int) + s.exponent
  match l.plain with
  | some (lo, hi) =>
    if lo ≤ k - 1 ∧ k - 1 < hi then plainText ds k l.pointZero
    else exponentText ds (k - 1) l.exponentPlus
  | none => plainText ds k l.pointZero

/-- The text of a double in this layout: the sign, then the shortest digits. -/
def Layout.render (l : Layout) (x : Float) : String :=
  match Parts.ofFloat x with
  | .nan => l.nan
  | .infinity negative => (if negative then "-" else "") ++ l.infinity
  | .zero negative => (if negative then "-" else "") ++ (if l.pointZero then "0.0" else "0")
  | .finite negative b => (if negative then "-" else "") ++ l.scientific b.shortest

/-- Numbers in JSON text: without an exponent part from `1e-5` up to below `1e16`, with `.0`
on integral values, and `1e16` or `1.5e-7` beyond. -/
def Layout.json : Layout :=
  { plain := some (-5, 16), pointZero := true, exponentPlus := "", nan := "NaN",
    infinity := "inf" }

/-- Numbers in messages: never an exponent part, no `.0` on integral values, `NaN`, `inf`. -/
def Layout.display : Layout :=
  { plain := none, pointZero := false, exponentPlus := "", nan := "NaN", infinity := "inf" }

/-- Numbers quoted in decoding messages: as in `display`, with `.0` added to integral values. -/
def Layout.quoted : Layout :=
  { Layout.display with pointZero := true }

end PinballScout.Decimal
