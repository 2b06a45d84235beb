import PinballScout.Relational.Order
import PinballScout.Decimal.Rounded
import PinballScout.Decimal.Read

/-!
# Column affinity

A column's declared type gives it an affinity, the class its values lean to:

- a type naming `INT` leans to integers;
- one naming `CHAR`, `CLOB` or `TEXT` leans to text;
- one naming `BLOB`, or no type at all, keeps values as given;
- one naming `REAL`, `FLOA` or `DOUB` leans to doubles;
- any other type leans to numbers.

A value stored in a column takes its affinity: text affinity writes numbers as text (a double
to fifteen significant digits), numeric affinities read text that is a well-formed number as
that number, and an integral double as an integer when it fits. Comparisons apply affinity to
their operands the same way before comparing.
-/

namespace PinballScout

/-- The class a column's values lean to. -/
inductive Affinity where
  | text
  | numeric
  | integer
  | real
  | blob
  deriving DecidableEq, Repr

namespace Affinity

/-- Whether an affinity leans to numbers. -/
def isNumeric : Affinity → Bool
  | .numeric | .integer | .real => true
  | _ => false

/-- Whether `part` occurs in `s`. -/
def mentions (s part : String) : Bool :=
  let p := part.toList
  let rec go : List Char → Bool
    | [] => p.isEmpty
    | c :: rest => p.isPrefixOf (c :: rest) || go rest
  go s.toList

/-- The affinity of a declared column type. -/
def ofDeclared (declared : String) : Affinity :=
  let t := String.ofList (declared.toList.map Char.toUpper)
  if mentions t "INT" then .integer
  else if mentions t "CHAR" || mentions t "CLOB" || mentions t "TEXT" then .text
  else if mentions t "BLOB" || t.isEmpty then .blob
  else if mentions t "REAL" || mentions t "FLOA" || mentions t "DOUB" then .real
  else .numeric

end Affinity

namespace Cell

/-- The blanks a numeric text may carry at either end. -/
def isNumberBlank (c : Char) : Bool :=
  c == ' ' || c == '\t' || c == '\n' || c == '\r' || c == '\x0b' || c == '\x0c'

/-- The smallest and largest 64-bit integers. -/
def minInteger : Int := -(Int.pow 2 63)

/-- See `minInteger`. -/
def maxInteger : Int := Int.pow 2 63 - 1

/-- Decimal digits of a run, as a number and a count. -/
def digitRun (cs : List Char) : Nat × Nat × List Char :=
  let ds := cs.takeWhile Char.isDigit
  (ds.foldl (fun n d => 10 * n + (d.toNat - '0'.toNat)) 0, ds.length, cs.dropWhile Char.isDigit)

/-- The number a text spells, if the whole text (blanks at the ends aside) is one: an integer
literal that fits in 64 bits reads as an integer, any other decimal literal as a double. -/
def numberOfText? (s : String) : Option Cell :=
  let cs := ((s.toList.dropWhile isNumberBlank).reverse.dropWhile isNumberBlank).reverse
  let (negative, cs) := match cs with
    | '-' :: rest => (true, rest)
    | '+' :: rest => (false, rest)
    | _ => (false, cs)
  let (whole, wholeCount, cs) := digitRun cs
  let (frac, fracCount, point, cs) := match cs with
    | '.' :: rest => let (f, n, r) := digitRun rest; (f, n, true, r)
    | _ => (0, 0, false, cs)
  if wholeCount + fracCount = 0 then none
  else
    let expo : Option (Option Int × List Char) := match cs with
      | e :: rest =>
        if e == 'e' || e == 'E' then
          let (eNeg, rest) := match rest with
            | '-' :: r => (true, r)
            | '+' :: r => (false, r)
            | _ => (false, rest)
          let (ev, en, rest) := digitRun rest
          if en = 0 then none else some (some (if eNeg then -(ev : Int) else ev), rest)
        else some (none, cs)
      | [] => some (none, [])
    match expo with
    | none => none
    | some (e, rest) =>
      if !rest.isEmpty then none
      else
        let signed (v : Int) : Int := if negative then -v else v
        match e, point with
        | none, false =>
          let v := signed whole
          if minInteger ≤ v ∧ v ≤ maxInteger then some (.integer v)
          else some (.real (if negative then -(Float.ofNat whole) else Float.ofNat whole))
        | _, _ =>
          let mantissa := whole * Nat.pow 10 fracCount + frac
          let exponent : Int := e.getD 0 - fracCount
          let magnitude := Decimal.toFloat mantissa exponent
          some (.real (if negative then -magnitude else magnitude))

/-- The integer a double equals, if it is integral and strictly inside the 64-bit range. -/
def integralReal? (x : Float) : Option Int :=
  match Decimal.Parts.ofFloat x with
  | .zero _ => some 0
  | .finite negative b =>
    if b.exponent ≥ 0 then
      let v : Int := b.mantissa * Int.pow 2 b.exponent.toNat
      let v := if negative then -v else v
      if minInteger < v ∧ v < maxInteger then some v else none
    else
      let d := Nat.pow 2 (-b.exponent).toNat
      if b.mantissa % d = 0 then
        let v : Int := b.mantissa / d
        some (if negative then -v else v)
      else none
  | _ => none

/-- Text of bytes read as UTF-8; a byte string that is not UTF-8 reads byte by byte. -/
def textOfBytes (bytes : List UInt8) : String :=
  match String.fromUTF8? (ByteArray.mk bytes.toArray) with
  | some s => s
  | none => String.ofList (bytes.map fun b => Char.ofNat b.toNat)

/-- The text of a cell: integers in decimal, doubles to fifteen significant digits with a
point, byte strings read as UTF-8; `none` for nothing. -/
def text? : Cell → Option String
  | .null => none
  | .integer i => some (toString i)
  | .real x => some (Decimal.generalText x 15)
  | .text s => some s
  | .blob bytes => some (textOfBytes bytes)

/-- A cell as a number if it is text spelling one. -/
def asNumber (c : Cell) : Cell :=
  match c with
  | .text s => (numberOfText? s).getD c
  | _ => c

/-- A cell stored under an affinity. -/
def store (a : Affinity) (c : Cell) : Cell :=
  match a, c with
  | .text, .integer _ | .text, .real _ => match c.text? with
    | some s => .text s
    | none => c
  | .real, .integer i => .real (Float.ofInt i)
  | .real, .text _ => match c.asNumber with
    | .integer i => .real (Float.ofInt i)
    | other => other
  | .numeric, _ | .integer, _ =>
    match c.asNumber with
    | .real x => match integralReal? x with
      | some i => .integer i
      | none => .real x
    | other => other
  | _, _ => c

/-- A cell prepared for comparison under an affinity: numeric affinities read numeric text as a
number, text affinity writes numbers as text. -/
def forComparison (a : Affinity) (c : Cell) : Cell :=
  if a.isNumeric then c.asNumber
  else if a == .text then
    match c with
    | .integer _ | .real _ => match c.text? with
      | some s => .text s
      | none => c
    | _ => c
  else c

end Cell

/-- The affinity two compared operands are brought to, from the affinity each has (`none` for
an operand that is not a column): a numeric side wins when both are columns, a lone column's
affinity applies to both, and nothing is applied otherwise. -/
def comparisonAffinity : Option Affinity → Option Affinity → Option Affinity
  | some a, some b => if a.isNumeric || b.isNumeric then some .numeric else none
  | some a, none => some a
  | none, some b => some b
  | none, none => none

end PinballScout
