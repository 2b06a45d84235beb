/-!
# Nearest-rank percentiles

Scores are whole numbers. A percentile of `n` sorted scores is the score at a rank, counted
from one, with no interpolation: the rank of the fraction `num / den` is
`num · (n + 1) / den` rounded down, kept within `1 … n`. The median (`p50`) takes `1 / 2`,
the ninetieth percentile (`p90`) takes `9 / 10`. `wordRank` is the same computation on 64-bit
counts, where the product can overflow.

`AggregateStat.ofScores` sorts a list of scores and reads both percentiles off it, together
with the number of games; an empty list has no aggregate.
-/

namespace PinballScout

/-- Counts are 64-bit words: they hold the numbers below `2 ^ 64`. -/
def wordLimit : Nat := Nat.pow 2 64

/-- The result of a word operation: its value when it fits, else the overflow of the operation
named, with the message that stops the program. -/
def Word.checked (operation : String) (v : Nat) : Except String Nat :=
  if v < wordLimit then .ok v else .error ("attempt to " ++ operation ++ " with overflow")

/-- A raw pinball score. Scores are whole numbers and routinely exceed 32 bits. -/
abbrev Score := Int

/-- The two percentiles the analyses use. -/
inductive Percentile where
  | p50
  | p90
  deriving DecidableEq, Repr

namespace Percentile

/-- The fraction of a percentile, as numerator and denominator. -/
def ratio : Percentile → Nat × Nat
  | .p50 => (1, 2)
  | .p90 => (9, 10)

/-- The rank (from one) of the percentile among `n` sorted values, or `none` when there are
none. -/
def rank (p : Percentile) (n : Nat) : Option Nat :=
  if n = 0 then none
  else
    let (num, den) := p.ratio
    some (min n (max 1 (num * (n + 1) / den)))

/-- `rank` as the program computes it on 64-bit counts: `n + 1` and `num · (n + 1)` are words,
and a result that does not fit is an arithmetic overflow, which stops the program with the
message given. The length of a list in memory stays far below that bound; a count given
directly can reach it. -/
def wordRank (p : Percentile) (n : Nat) : Except String (Option Nat) := do
  if n = 0 then return none
  let (num, den) := p.ratio
  let succ ← Word.checked "add" (n + 1)
  let prod ← Word.checked "multiply" (num * succ)
  return some (min n (max 1 (prod / den)))

/-- The value at the percentile's rank of a list taken as sorted. -/
def select (p : Percentile) (sorted : List Score) : Option Score :=
  (p.rank sorted.length).bind fun r => sorted[r - 1]?

/-- The name of a percentile as written in requests. -/
def name : Percentile → String
  | .p50 => "P50"
  | .p90 => "P90"

/-- The percentile of a name. -/
def ofName? : String → Option Percentile
  | "P50" => some .p50
  | "P90" => some .p90
  | _ => none

end Percentile

/-- The size and two percentiles of a collection of scores. -/
structure AggregateStat where
  games : Nat
  p50 : Score
  p90 : Score
  deriving DecidableEq, Repr

namespace AggregateStat

/-- The aggregate of some scores, in any order; `none` for no scores. -/
def ofScores (scores : List Score) : Option AggregateStat :=
  let sorted := scores.mergeSort (fun a b => decide (a ≤ b))
  match Percentile.p50.select sorted, Percentile.p90.select sorted with
  | some p50, some p90 => some ⟨sorted.length, p50, p90⟩
  | _, _ => none

/-- The value of one percentile. -/
def value (s : AggregateStat) : Percentile → Score
  | .p50 => s.p50
  | .p90 => s.p90

end AggregateStat

end PinballScout
