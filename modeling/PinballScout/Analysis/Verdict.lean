import PinballScout.Store.Aggregate

/-!
# Verdicts

How our best player on a machine compares with theirs. The gap between the two medians is a
strong pick when it exceeds the margin, a weak pick when it falls below its negation, and
contested otherwise; both comparisons are strict. The gap is a difference of 64-bit scores,
which overflows when it does not fit in 64 bits.
-/

namespace PinballScout

/-- The verdict on a pick. -/
inductive Verdict where
  | strong
  | weak
  | contested
  deriving DecidableEq, Repr

namespace Verdict

/-- Classifies the median gap between the two best players. -/
def ofDiff (diff margin : Score) : Verdict :=
  if diff > margin then .strong else if diff < -margin then .weak else .contested

/-- The name of a verdict as written in reports. -/
def name : Verdict → String
  | .strong => "Strong"
  | .weak => "Weak"
  | .contested => "Contested"

/-- The label of a verdict. -/
def label : Verdict → String
  | .strong => "strong pick"
  | .weak => "weak pick"
  | .contested => "contested"

end Verdict

/-- How our best player on a machine compares to theirs. -/
structure Assessment where
  ourBest : String
  theirBest : String
  /-- Positive when our best outscores theirs. -/
  diff : Score
  verdict : Verdict
  deriving DecidableEq, Repr

/-- Scores are 64-bit signed words: they hold the numbers from `-scoreLimit` to `scoreLimit - 1`. -/
def scoreLimit : Score := Int.pow 2 63

/-- The difference of two scores as the program computes it on 64-bit words: its value when it
fits, else the overflow, which stops the program with the message given. -/
def Score.checkedSub (a b : Score) : Except String Score :=
  if -scoreLimit ≤ a - b ∧ a - b < scoreLimit then .ok (a - b) else .error "attempt to subtract with overflow"

/-- Compares the first player of each list (both best median first); `none` when either side
has no player, and the overflow when the gap does not fit in 64 bits. -/
def assess (ours theirs : List PlayerStats) (margin : Score) : Except String (Option Assessment) :=
  match ours, theirs with
  | o :: _, t :: _ => do
    let diff ← Score.checkedSub o.stat.p50 t.stat.p50
    return some ⟨o.name, t.name, diff, Verdict.ofDiff diff margin⟩
  | _, _ => return none

end PinballScout
