import PinballScout.Stats.Group

/-!
# Confidence and likely scores

How much data backs an edge: the average number of games of a side's likely players,
against two thresholds. The thinner side decides. The likely score of a side is the mean
median of its likely players, summed as doubles in list order.
-/

namespace PinballScout

/-- Average-games thresholds for matchup confidence. -/
structure Thresholds where
  medium : Float
  high : Float

/-- The thresholds used when none are configured: three and ten games. -/
def Thresholds.default : Thresholds := ⟨3.0, 10.0⟩

/-- How much data backs an edge. -/
inductive Confidence where
  | low
  | medium
  | high
  deriving DecidableEq, Repr

namespace Confidence

/-- Classifies an average number of games; the high threshold is checked first. -/
def ofAverage (avg : Float) (t : Thresholds) : Confidence :=
  if avg >= t.high then .high else if avg >= t.medium then .medium else .low

/-- The name of a confidence level as written in reports. -/
def name : Confidence → String
  | .low => "Low"
  | .medium => "Medium"
  | .high => "High"

/-- The label of a confidence level. -/
def label : Confidence → String
  | .low => "low"
  | .medium => "medium"
  | .high => "high"

end Confidence

/-- Average games across likely players; zero without any. -/
def averageGames (players : List LikelyPlayer) : Float :=
  if players.isEmpty then 0.0
  else Float.ofNat ((players.map (·.games)).foldr (· + ·) 0) / Float.ofNat players.length

/-- Confidence in an edge between two sides, limited by the thinner one. -/
def confidence (first second : List LikelyPlayer) (t : Thresholds) : Confidence :=
  let a := averageGames first
  let b := averageGames second
  Confidence.ofAverage (if b < a then b else a) t

/-- Mean median of a side's likely players, or `none` without any. -/
def likelyScore (players : List LikelyPlayer) : Option Float :=
  if players.isEmpty then none
  else some ((players.foldl (fun acc p => acc + Float.ofInt p.p50) 0.0) / Float.ofNat players.length)

end PinballScout
