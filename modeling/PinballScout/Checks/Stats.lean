import PinballScout.Checks.Basic
import PinballScout.Stats.Group

/-!
# Checks of percentiles and groups

Percentile ranks against the floor formula, aggregates of small score lists, grouping by key
and the choice of likely players.
-/

namespace PinballScout.Checks.Stats

/-- Six scores: the median is the third, the 90th percentile the sixth. -/
def p50OfSixScores : Check := fun _ =>
  AggregateStat.ofScores [500, 200, 400, 250, 350, 300] == some ⟨6, 300, 500⟩

/-- Three scores: the median is the second, the 90th percentile the third. -/
def threeScores : Check := fun _ => AggregateStat.ofScores [500, 350, 400] == some ⟨3, 400, 500⟩

/-- One score is every percentile. -/
def singleScore : Check := fun _ => AggregateStat.ofScores [42] == some ⟨1, 42, 42⟩

/-- Two scores: the ranks are clamped to the list. -/
def twoScores : Check := fun _ =>
  match AggregateStat.ofScores [400, 350] with
  | some s => s.p50 == 350 && s.p90 == 400
  | none => false

/-- No scores, no aggregate and no rank. -/
def emptyScores : Check := fun _ =>
  AggregateStat.ofScores [] == none && Percentile.p50.rank 0 == none && Percentile.p90.select [] == none

/-- The median rank of `n` scores by the floor formula, computed in doubles. -/
def medianRankByFloor (n : Nat) : Nat :=
  min n (max 1 (0.5 * Float.ofNat (n + 1)).floor.toUInt64.toNat)

/-- Ranks of 1 to 200 scores follow the floor formulas. -/
def ranksByFloor : Check := fun _ =>
  (List.range 200).all fun i =>
    let n := i + 1
    Percentile.p50.rank n == some (medianRankByFloor n) &&
      Percentile.p90.rank n == some (min n (max 1 (9 * (n + 1) / 10)))

/-- The 90th percentile where `0.9 (n + 1)` is a whole number. -/
def p90AtMultiples : Check := fun _ => Percentile.p90.rank 9 == some 9 && Percentile.p90.rank 19 == some 18

/-- Groups keep every score and come in key order. -/
def groupsByKey : Check := fun _ =>
  let g := groups [("TZ", 100), ("TAF", 500), ("TAF", 350), ("TZ", 150), ("TAF", 400)]
  g.length == 2 && g.lookup "TAF" == some ⟨3, 400, 500⟩ && g.lookup "TZ" == some ⟨2, 100, 150⟩

/-- Likely players: most games first, then the best median. -/
def likelyByGames : Check := fun _ =>
  let likely := selectLikely [("Alice", ⟨1, 500, 500⟩), ("Bob", ⟨2, 350, 400⟩), ("Cara", ⟨1, 700, 700⟩)] 2
  likely.map (·.name) == ["Bob", "Cara"] &&
    (likely.head?.map fun p => (p.games, p.p50)) == some (2, 350)

/-- No likely players when none are asked for. -/
def likelyNone : Check := fun _ => (selectLikely [("Alice", ⟨1, 1, 1⟩)] 0).isEmpty

end PinballScout.Checks.Stats
