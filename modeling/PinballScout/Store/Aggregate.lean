import PinballScout.Stats.Group

/-!
# Aggregating fetched scores

Both stores fetch raw score rows and aggregate them here, so that they agree exactly.

- `buildMachineStats`: one aggregate per machine with its likely players, most games first,
  then by machine key.
- `buildPlayerStats`: one aggregate per player, best median first, then most games, then
  by name.
- `buildBaseline`: one percentile per machine, in machine-key order.
-/

namespace PinballScout

/-- A cohort's aggregate on one machine, with the players most likely to play it. -/
structure MachineStats where
  machineKey : String
  stat : AggregateStat
  likelyPlayers : List LikelyPlayer
  deriving DecidableEq, Repr

/-- One player's aggregate on one machine. -/
structure PlayerStats where
  name : String
  stat : AggregateStat
  deriving DecidableEq, Repr

/-- A single fetched score, before aggregation. -/
structure ScoreRow where
  machineKey : String
  player : String
  score : Score
  deriving DecidableEq, Repr

namespace MachineStats

/-- Whether `a` may stand before `b`: more games first, then the smaller machine key. -/
def before (a b : MachineStats) : Bool :=
  decide (b.stat.games < a.stat.games) ||
    (a.stat.games == b.stat.games && decide (a.machineKey ≤ b.machineKey))

end MachineStats

namespace PlayerStats

/-- Whether `a` may stand before `b`: higher median first, then more games, then the smaller
name. -/
def before (a b : PlayerStats) : Bool :=
  decide (b.stat.p50 < a.stat.p50) ||
    (a.stat.p50 == b.stat.p50 &&
      (decide (b.stat.games < a.stat.games) ||
        (a.stat.games == b.stat.games && decide (a.name ≤ b.name))))

end PlayerStats

/-- Per-machine aggregates of score rows, each with its `limit` likely players. -/
def buildMachineStats (rows : List ScoreRow) (limit : Nat) : List MachineStats :=
  let keyed := rows.map fun r => (r.machineKey, r)
  let stats := (distinctKeys keyed).filterMap fun key =>
    let onMachine := valuesOf keyed key
    (AggregateStat.ofScores (onMachine.map (·.score))).map fun stat =>
      ⟨key, stat, selectLikely (groups (onMachine.map fun r => (r.player, r.score))) limit⟩
  stats.mergeSort MachineStats.before

/-- Per-player aggregates of `(player, score)` rows, best median first. -/
def buildPlayerStats (rows : List (String × Score)) : List PlayerStats :=
  ((groups rows).map fun (name, stat) => (⟨name, stat⟩ : PlayerStats)).mergeSort PlayerStats.before

/-- One percentile per machine of `(machine, score)` rows, in machine-key order. -/
def buildBaseline (rows : List (String × Score)) (p : Percentile) : List (String × Score) :=
  (groups rows).map fun (key, stat) => (key, stat.value p)

end PinballScout
