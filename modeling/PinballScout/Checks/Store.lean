import PinballScout.Checks.Basic
import PinballScout.Store.Aggregate

/-!
# Checks of aggregation

The per-machine, per-player and baseline aggregates that both stores build from score rows.
-/

namespace PinballScout.Checks.Store

/-- Machines: grouped, most games first, each with its likely players. -/
def machineStatsOrder : Check := fun _ =>
  let row (m p : String) (s : Score) : ScoreRow := ⟨m, p, s⟩
  let stats := buildMachineStats [row "TAF" "Alice" 500, row "TAF" "Bob" 400, row "TZ" "Alice" 100,
    row "TAF" "Bob" 350, row "MM" "Alice" 600] 2
  stats.map (·.machineKey) == ["TAF", "MM", "TZ"] &&
    (stats.head?.map fun s => (s.stat, s.likelyPlayers)) ==
      some (⟨3, 400, 500⟩, [⟨"Bob", 2, 350⟩, ⟨"Alice", 1, 500⟩])

/-- No rows, no machines. -/
def machineStatsEmpty : Check := fun _ => (buildMachineStats [] 2).isEmpty

/-- Players: the best median first. -/
def playerStatsOrder : Check := fun _ =>
  buildPlayerStats [("Bob", 400), ("Alice", 500), ("Bob", 350)] ==
    [⟨"Alice", ⟨1, 500, 500⟩⟩, ⟨"Bob", ⟨2, 350, 400⟩⟩]

/-- The baseline gives the percentile asked for. -/
def baselinePercentile : Check := fun _ =>
  let rows := [500, 400, 300, 200, 350, 250].map fun s => ("TAF", (s : Score))
  (buildBaseline rows .p50).lookup "TAF" == some 300 && (buildBaseline rows .p90).lookup "TAF" == some 500

end PinballScout.Checks.Store
