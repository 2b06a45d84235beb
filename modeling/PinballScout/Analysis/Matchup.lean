import PinballScout.Analysis.Summary

/-!
# Matchups

Two teams head to head on a venue's machines. On each machine either team has played, a side
is represented by its likely players, and the edge compares the mean medians of those players
(zero for a side with none). The machines are listed in key order and then stably sorted by
edge, team one's biggest edge first; the summary splits their names by which team the edge
favors.
-/

namespace PinballScout

/-- One team's numbers on one machine. -/
structure SideStats where
  games : Nat
  p50 : Score
  /-- The mean median of the likely players. -/
  likelyScore : Option Float
  likelyPlayers : List LikelyPlayer

/-- A side's numbers from its aggregate. -/
def MachineStats.side (s : MachineStats) : SideStats :=
  ⟨s.stat.games, s.stat.p50, likelyScore s.likelyPlayers, s.likelyPlayers⟩

/-- The comparison on one machine. -/
structure MachineMatchup where
  machineKey : String
  machineName : String
  /-- `none` when the team has never played the machine. -/
  team1 : Option SideStats
  team2 : Option SideStats
  /-- Positive favors team one. -/
  edge : Edge
  confidence : Confidence

/-- Machine names grouped by which team holds the edge. -/
structure MatchupSummary where
  team1Advantages : List String
  team2Advantages : List String
  contested : List String
  deriving DecidableEq, Repr

/-- A matchup report. -/
structure MatchupReport where
  venue : String
  team1 : TeamRef
  team2 : TeamRef
  /-- Team one's biggest edge first. -/
  machines : List MachineMatchup
  summary : MatchupSummary

/-- The comparison on every machine either side has played, in machine-key order. -/
def compareMachines (stats1 stats2 : List MachineStats) (names : List (String × String))
    (config : AnalysisConfig) : List MachineMatchup :=
  (distinctSorted (stats1.map (·.machineKey) ++ stats2.map (·.machineKey))).map fun key =>
    let side1 := (stats1.find? (·.machineKey == key)).map MachineStats.side
    let side2 := (stats2.find? (·.machineKey == key)).map MachineStats.side
    let likely1 := (side1.map (·.likelyPlayers)).getD []
    let likely2 := (side2.map (·.likelyPlayers)).getD []
    { machineKey := key
      machineName := machineName names key
      team1 := side1
      team2 := side2
      edge := edgePercent ((likelyScore likely1).getD 0.0) ((likelyScore likely2).getD 0.0)
      confidence := confidence likely1 likely2 config.confidence }

/-- Splits machine names by the side their edge favors, keeping row order. -/
def partitionEdges (rows : List MachineMatchup) : MatchupSummary :=
  { team1Advantages := (rows.filter (·.edge.favors == some .first)).map (·.machineName)
    team2Advantages := (rows.filter (·.edge.favors == some .second)).map (·.machineName)
    contested := (rows.filter (·.edge.favors == none)).map (·.machineName) }

/-- Compares two teams on a venue's machines. -/
def matchup (store : Store) (config : AnalysisConfig) (venue team1Key team2Key : String) :
    AnalysisResult MatchupReport := do
  let team1 ← requireTeam store team1Key
  let team2 ← requireTeam store team2Key
  let machines ← ask (store.venueMachines venue)
  let names ← ask store.machineNames
  let stats1 ← ask (store.machineStats team1.players none config.likelyPlayers)
  let stats2 ← ask (store.machineStats team2.players none config.likelyPlayers)
  let rows := (compareMachines (restrictTo stats1 machines) (restrictTo stats2 machines) names
    config).mergeSort fun a b => Edge.before a.edge b.edge
  return ⟨venue, team1.ref, team2.ref, rows, partitionEdges rows⟩

end PinballScout
