import PinballScout.Analysis.Summary

/-!
# Profiling a player

One player's numbers on every machine they have played, measured against the league, with
their strongest and weakest machines and their current team (when they have one). A player
with no roster row and no score is unknown. With a venue, the rows are restricted as in a
scouting report.
-/

namespace PinballScout

/-- A player profile. -/
structure PlayerReport where
  name : String
  team : Option PlayerTeam
  venue : Option String
  /-- Only in venue mode. -/
  venueStats : Option (List MachineReport)
  globalStats : List MachineReport
  summary : StrengthSummary

/-- Profiles a player, at a venue when one is given. -/
def profile (store : Store) (config : AnalysisConfig) (player : String) (venue : Option String) :
    AnalysisResult PlayerReport := do
  unless ← ask (store.playerKnown player) do throw (.playerNotFound player)
  let baseline ← ask (store.leagueBaseline .p50)
  let names ← ask store.machineNames
  let global ← ask (store.machineStats (Cohort.single player) none 0)
  let (globalStats, venueStats) ← venueRows store (Cohort.single player) 0 global baseline names venue
  let team ← ask (store.playerCurrentTeam player)
  return ⟨player, team, venue, venueStats, globalStats, summarize globalStats config⟩

end PinballScout
