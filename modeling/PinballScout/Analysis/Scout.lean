import PinballScout.Analysis.Summary

/-!
# Scouting a team

A team's current roster on every machine it has played, measured against the league, with a
summary of its strongest and weakest machines. With a venue, the rows are restricted to the
venue's machines and a second set of rows counts only the games played there; the summary
still ranks the global rows.
-/

namespace PinballScout

/-- A scouting report. -/
structure ScoutReport where
  team : TeamRef
  venue : Option String
  /-- Only in venue mode. -/
  venueStats : Option (List MachineReport)
  globalStats : List MachineReport
  summary : StrengthSummary

/-- Scouts a team, at a venue when one is given. -/
def scout (store : Store) (config : AnalysisConfig) (teamKey : String) (venue : Option String) :
    AnalysisResult ScoutReport := do
  let team ← requireTeam store teamKey
  let baseline ← ask (store.leagueBaseline .p50)
  let names ← ask store.machineNames
  let global ← ask (store.machineStats team.players none config.likelyPlayers)
  let (globalStats, venueStats) ←
    venueRows store team.players config.likelyPlayers global baseline names venue
  return ⟨team.ref, venue, venueStats, globalStats, summarize globalStats config⟩

end PinballScout
