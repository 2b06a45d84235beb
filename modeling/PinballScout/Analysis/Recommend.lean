import PinballScout.Analysis.Summary
import PinballScout.Analysis.Verdict

/-!
# Recommending players for a machine

Which of a team's players should play a machine, best median first. Three modes:

- basic: the team's players everywhere;
- at a venue: the team's players everywhere, flagged where they have no games at the venue,
  and beside them the team's players counting only games at the venue;
- against an opponent: both teams' players (at a venue, when one is given), and an assessment
  of our best against theirs when both sides have players; a gap between their medians that
  does not fit in 64 bits stops the analysis.
-/

namespace PinballScout

/-- What to compare the team's players against. -/
inductive RecommendMode where
  | basic
  | atVenue (venue : String)
  | vsOpponent (opponent : String) (venue : Option String)
  deriving DecidableEq, Repr

/-- A player's record on the machine. -/
structure PlayerRecommendation where
  name : String
  games : Nat
  p50 : Score
  p90 : Score
  leagueP50 : Option Score
  relativeStrength : Float
  /-- Set on global rows in venue mode when the player has no games at the venue. -/
  noVenueData : Bool

/-- A recommendation report. -/
structure RecommendReport where
  team : TeamRef
  machineKey : String
  machineName : String
  mode : RecommendMode
  /-- The team's players, best median first. -/
  teamStats : List PlayerRecommendation
  /-- Only at a venue. -/
  venueStats : Option (List PlayerRecommendation)
  /-- Only against an opponent. -/
  opponent : Option TeamRef
  opponentStats : Option (List PlayerRecommendation)
  /-- Only against an opponent, when both sides have players. -/
  assessment : Option Assessment

/-- Player rows measured against the league median on the machine. -/
def recommendations (leagueP50 : Option Score) (stats : List PlayerStats) :
    List PlayerRecommendation :=
  stats.map fun s =>
    { name := s.name
      games := s.stat.games
      p50 := s.stat.p50
      p90 := s.stat.p90
      leagueP50 := leagueP50
      relativeStrength := relativeStrength (Float.ofInt s.stat.p50) (Float.ofInt (leagueP50.getD 0))
      noVenueData := false }

/-- The rows of a recommendation that depend on the mode: team rows, venue rows, the
opponent, its rows and the assessment. -/
structure ModeRows where
  teamStats : List PlayerRecommendation
  venueStats : Option (List PlayerRecommendation) := none
  opponent : Option TeamRef := none
  opponentStats : Option (List PlayerRecommendation) := none
  assessment : Option Assessment := none

/-- The mode's rows for a team on a machine. -/
def modeRows (store : Store) (config : AnalysisConfig) (team : TeamCohort) (machine : String)
    (leagueP50 : Option Score) : RecommendMode → AnalysisResult ModeRows
  | .basic => do
    let stats ← ask (store.playerStats team.players machine none)
    return { teamStats := recommendations leagueP50 stats }
  | .atVenue venue => do
    let atVenue ← ask (store.playerStats team.players machine (some venue))
    let global ← ask (store.playerStats team.players machine none)
    let teamStats := (recommendations leagueP50 global).map fun r =>
      { r with noVenueData := !(atVenue.any (·.name == r.name)) }
    return { teamStats, venueStats := some (recommendations leagueP50 atVenue) }
  | .vsOpponent opponentKey venue => do
    let opponent ← requireTeam store opponentKey
    let ours ← ask (store.playerStats team.players machine venue)
    let theirs ← ask (store.playerStats opponent.players machine venue)
    let assessment ← (assess ours theirs config.verdictMargin).mapError .panic
    return { teamStats := recommendations leagueP50 ours
             opponent := some opponent.ref
             opponentStats := some (recommendations leagueP50 theirs)
             assessment }

/-- Recommends a team's players for a machine. -/
def recommend (store : Store) (config : AnalysisConfig) (teamKey machine : String)
    (mode : RecommendMode) : AnalysisResult RecommendReport := do
  let team ← requireTeam store teamKey
  let leagueP50 := (← ask (store.leagueBaseline .p50)).lookup machine
  let names ← ask store.machineNames
  let rows ← modeRows store config team machine leagueP50 mode
  return { team := team.ref, machineKey := machine, machineName := machineName names machine,
           mode, teamStats := rows.teamStats, venueStats := rows.venueStats,
           opponent := rows.opponent, opponentStats := rows.opponentStats,
           assessment := rows.assessment }

end PinballScout
