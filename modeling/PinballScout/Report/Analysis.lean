import PinballScout.Report.Encode
import PinballScout.Analysis.Scout
import PinballScout.Analysis.Profile
import PinballScout.Analysis.Matchup
import PinballScout.Analysis.Recommend

/-!
# Writing reports as JSON

Reports, listings and cohorts as JSON objects with snake-case member names. Optional members
marked as such are left out when absent (or, for likely players, when empty); every other
absent value is `null`.
-/

namespace PinballScout

/-- A member that is left out when absent. -/
def omittable (name : String) : Option Json → List (String × Json)
  | some j => [(name, j)]
  | none => []

/-- `{"key", "name", "season"}`. -/
def TeamRef.toJson (t : TeamRef) : Json :=
  .object [("key", .string t.key), ("name", .string t.name), ("season", .nat t.season)]

/-- `{"team_key", "team_name"}`. -/
def PlayerTeam.toJson (t : PlayerTeam) : Json :=
  .object [("team_key", .string t.teamKey), ("team_name", .string t.teamName)]

/-- `{"team_key", "team_name", "season", "players"}`. -/
def TeamCohort.toJson (t : TeamCohort) : Json :=
  .object [("team_key", .string t.teamKey), ("team_name", .string t.teamName),
    ("season", .nat t.season), ("players", .array (t.players.map .string))]

/-- A machine row; its likely players are left out when there are none. -/
def MachineReport.toJson (r : MachineReport) : Json :=
  .object ([("machine_key", .string r.machineKey), ("machine_name", .string r.machineName),
    ("games", .nat r.games), ("p50", .int r.p50), ("p90", .int r.p90),
    ("league_p50", .opt .int r.leagueP50), ("relative_strength", .float r.relativeStrength)] ++
    omittable "likely_players"
      (if r.likelyPlayers.isEmpty then none else some (.array (r.likelyPlayers.map LikelyPlayer.toJson))) ++
    [("no_venue_data", .bool r.noVenueData)])

/-- Machine rows as an array. -/
def machineRowsJson (rows : List MachineReport) : Json := .array (rows.map MachineReport.toJson)

/-- `{"strongest", "weakest"}`. -/
def StrengthSummary.toJson (s : StrengthSummary) : Json :=
  .object [("strongest", .array (s.strongest.map .string)), ("weakest", .array (s.weakest.map .string))]

/-- A scouting report. -/
def ScoutReport.toJson (r : ScoutReport) : Json :=
  .object ([("team", r.team.toJson)] ++ omittable "venue" (r.venue.map .string) ++
    omittable "venue_stats" (r.venueStats.map machineRowsJson) ++
    [("global_stats", machineRowsJson r.globalStats), ("summary", r.summary.toJson)])

/-- A player profile. -/
def PlayerReport.toJson (r : PlayerReport) : Json :=
  .object ([("name", .string r.name)] ++ omittable "team" (r.team.map PlayerTeam.toJson) ++
    omittable "venue" (r.venue.map .string) ++
    omittable "venue_stats" (r.venueStats.map machineRowsJson) ++
    [("global_stats", machineRowsJson r.globalStats), ("summary", r.summary.toJson)])

/-- `{"games", "p50", "likely_score", "likely_players"}`. -/
def SideStats.toJson (s : SideStats) : Json :=
  .object [("games", .nat s.games), ("p50", .int s.p50), ("likely_score", .opt .float s.likelyScore),
    ("likely_players", .array (s.likelyPlayers.map LikelyPlayer.toJson))]

/-- One machine of a matchup. -/
def MachineMatchup.toJson (m : MachineMatchup) : Json :=
  .object [("machine_key", .string m.machineKey), ("machine_name", .string m.machineName),
    ("team1", .opt SideStats.toJson m.team1), ("team2", .opt SideStats.toJson m.team2),
    ("edge", m.edge.toJson), ("confidence", m.confidence.toJson)]

/-- `{"team1_advantages", "team2_advantages", "contested"}`. -/
def MatchupSummary.toJson (s : MatchupSummary) : Json :=
  .object [("team1_advantages", .array (s.team1Advantages.map .string)),
    ("team2_advantages", .array (s.team2Advantages.map .string)),
    ("contested", .array (s.contested.map .string))]

/-- A matchup report. -/
def MatchupReport.toJson (r : MatchupReport) : Json :=
  .object [("venue", .string r.venue), ("team1", r.team1.toJson), ("team2", r.team2.toJson),
    ("machines", .array (r.machines.map MachineMatchup.toJson)), ("summary", r.summary.toJson)]

/-- A mode tagged by name: `{"mode": "basic"}`, `{"mode": "at_venue", "venue"}` or
`{"mode": "vs_opponent", "opponent", "venue"}`. -/
def RecommendMode.toJson : RecommendMode → Json
  | .basic => .object [("mode", .string "basic")]
  | .atVenue venue => .object [("mode", .string "at_venue"), ("venue", .string venue)]
  | .vsOpponent opponent venue =>
    .object [("mode", .string "vs_opponent"), ("opponent", .string opponent),
      ("venue", .opt .string venue)]

/-- A player's row of a recommendation. -/
def PlayerRecommendation.toJson (r : PlayerRecommendation) : Json :=
  .object [("name", .string r.name), ("games", .nat r.games), ("p50", .int r.p50),
    ("p90", .int r.p90), ("league_p50", .opt .int r.leagueP50),
    ("relative_strength", .float r.relativeStrength), ("no_venue_data", .bool r.noVenueData)]

/-- Player rows as an array. -/
def playerRowsJson (rows : List PlayerRecommendation) : Json :=
  .array (rows.map PlayerRecommendation.toJson)

/-- A recommendation report. -/
def RecommendReport.toJson (r : RecommendReport) : Json :=
  .object ([("team", r.team.toJson), ("machine_key", .string r.machineKey),
    ("machine_name", .string r.machineName), ("mode", r.mode.toJson),
    ("team_stats", playerRowsJson r.teamStats)] ++
    omittable "venue_stats" (r.venueStats.map playerRowsJson) ++
    omittable "opponent" (r.opponent.map TeamRef.toJson) ++
    omittable "opponent_stats" (r.opponentStats.map playerRowsJson) ++
    omittable "assessment" (r.assessment.map Assessment.toJson))

/-- `{"key", "name"}`. -/
def VenueListing.toJson (v : VenueListing) : Json :=
  .object [("key", .string v.key), ("name", .string v.name)]

/-- `{"key", "name", "season"}` and the home venue when known. -/
def TeamListing.toJson (t : TeamListing) : Json :=
  .object ([("key", .string t.key), ("name", .string t.name), ("season", .nat t.season)] ++
    omittable "home_venue" (t.homeVenue.map VenueListing.toJson))

/-- `{"key", "name"}`. -/
def MachineListing.toJson (m : MachineListing) : Json :=
  .object [("key", .string m.key), ("name", .string m.name)]

/-- `{"name", "team_key", "team_name"}`. -/
def PlayerListing.toJson (p : PlayerListing) : Json :=
  .object [("name", .string p.name), ("team_key", .string p.teamKey), ("team_name", .string p.teamName)]

end PinballScout
