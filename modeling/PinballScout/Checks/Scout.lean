import PinballScout.Checks.Fixture
import PinballScout.Analysis.Scout

/-!
# Checks of scouting

Scouting TTT in the small league, everywhere and at a venue.
-/

namespace PinballScout.Checks.Scout

/-- Scouts a team of the small league with the default tunables. -/
def scoutSmall (team : String) (venue : Option String) : AnalysisResult ScoutReport :=
  scout smallStore AnalysisConfig.default team venue

/-- Everywhere: every machine, measured against the league. -/
def everywhere : Check := fun _ =>
  match scoutSmall "TTT" none with
  | .ok r =>
    r.team.name == "The Trailer Trashers" && r.team.season == 23 && r.venueStats.isNone &&
      r.globalStats.map (·.machineKey) == ["TAF", "MM", "TZ"] &&
      (match r.globalStats with
        | taf :: _ =>
          taf.machineName == "The Addams Family" && (taf.games, taf.p50, taf.p90) == (3, 400, 500) &&
            taf.leagueP50 == some 300 && (taf.relativeStrength - 100.0 / 3.0).abs < 1e-9 &&
            taf.likelyPlayers.length == 2 && (taf.likelyPlayers.head?.map (·.name)) == some "Bob"
        | [] => false) &&
      r.summary.strongest == ["The Addams Family"] && r.summary.weakest.isEmpty
  | .error _ => false

/-- At a venue: only the venue's machines. -/
def atVenue : Check := fun _ =>
  match scoutSmall "TTT" (some "STN") with
  | .ok r =>
    r.globalStats.map (·.machineKey) == ["TAF", "TZ"] && r.globalStats.all (!·.noVenueData) &&
      r.venueStats.any fun rows => rows.length == 2 && (rows.head?.map (·.machineKey)) == some "TAF"
  | .error _ => false

/-- At a venue without games: every machine flagged. -/
def venueWithoutGames : Check := fun _ =>
  match scoutSmall "TTT" (some "GPA") with
  | .ok r =>
    r.venueStats.any (·.isEmpty) && r.globalStats.map (·.machineKey) == ["MM", "TZ"] &&
      r.globalStats.all (·.noVenueData)
  | .error _ => false

/-- An unknown venue gives an empty report. -/
def unknownVenue : Check := fun _ =>
  match scoutSmall "TTT" (some "XXX") with
  | .ok r => r.globalStats.isEmpty && r.summary == ⟨[], []⟩
  | .error _ => false

/-- An unknown team is not found. -/
def unknownTeam : Check := fun _ =>
  match scoutSmall "NOPE" none with
  | .error (.teamNotFound key) => key == "NOPE"
  | _ => false

end PinballScout.Checks.Scout
