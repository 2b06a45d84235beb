import PinballScout.Checks.Fixture
import PinballScout.Analysis.Profile

/-!
# Checks of player profiles

Profiles of players of the small league.
-/

namespace PinballScout.Checks.Profile

/-- Profiles a player of a league with the default tunables. -/
def profileIn (store : Store) (player : String) (venue : Option String) : AnalysisResult PlayerReport :=
  profile store AnalysisConfig.default player venue

/-- A rostered player: team, machines and summary. -/
def rostered : Check := fun _ =>
  match profileIn smallStore "Alice" none with
  | .ok r =>
    r.team == some ⟨"TTT", "The Trailer Trashers"⟩ && r.globalStats.length == 3 &&
      (match r.globalStats.find? (·.machineKey == "MM") with
        | some mm => (mm.games, mm.p50) == (1, 600) && mm.leagueP50 == some 600 && mm.likelyPlayers.isEmpty
        | none => false) &&
      r.summary.strongest.isEmpty
  | .error _ => false

/-- A rostered player without games has an empty profile. -/
def withoutScores : Check := fun _ =>
  match profileIn smallStore "Erin" none with
  | .ok r => (r.team.map (·.teamKey)) == some "KNR" && r.globalStats.isEmpty
  | .error _ => false

/-- A player with games but no roster has no team. -/
def unrostered : Check := fun _ =>
  let league := { smallLeague with scores := smallLeague.scores ++ [scoreAt "STN" "Sub" "KNR" 23 "TZ" 90] }
  match profileIn league.store "Sub" none with
  | .ok r => r.team.isNone && r.globalStats.length == 1
  | .error _ => false

/-- At a venue the player never played: every machine flagged. -/
def venueMode : Check := fun _ =>
  match profileIn smallStore "Alice" (some "GPA") with
  | .ok r =>
    r.globalStats.map (·.machineKey) == ["MM", "TZ"] && r.globalStats.all (·.noVenueData) &&
      r.venueStats.any (·.isEmpty)
  | .error _ => false

/-- An unknown player is not found. -/
def unknownPlayer : Check := fun _ =>
  match profileIn smallStore "Nobody" none with
  | .error (.playerNotFound name) => name == "Nobody"
  | _ => false

end PinballScout.Checks.Profile
