import PinballScout.Checks.Fixture
import PinballScout.League.Cohort

/-!
# Checks of cohorts

Resolving a team key to its latest roster, the players of the current season, a player's
latest team and a venue's machines.
-/

namespace PinballScout.Checks.Cohort

/-- A team season without a home venue. -/
def team (key : String) (season : Nat) (name : String) : TeamSeason := ⟨key, season, name, none⟩

/-- A reused key resolves to the roster of its latest season. -/
def reusedKey : Check := fun _ =>
  let teams := [team "TTT" 10 "Old Trashers", team "TTT" 23 "The Trailer Trashers"]
  let rosters := [member "Zed" "TTT" 10, member "Yolanda" "TTT" 10, member "Alice" "TTT" 23,
    member "Bob" "TTT" 23]
  (resolveTeam teams rosters "TTT").any fun c =>
    c.season == 23 && c.teamName == "The Trailer Trashers" && c.players == ["Alice", "Bob"]

/-- An unknown key resolves to nothing. -/
def unknownKey : Check := fun _ => (resolveTeam [] [member "Alice" "TTT" 23] "NOPE").isNone

/-- A team row without a roster resolves to no players. -/
def teamWithoutRoster : Check := fun _ =>
  (resolveTeam [team "NEW" 24 "Newcomers"] [member "Alice" "NEW" 23] "NEW").any fun c =>
    c.season == 24 && c.players.isEmpty

/-- A team without a name is called by its key. -/
def nameFallsBack : Check := fun _ => teamName [] "KNR" 23 == "KNR"

/-- The league's players are those of the current season. -/
def currentSeasonOnly : Check := fun _ =>
  leaguePlayers [member "Alice" "TTT" 23, member "Carol" "KNR" 23, member "Retired" "KNR" 22] ==
    ["Alice", "Carol"]

/-- No rosters, no players. -/
def noRosters : Check := fun _ => (leaguePlayers []).isEmpty

/-- A player's team is the most recent one. -/
def mostRecentTeam : Check := fun _ =>
  let teams := [team "KNR" 23 "Knight Riders"]
  let rosters := [member "Carol" "TTT" 20, member "Carol" "KNR" 23]
  playerTeam teams rosters "Carol" == some ⟨"KNR", "Knight Riders"⟩ &&
    (playerTeam teams rosters "Nobody").isNone

/-- Two teams in one season: the lower key wins. -/
def lowestKeyOnTie : Check := fun _ =>
  ((playerTeam [] [member "Dual" "ZZZ" 23, member "Dual" "AAA" 23] "Dual").map (·.teamKey)) == some "AAA"

/-- An unknown venue has no machines. -/
def unknownVenue : Check := fun _ =>
  let lineups := [("STN", ["TAF"])]
  (venueMachineSet lineups "STN").length == 1 && (venueMachineSet lineups "XXX").isEmpty

/-- A cohort holds exactly its players. -/
def membership : Check := fun _ =>
  let single := Cohort.single "Alice"
  single.contains "Alice" && !single.contains "Bob" && !single.isEmpty && ([] : Cohort).isEmpty

end PinballScout.Checks.Cohort
