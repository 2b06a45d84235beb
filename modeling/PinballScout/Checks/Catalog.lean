import PinballScout.Checks.Fixture

/-!
# Checks of the catalog

Search terms, and the team, venue, machine and player listings of the small league.
-/

namespace PinballScout.Checks.Catalog

/-- A search term is trimmed and lowered; a blank one is no search. -/
def searchTerms : Check := fun _ =>
  Text.searchTerm none == none && Text.searchTerm (some "  ") == none &&
    Text.searchTerm (some " Knight ") == some "knight"

/-- Teams come from the latest season only. -/
def latestSeasonTeams : Check := fun _ =>
  let league := smallLeague
  let teams := listTeams league.teams league.venues none
  teams.map (·.key) == ["KNR", "TTT"] &&
    (teams[1]?.map fun t => (t.name, t.season)) == some ("The Trailer Trashers", 23) &&
    (teams[0]?.map (·.homeVenue)) == some (some ⟨"GPA", "Georgetown Pizza and Arcade"⟩)

/-- The team search ignores case and looks at keys and names. -/
def teamSearch : Check := fun _ =>
  let league := smallLeague
  let byName := listTeams league.teams league.venues (some "trailer")
  let byKey := listTeams league.teams league.venues (some "knr")
  byName.map (·.key) == ["TTT"] && (byKey[0]?.map (·.name)) == some "Knight Riders" &&
    (listTeams league.teams league.venues (some "old")).isEmpty

/-- No team rows, no teams. -/
def noTeams : Check := fun _ => (listTeams [] [] none).isEmpty

/-- Venues with only a lineup are listed under their key. -/
def lineupOnlyVenues : Check := fun _ =>
  let league := { smallLeague with
    venueMachines := setKey "NEW" ["TAF"] smallLeague.venueMachines
    venueMachines_ascending := lastPerKey_ascending _ }
  let venues := listVenues league.venues league.venueMachines none
  let found := listVenues league.venues league.venueMachines (some "SHORTY")
  venues.map (·.key) == ["GPA", "NEW", "STN"] && (venues[1]?.map (·.name)) == some "NEW" &&
    found.map (·.key) == ["STN"]

/-- Only machines with games are listed. -/
def playedMachines : Check := fun _ =>
  let league := { smallLeague with
    machines := setKey "AFM" "Attack from Mars" smallLeague.machines
    machines_ascending := lastPerKey_ascending _ }
  (listMachines league.machines league.scores none).map (·.key) == ["MM", "TAF", "TZ"] &&
    (listMachines league.machines league.scores (some "zone")).map (·.key) == ["TZ"]

/-- Players come from the current rosters, searchable by team. -/
def currentPlayers : Check := fun _ =>
  let league := smallLeague
  let players := listPlayers league.teams league.rosters none
  let knr := listPlayers league.teams league.rosters (some "knight")
  let alice := listPlayers league.teams league.rosters (some "ALI")
  players.map (·.name) == ["Alice", "Bob", "Carol", "Dave", "Erin"] &&
    (players[2]?.map (·.teamName)) == some "Knight Riders" &&
    knr.length == 3 && knr.all (·.teamKey == "KNR") && alice.map (·.teamKey) == ["TTT"]

end PinballScout.Checks.Catalog
