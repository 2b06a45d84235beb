import PinballScout.Store.Basic

/-!
# The snapshot store

A store over a league snapshot answers every question by scanning the snapshot's rows and
never fails. A cohort's scores are the score records of its players, at one venue when asked;
the league baseline is taken over the scores of the current season's players.
-/

namespace PinballScout

namespace League

/-- The score records of a cohort's players, at `venue` when one is given. -/
def cohortScores (league : League) (cohort : List String) (venue : Option String) :
    List ScoreRecord :=
  league.scores.filter fun s =>
    cohort.contains s.player && (venue.map (s.venueKey == ·)).getD true

/-- The league-wide percentile per machine over the current season's players. -/
def baseline (league : League) (p : Percentile) : List (String × Score) :=
  let players := leaguePlayers league.rosters
  buildBaseline ((league.scores.filter (players.contains ·.player)).map fun s => (s.machineKey, s.score)) p

/-- A cohort's aggregate per machine. -/
def machineStats (league : League) (cohort : List String) (venue : Option String) (limit : Nat) :
    List MachineStats :=
  buildMachineStats ((league.cohortScores cohort venue).map fun s => ⟨s.machineKey, s.player, s.score⟩)
    limit

/-- A cohort's aggregate per player on one machine. -/
def playerStats (league : League) (cohort : List String) (machine : String) (venue : Option String) :
    List PlayerStats :=
  buildPlayerStats (((league.cohortScores cohort venue).filter (·.machineKey == machine)).map
    fun s => (s.player, s.score))

/-- Whether a player appears in a roster row or a score record. -/
def knows (league : League) (player : String) : Bool :=
  league.rosters.any (·.player == player) || league.scores.any (·.player == player)

/-- The store that answers from a snapshot. -/
def store (league : League) : Store where
  teamCohort key := .ok (resolveTeam league.teams league.rosters key)
  venueMachines venue := .ok (venueMachineSet league.venueMachines venue)
  machineNames := .ok league.machines
  leagueBaseline p := .ok (league.baseline p)
  machineStats cohort venue limit := .ok (league.machineStats cohort venue limit)
  playerStats cohort machine venue := .ok (league.playerStats cohort machine venue)
  playerCurrentTeam player := .ok (playerTeam league.teams league.rosters player)
  playerKnown player := .ok (league.knows player)
  listTeams search := .ok (listTeams league.teams league.venues search)
  listVenues search := .ok (listVenues league.venues league.venueMachines search)
  listMachines search := .ok (listMachines league.machines league.scores search)
  listPlayers search := .ok (listPlayers league.teams league.rosters search)

end League

end PinballScout
