import PinballScout.League.Snapshot

/-!
# Cohorts

Team keys are reused across seasons, sometimes by entirely different rosters, so a key always
resolves in two steps: the key to the latest season that used it (by a team row or a roster
row), then the key and season to the players rostered on it. The league's players are those
rostered in the current season, the highest season with any roster row. A player's current
team is the membership of their highest season, the lowest team key within a season.
-/

namespace PinballScout

/-- The players counted as a team key's current roster. -/
structure TeamCohort where
  teamKey : String
  /-- The display name in the resolved season, or the key itself. -/
  teamName : String
  season : Nat
  /-- Sorted and distinct. -/
  players : List String
  deriving DecidableEq, Repr

/-- A player's most recent team. -/
structure PlayerTeam where
  teamKey : String
  teamName : String
  deriving DecidableEq, Repr

/-- Players whose scores are pooled: sorted and without repeats. -/
abbrev Cohort := List String

/-- The cohort of one player. -/
def Cohort.single (player : String) : Cohort := [player]

/-- The cohort of a team's roster. -/
def Cohort.roster (team : TeamCohort) : Cohort := team.players

/-- The highest season in which a team key appears, in a team row or a roster row. -/
def latestSeason (teams : List TeamSeason) (rosters : List RosterMembership) (key : String) :
    Option Nat :=
  ((teams.filter (·.key == key)).map (·.season) ++
    (rosters.filter (·.teamKey == key)).map (·.season)).max?

/-- The name of a team key in a season: the first matching team row's, else the key. -/
def teamName (teams : List TeamSeason) (key : String) (season : Nat) : String :=
  match teams.find? (fun t => t.key == key && t.season == season) with
  | some t => t.name
  | none => key

/-- The roster of a team key's latest season, or `none` when the key never appears. -/
def resolveTeam (teams : List TeamSeason) (rosters : List RosterMembership) (key : String) :
    Option TeamCohort := do
  let season ← latestSeason teams rosters key
  let players := (rosters.filter fun r => r.teamKey == key && r.season == season).map (·.player)
  return ⟨key, teamName teams key season, season, distinctSorted players⟩

/-- The highest season with any roster row. -/
def currentSeason (rosters : List RosterMembership) : Option Nat :=
  (rosters.map (·.season)).max?

/-- Every player rostered in the current season, sorted. -/
def leaguePlayers (rosters : List RosterMembership) : List String :=
  match currentSeason rosters with
  | none => []
  | some season => distinctSorted ((rosters.filter (·.season == season)).map (·.player))

/-- Whether membership `r` takes the place of `best` as a player's latest: a higher season,
or the same season and a key no greater (so among equals the last one stands). -/
def RosterMembership.supersedes (r best : RosterMembership) : Bool :=
  decide (best.season < r.season) || (r.season == best.season && decide (r.teamKey ≤ best.teamKey))

/-- The membership of a player's highest season, the lowest key within it. -/
def latestMembership (rosters : List RosterMembership) (player : String) :
    Option RosterMembership :=
  (rosters.filter (·.player == player)).foldl
    (fun best r =>
      match best with
      | none => some r
      | some b => if r.supersedes b then some r else some b)
    none

/-- The team a player was most recently rostered on. -/
def playerTeam (teams : List TeamSeason) (rosters : List RosterMembership) (player : String) :
    Option PlayerTeam :=
  (latestMembership rosters player).map fun r => ⟨r.teamKey, teamName teams r.teamKey r.season⟩

/-- The machines ever installed at a venue; none for an unknown venue. -/
def venueMachineSet (lineups : List (String × List String)) (venue : String) : List String :=
  match lineups.find? (·.1 == venue) with
  | some (_, machines) => machines
  | none => []

end PinballScout
