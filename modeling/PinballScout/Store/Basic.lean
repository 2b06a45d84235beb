import PinballScout.Store.Aggregate
import PinballScout.League.Catalog
import PinballScout.Relational.Fault

/-!
# Stores

A store answers the twelve questions the analyses ask of a league: a team key's current
roster, a venue's machines, machine names, the league-wide percentile per machine, a cohort's
aggregates per machine and per player, a player's current team and whether a player is known
at all, and the four listings. A cohort is a sorted set of player names.

Every answer may fail with a `StoreError`: the database reported a fault while doing a named
step, or there is no database at the given place.
-/

namespace PinballScout

/-- Why a store could not answer. -/
inductive StoreError where
  /-- The database failed while doing the step named by `context`. -/
  | database (context : String) (fault : Fault)
  /-- There is no league database at this path. -/
  | missing (path : String)
  deriving DecidableEq, Repr

namespace StoreError

/-- The one-line message of a store error. -/
def message : StoreError → String
  | .database context fault => context ++ ": " ++ fault.message
  | .missing path => "league database not found at " ++ path

/-- The causes beneath a store error, outermost first. -/
def causes : StoreError → List String
  | .database _ fault => fault.message :: fault.causes
  | .missing _ => []

end StoreError

/-- An answer of a store. -/
abbrev StoreResult (α : Type) := Except StoreError α

/-- The questions a store answers. -/
structure Store where
  /-- A team key's most recent roster; `none` for an unknown key. -/
  teamCohort : String → StoreResult (Option TeamCohort)
  /-- The sorted machines ever installed at a venue; none for an unknown venue. -/
  venueMachines : String → StoreResult (List String)
  /-- Machine keys with their names. -/
  machineNames : StoreResult (List (String × String))
  /-- The league-wide percentile per machine, over the current season's players. -/
  leagueBaseline : Percentile → StoreResult (List (String × Score))
  /-- A cohort's aggregate per machine, optionally at one venue only, with that many likely
  players each; most games first, then by machine key. -/
  machineStats : List String → Option String → Nat → StoreResult (List MachineStats)
  /-- A cohort's aggregate per player on one machine, optionally at one venue only; best
  median first. -/
  playerStats : List String → String → Option String → StoreResult (List PlayerStats)
  /-- The team a player was most recently rostered on. -/
  playerCurrentTeam : String → StoreResult (Option PlayerTeam)
  /-- Whether a player has any roster or score history. -/
  playerKnown : String → StoreResult Bool
  /-- Teams of the latest season, by key. -/
  listTeams : Option String → StoreResult (List TeamListing)
  /-- All venues, by key. -/
  listVenues : Option String → StoreResult (List VenueListing)
  /-- Machines with at least one recorded game, by key. -/
  listMachines : Option String → StoreResult (List MachineListing)
  /-- Current-season roster entries, by player name and then team key. -/
  listPlayers : Option String → StoreResult (List PlayerListing)

end PinballScout
