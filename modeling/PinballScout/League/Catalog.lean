import PinballScout.League.Cohort
import PinballScout.Text.Search

/-!
# Listings

The keys the analyses take as input, listed with their names and filtered by a search term
(see `Text.searchTerm`):

- teams of the latest season with any team row, by key, each with its home venue;
- every venue, named or only in a lineup, by key;
- machines with a name and at least one recorded score, by key;
- current-season roster entries, by player name and then team key.
-/

namespace PinballScout

/-- A venue with its name. -/
structure VenueListing where
  key : String
  name : String
  deriving DecidableEq, Repr

/-- A team of the latest season. -/
structure TeamListing where
  key : String
  name : String
  season : Nat
  homeVenue : Option VenueListing
  deriving DecidableEq, Repr

/-- A machine with its name. -/
structure MachineListing where
  key : String
  name : String
  deriving DecidableEq, Repr

/-- A current-season roster entry. -/
structure PlayerListing where
  name : String
  teamKey : String
  teamName : String
  deriving DecidableEq, Repr

/-- The name of a key in a name table, else the key itself. -/
def nameIn (table : List (String × String)) (key : String) : String :=
  match table.find? (·.1 == key) with
  | some (_, name) => name
  | none => key

/-- Teams of the latest season with any team row, ordered by key (stably). -/
def listTeams (teams : List TeamSeason) (venues : List (String × String))
    (search : Option String) : List TeamListing :=
  match (teams.map (·.season)).max? with
  | none => []
  | some season =>
    let term := Text.searchTerm search
    let rows := (teams.filter fun t => t.season == season && Text.matchesAny term [t.key, t.name]).map
      fun t => (⟨t.key, t.name, season, t.homeVenue.map fun v => ⟨v, nameIn venues v⟩⟩ : TeamListing)
    rows.mergeSort fun a b => decide (a.key ≤ b.key)

/-- Every venue with a name or a lineup, ordered by key. -/
def listVenues (venues : List (String × String)) (lineups : List (String × List String))
    (search : Option String) : List VenueListing :=
  let term := Text.searchTerm search
  let keys := distinctSorted (venues.map (·.1) ++ lineups.map (·.1))
  (keys.map fun k => (⟨k, nameIn venues k⟩ : VenueListing)).filter fun v =>
    Text.matchesAny term [v.key, v.name]

/-- Named machines with at least one recorded score, ordered by key. -/
def listMachines (machines : List (String × String)) (scores : List ScoreRecord)
    (search : Option String) : List MachineListing :=
  let term := Text.searchTerm search
  let played := scores.map (·.machineKey)
  (machines.filter fun (k, name) => played.contains k && Text.matchesAny term [k, name]).map
    fun (k, name) => ⟨k, name⟩

/-- Whether pair `a` may stand before pair `b` in lexicographic order. -/
def pairBefore (a b : String × String) : Bool :=
  decide (a.1 < b.1) || (a.1 == b.1 && decide (a.2 ≤ b.2))

/-- Current-season roster entries, ordered by player name and then team key; the search
matches the player name, the team key or the team name. -/
def listPlayers (teams : List TeamSeason) (rosters : List RosterMembership)
    (search : Option String) : List PlayerListing :=
  match currentSeason rosters with
  | none => []
  | some season =>
    let term := Text.searchTerm search
    let entries := ((rosters.filter (·.season == season)).map fun r => (r.player, r.teamKey)).eraseDups
    let rows := (entries.mergeSort pairBefore).map fun (name, key) =>
      (⟨name, key, teamName teams key season⟩ : PlayerListing)
    rows.filter fun p => Text.matchesAny term [p.name, p.teamKey, p.teamName]

end PinballScout
