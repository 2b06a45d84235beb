import PinballScout.Checks.Fixture
import PinballScout.Checks.Memory
import PinballScout.Tool.Run

/-!
# Checks of the database store

The answers of the small league's database, compared with the expected values and with the
snapshot store of the same league.
-/

namespace PinballScout.Checks.LeagueDatabase

open Memory (rosterOf)

/-- A check on the store of the small league's database; fails when it cannot be built. -/
def withStore (check : Store → Bool) : Bool :=
  match smallDatabaseStore with
  | .ok store => check store
  | .error _ => false

/-- Nothing at the path: the store is missing. -/
def missingDatabase : Check := fun _ =>
  match Session.runWith (fun _ => .missing) (Store.openAt "/tmp/league_missing.db") with
  | .error (.missing _) => true
  | _ => false

/-- A file written with the schema (twice) and one machine opens and reads. -/
def existingDatabase : Check := fun _ =>
  let written : Except String Database := do
    let db ← Database.league
    let db ← db.runScript leagueSchema
    db.runScript "INSERT INTO machines (key, name) VALUES ('TAF', 'The Addams Family')"
  match written with
  | .error _ => false
  | .ok db =>
    let path := "/tmp/league_read.db"
    let look := fun p => if p == path then Entry.database db else .missing
    match Session.runWith look (Store.openAt path) with
    | .ok store => (answered store.machineNames).any fun names => names.lookup "TAF" == some "The Addams Family"
    | .error _ => false

/-- Team keys resolve to their latest season. -/
def latestTeamSeason : Check := fun _ => withStore fun db =>
  (answered (db.teamCohort "TTT")).any (fun t => t.any fun t =>
    t.season == 23 && t.teamName == "The Trailer Trashers" && t.players == ["Alice", "Bob"]) &&
    answered (db.teamCohort "NOPE") == some none

/-- Machine aggregates from the database rows. -/
def machineStatsFromRows : Check := fun _ => withStore fun db =>
  (rosterOf db "TTT").any fun cohort =>
    (answered (db.machineStats cohort none 2)).any fun stats =>
      (stats[0]?.map fun s => (s.machineKey, s.stat, s.likelyPlayers)) ==
        some ("TAF", ⟨3, 400, 500⟩, [⟨"Bob", 2, 350⟩, ⟨"Alice", 1, 500⟩])

/-- The venues the agreement check asks about. -/
def venues : List (Option String) := [none, some "STN", some "GPA"]

/-- The database and the snapshot store give the same answers to every question. -/
def storesAgree : Check := fun _ => withStore fun db =>
  let mem := smallStore
  let teams := ["TTT", "KNR"].all fun key =>
    match answered (db.teamCohort key) with
    | some (some team) =>
      agree (db.teamCohort key) (mem.teamCohort key) &&
        venues.all fun venue =>
          agree (db.machineStats team.players venue 2) (mem.machineStats team.players venue 2) &&
            ["TAF", "TZ", "MM", "NOPE"].all fun machine =>
              agree (db.playerStats team.players machine venue) (mem.playerStats team.players machine venue)
    | _ => false
  let players := ["Alice", "Bob", "Carol", "Dave", "Erin", "Zed", "Nobody"].all fun p =>
    agree (db.playerCurrentTeam p) (mem.playerCurrentTeam p) && agree (db.playerKnown p) (mem.playerKnown p)
  let searches := [none, some "", some "t", some "KNIGHT", some "zz"].all fun s =>
    agree (db.listTeams s) (mem.listTeams s) && agree (db.listVenues s) (mem.listVenues s) &&
      agree (db.listMachines s) (mem.listMachines s) && agree (db.listPlayers s) (mem.listPlayers s)
  teams && agree (db.teamCohort "NOPE") (mem.teamCohort "NOPE") &&
    agree (db.leagueBaseline .p50) (mem.leagueBaseline .p50) &&
    agree (db.leagueBaseline .p90) (mem.leagueBaseline .p90) && players && searches

/-- A game without a score counts for nothing. -/
def unfinishedGames : Check := fun _ => withStore fun db =>
  (answered (db.playerStats (Cohort.single "Dave") "TZ" none)).any (·.isEmpty)

/-- No players, no aggregates. -/
def emptyCohort : Check := fun _ => withStore fun db =>
  (answered (db.machineStats [] none 2)).any (·.isEmpty)

/-- The baseline counts the current rosters only. -/
def currentBaseline : Check := fun _ => withStore fun db =>
  (answered (db.leagueBaseline .p50)).any fun p50 =>
    p50.lookup "TAF" == some 300 && p50.lookup "TZ" == some 100 && p50.lookup "MM" == some 600

/-- Venue lineups and machine names. -/
def lineupsAndNames : Check := fun _ => withStore fun db =>
  answered (db.venueMachines "STN") == some ["TAF", "TZ"] &&
    (answered (db.venueMachines "XXX")).any (·.isEmpty) &&
    (answered db.machineNames).any fun names => names.lookup "MM" == some "Medieval Madness"

/-- Player aggregates at one venue. -/
def playersAtVenue : Check := fun _ => withStore fun db =>
  (rosterOf db "TTT").any fun cohort =>
    (answered (db.playerStats cohort "TAF" (some "STN"))).any (fun stn =>
      stn.length == 2 && (stn[0]?.map (·.name)) == some "Alice") &&
    (answered (db.playerStats cohort "TAF" (some "GPA"))).any (·.isEmpty)

/-- A player's team, and who is known. -/
def teamAndExistence : Check := fun _ => withStore fun db =>
  answered (db.playerCurrentTeam "Carol") == some (some ⟨"KNR", "Knight Riders"⟩) &&
    answered (db.playerCurrentTeam "Nobody") == some none &&
    answered (db.playerKnown "Erin") == some true && answered (db.playerKnown "Zed") == some true &&
    answered (db.playerKnown "Nobody") == some false

/-- Teams with their home venues. -/
def teamsWithHomes : Check := fun _ => withStore fun db =>
  (answered (db.listTeams none)).any fun teams =>
    teams.map (·.key) == ["KNR", "TTT"] &&
      (teams[1]?.map (·.name)) == some "The Trailer Trashers" &&
      (teams[1]?.bind (·.homeVenue) |>.map (·.name)) == some "Shorty's"

/-- Wildcards in a search are plain characters. -/
def literalWildcards : Check := fun _ => withStore fun db =>
  (answered (db.listVenues (some "%"))).any (·.isEmpty) &&
    (answered (db.listPlayers (some "_"))).any (·.isEmpty) &&
    (answered (db.listVenues (some "pizza"))).any fun vs => (vs[0]?.map (·.key)) == some "GPA"

/-- Only machines with games are listed. -/
def playedMachines : Check := fun _ =>
  let grown := do
    let db ← smallDatabase
    db.runScript "INSERT INTO machines (key, name) VALUES ('AFM', 'Attack from Mars')"
  match grown with
  | .ok db => (answered (db.store.listMachines none)).any fun ms => ms.map (·.key) == ["MM", "TAF", "TZ"]
  | .error _ => false

end PinballScout.Checks.LeagueDatabase
