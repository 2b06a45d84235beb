import PinballScout.Store.Database
import PinballScout.Store.Snapshot

/-! A league database as typed rows: each table of the league schema with its cells of the classes
    the schema declares, a table keyed by `INTEGER PRIMARY KEY id` in the order of its ids and any
    other in the order of insertion. From the rows come the database the queries run on and the
    snapshot a league database stands for: its name tables, lineups, team seasons and roster rows,
    and one score record per finished result on a game with a machine, carrying its match's venue. -/

namespace PinballScout

namespace LeagueRows

/-! ### Rows -/

structure Machine where
  key : String
  name : String

structure Season where
  id : Int
  number : Int

structure Player where
  id : Int
  name : String

structure Venue where
  id : Int
  key : String
  name : String

structure Team where
  id : Int
  key : String
  name : String
  seasonId : Int
  homeVenueId : Option Int

/-- A machine installed at a venue in a season. -/
structure Lineup where
  venueId : Int
  machineKey : String
  seasonId : Int

structure Roster where
  playerId : Int
  teamId : Int
  role : String

structure Match where
  id : Int
  key : String
  seasonId : Int
  week : Int
  homeTeamId : Int
  awayTeamId : Int
  venueId : Option Int

/-- A game of a match; its machine may be unknown. -/
structure Game where
  id : Int
  matchId : Int
  round : Int
  machineKey : Option String

/-- A player's result in a game; the score is empty for a game that was never finished. -/
structure Result where
  gameId : Int
  playerId : Int
  teamId : Int
  position : Int
  score : Option Int

end LeagueRows

/-- The rows of the ten league tables. -/
structure LeagueRows where
  machines : List LeagueRows.Machine
  seasons : List LeagueRows.Season
  players : List LeagueRows.Player
  venues : List LeagueRows.Venue
  teams : List LeagueRows.Team
  lineups : List LeagueRows.Lineup
  rosters : List LeagueRows.Roster
  /-- The rows of the matches table. -/
  fixtures : List LeagueRows.Match
  games : List LeagueRows.Game
  results : List LeagueRows.Result

namespace LeagueRows

/-! ### The database -/

/-- A cell that may be empty. -/
def optionCell {α : Type} (f : α → Cell) : Option α → Cell
  | some a => f a
  | none => .null

@[simp] theorem optionCell_some {α : Type} (f : α → Cell) (a : α) : optionCell f (some a) = f a := rfl

@[simp] theorem optionCell_none {α : Type} (f : α → Cell) : optionCell f none = .null := rfl

/-- A column of text. -/
def textColumn (name : String) : Column := ⟨name, .text, false, .null⟩

/-- A column of integers. -/
def integerColumn (name : String) : Column := ⟨name, .integer, false, .null⟩

/-- The `INTEGER PRIMARY KEY` column `id`, which is the row id. -/
def idColumn : Column := ⟨"id", .integer, true, .null⟩

/-- Rows with the row ids an insertion gives them: one, two, and so on. -/
def numbered (rows : List (List Cell)) : List (Int × List Cell) :=
  rows.zipIdx.map fun (cells, i) => ((i : Int) + 1, cells)

def Machine.cells (m : Machine) : List Cell := [.text m.key, .text m.name]

def Season.cells (s : Season) : List Cell := [.integer s.id, .integer s.number]

def Player.cells (p : Player) : List Cell := [.integer p.id, .text p.name]

def Venue.cells (v : Venue) : List Cell := [.integer v.id, .text v.key, .text v.name]

def Team.cells (t : Team) : List Cell :=
  [.integer t.id, .text t.key, .text t.name, .integer t.seasonId, optionCell .integer t.homeVenueId]

def Lineup.cells (l : Lineup) : List Cell := [.integer l.venueId, .text l.machineKey, .integer l.seasonId]

def Roster.cells (r : Roster) : List Cell := [.integer r.playerId, .integer r.teamId, .text r.role]

def Match.cells (m : Match) : List Cell :=
  [.integer m.id, .text m.key, .integer m.seasonId, .integer m.week, .integer m.homeTeamId,
    .integer m.awayTeamId, optionCell .integer m.venueId]

def Game.cells (g : Game) : List Cell :=
  [.integer g.id, .integer g.matchId, .integer g.round, optionCell .text g.machineKey]

def Result.cells (r : Result) : List Cell :=
  [.integer r.gameId, .integer r.playerId, .integer r.teamId, .integer r.position, optionCell .integer r.score]

/-! The columns of each table, as the schema declares them. -/

def machinesColumns : List Column := [textColumn "key", textColumn "name"]

def seasonsColumns : List Column := [idColumn, integerColumn "number"]

def playersColumns : List Column := [idColumn, textColumn "name"]

def venuesColumns : List Column := [idColumn, textColumn "key", textColumn "name"]

def teamsColumns : List Column :=
  [idColumn, textColumn "key", textColumn "name", integerColumn "season_id", integerColumn "home_venue_id"]

def lineupsColumns : List Column :=
  [integerColumn "venue_id", textColumn "machine_key", integerColumn "season_id"]

def rostersColumns : List Column :=
  [integerColumn "player_id", integerColumn "team_id", ⟨"role", .text, false, .text "P"⟩]

def matchesColumns : List Column :=
  [idColumn, textColumn "key", integerColumn "season_id", integerColumn "week",
    integerColumn "home_team_id", integerColumn "away_team_id", integerColumn "venue_id"]

def gamesColumns : List Column :=
  [idColumn, integerColumn "match_id", integerColumn "round", textColumn "machine_key"]

def resultsColumns : List Column :=
  [integerColumn "game_id", integerColumn "player_id", integerColumn "team_id", integerColumn "position",
    integerColumn "score"]

variable (D : LeagueRows)

def machinesTable : Table := ⟨"machines", machinesColumns, numbered (D.machines.map Machine.cells)⟩

def seasonsTable : Table := ⟨"seasons", seasonsColumns, D.seasons.map fun s => (s.id, s.cells)⟩

def playersTable : Table := ⟨"players", playersColumns, D.players.map fun p => (p.id, p.cells)⟩

def venuesTable : Table := ⟨"venues", venuesColumns, D.venues.map fun v => (v.id, v.cells)⟩

def teamsTable : Table := ⟨"teams", teamsColumns, D.teams.map fun t => (t.id, t.cells)⟩

def lineupsTable : Table := ⟨"venue_machines", lineupsColumns, numbered (D.lineups.map Lineup.cells)⟩

def rostersTable : Table := ⟨"rosters", rostersColumns, numbered (D.rosters.map Roster.cells)⟩

def matchesTable : Table := ⟨"matches", matchesColumns, D.fixtures.map fun m => (m.id, m.cells)⟩

def gamesTable : Table := ⟨"games", gamesColumns, D.games.map fun g => (g.id, g.cells)⟩

def resultsTable : Table := ⟨"game_results", resultsColumns, numbered (D.results.map Result.cells)⟩

/-- The league database holding the rows, its tables in the order the schema creates them. -/
def database : Database :=
  .tables [D.machinesTable, D.seasonsTable, D.playersTable, D.venuesTable, D.teamsTable,
    D.lineupsTable, D.rostersTable, D.matchesTable, D.gamesTable, D.resultsTable]

theorem table?_machines : D.database.table? "machines" = some D.machinesTable := by
  simp +decide [database, Database.table?, machinesTable, sameName]

theorem table?_games : D.database.table? "games" = some D.gamesTable := by
  simp +decide [database, Database.table?, machinesTable, seasonsTable, playersTable, venuesTable,
    teamsTable, lineupsTable, rostersTable, matchesTable, gamesTable, sameName]

/-! ### The snapshot -/

def seasonNumber? (id : Int) : Option Nat := (D.seasons.find? (·.id == id)).map (·.number.toNat)

def playerName? (id : Int) : Option String := (D.players.find? (·.id == id)).map (·.name)

def venueKey? (id : Int) : Option String := (D.venues.find? (·.id == id)).map (·.key)

def team? (id : Int) : Option Team := D.teams.find? (·.id == id)

def fixture? (id : Int) : Option Match := D.fixtures.find? (·.id == id)

def game? (id : Int) : Option Game := D.games.find? (·.id == id)

/-- The machine keys installed at each venue key, over all seasons. -/
def lineupTable : List (String × List String) :=
  let installed := D.lineups.filterMap fun l => (D.venueKey? l.venueId).map (·, l.machineKey)
  (distinctSorted (installed.map (·.1))).map fun v =>
    (v, distinctSorted ((installed.filter (·.1 == v)).map (·.2)))

theorem lineupTable_ascending : KeysAscending D.lineupTable := by
  simpa [KeysAscending, lineupTable, Function.comp_def] using distinctSorted_sorted _

def Team.season? (t : Team) : Option TeamSeason :=
  (D.seasonNumber? t.seasonId).map fun s => ⟨t.key, s, t.name, t.homeVenueId.bind D.venueKey?⟩

def Roster.membership? (r : Roster) : Option RosterMembership := do
  let player ← D.playerName? r.playerId
  let team ← D.team? r.teamId
  let season ← D.seasonNumber? team.seasonId
  pure ⟨player, team.key, season⟩

/-- The score record of a finished result on a game with a machine. -/
def Result.record? (r : Result) : Option ScoreRecord := do
  let score ← r.score
  let game ← D.game? r.gameId
  let machine ← game.machineKey
  let player ← D.playerName? r.playerId
  let team ← D.team? r.teamId
  let played ← D.fixture? game.matchId
  let season ← D.seasonNumber? played.seasonId
  let venue ← played.venueId
  let venueKey ← D.venueKey? venue
  pure ⟨player, team.key, season, machine, venueKey, score⟩

/-- The league snapshot the rows stand for. Its name tables are maps filled row by row: of rows
with one key the last names it. -/
def snapshot : League where
  machines := lastPerKey (D.machines.map fun m => (m.key, m.name))
  venues := lastPerKey (D.venues.map fun v => (v.key, v.name))
  venueMachines := D.lineupTable
  teams := D.teams.filterMap (Team.season? D)
  rosters := D.rosters.filterMap (Roster.membership? D)
  scores := D.results.filterMap (Result.record? D)
  machines_ascending := lastPerKey_ascending _
  venues_ascending := lastPerKey_ascending _
  venueMachines_ascending := D.lineupTable_ascending

end LeagueRows

end PinballScout
