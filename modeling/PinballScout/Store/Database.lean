import PinballScout.Store.Basic
import PinballScout.Relational.Eval

/-!
# The database store

A store that answers from a league database by queries, run on an engine. Queries fetch raw
rows only; the percentiles and orders come from the same aggregation as the snapshot store. Every step that
can fail names itself: preparing a query (unknown tables or columns, or a file that is not a
database) and reading its rows (a cell of the wrong class, or a season out of range).

The database's reading differs from the snapshot's in places: a team is resolved from team
rows only; unfinished scores and games without a machine are skipped; a match without a venue
never matches a venue; venues are listed from venue rows only; a home venue shows only when
its row exists; a machine is listed once a game names it, scored or not. Searches use
`LOWER(column) LIKE '%term%' ESCAPE '\'` with the wildcards and the escape character of the term
escaped.
-/

namespace PinballScout

/-! ### Reading cells -/

namespace Cell

/-- A text cell's text. -/
def readText (index : Nat) (name : String) : Cell → Except Fault String
  | .text s => .ok s
  | c => .error (.invalidColumnType index name c.kind)

/-- An optional text: empty reads as none. -/
def readOptText (index : Nat) (name : String) : Cell → Except Fault (Option String)
  | .null => .ok none
  | .text s => .ok (some s)
  | c => .error (.invalidColumnType index name c.kind)

/-- An integer cell's value. -/
def readInteger (index : Nat) (name : String) : Cell → Except Fault Int
  | .integer i => .ok i
  | c => .error (.invalidColumnType index name c.kind)

/-- A season number: an integer within 32 unsigned bits. -/
def readSeason (index : Nat) (name : String) : Cell → Except Fault Nat
  | .integer i => if 0 ≤ i ∧ i < Int.pow 2 32 then .ok i.toNat else .error (.outOfRange index i)
  | c => .error (.invalidColumnType index name c.kind)

/-- A truth value: an integer, true when non-zero. -/
def readBool (index : Nat) (name : String) : Cell → Except Fault Bool
  | .integer i => .ok (i != 0)
  | c => .error (.invalidColumnType index name c.kind)

end Cell

/-- A result row with the names of its columns. -/
structure ResultRow where
  cells : List Cell
  names : List String

/-- Reads column `i` of a row with a cell reader. -/
def ResultRow.get {α : Type} (row : ResultRow) (i : Nat) (read : Nat → String → Cell → Except Fault α) :
    Except Fault α :=
  read i (row.names[i]?.getD "") (row.cells[i]?.getD .null)

/-- Runs a query on an engine and pairs each row with the column names. -/
def Database.fetch (db : Database) (engine : Engine) (q : Query) (params : List Cell) :
    Except Fault (List ResultRow) := do
  let rows ← engine.run db q params
  return rows.map fun cells => ⟨cells, q.columnNames⟩

/-- A failure of a step, named by its context. -/
def within {α : Type} (context : String) (result : Except Fault α) : StoreResult α :=
  result.mapError (.database context)

/-! ### Queries -/

namespace LeagueQuery

/-- A column through its table's alias. -/
def col («alias» name : String) : Expr := .column (some «alias») name

/-- An inner join of a table under an alias. -/
def join (table «alias» : String) (on : Expr) : JoinKind × Source × Expr := (.inner, ⟨table, «alias»⟩, on)

/-- A left join of a table under an alias. -/
def leftJoin (table «alias» : String) (on : Expr) : JoinKind × Source × Expr := (.left, ⟨table, «alias»⟩, on)

/-- Conditions joined by `AND`, left to right. -/
def allOf : List Expr → Option Expr
  | [] => none
  | e :: rest => some (rest.foldl .and e)

/-- Rosters joined to their teams and seasons. -/
def rosterTeams : List (JoinKind × Source × Expr) :=
  [join "teams" "t" (.eq (col "t" "id") (col "r" "team_id")),
    join "seasons" "s" (.eq (col "s" "id") (col "t" "season_id"))]

/-- Rosters joined to their players, teams and seasons. -/
def rosterPlayers : List (JoinKind × Source × Expr) :=
  join "players" "p" (.eq (col "p" "id") (col "r" "player_id")) :: rosterTeams

/-- The highest season number with any roster row. -/
def currentSeason : Query :=
  .select false [.max (col "s" "number")] (some ⟨"rosters", "r"⟩) rosterTeams none [] none

/-- The highest season number with any team row. -/
def latestTeamSeason : Query :=
  .select false [.max (col "s" "number")] (some ⟨"teams", "t"⟩)
    [join "seasons" "s" (.eq (col "s" "id") (col "t" "season_id"))] none [] none

/-- The latest season and name of a team key (`?1`). -/
def teamSeason : Query :=
  .select false [col "s" "number", col "t" "name"] (some ⟨"teams", "t"⟩)
    [join "seasons" "s" (.eq (col "s" "id") (col "t" "season_id"))]
    (some (.eq (col "t" "key") (.param 1))) [(col "s" "number", true)] (some 1)

/-- The players rostered on a team key (`?1`) in a season (`?2`). -/
def roster : Query :=
  .select true [col "p" "name"] (some ⟨"rosters", "r"⟩) rosterPlayers
    (allOf [.eq (col "t" "key") (.param 1), .eq (col "s" "number") (.param 2)]) [] none

/-- The machines of a venue key (`?1`). -/
def venueMachines : Query :=
  .select true [col "vm" "machine_key"] (some ⟨"venue_machines", "vm"⟩)
    [join "venues" "v" (.eq (col "v" "id") (col "vm" "venue_id"))]
    (some (.eq (col "v" "key") (.param 1))) [] none

/-- Every machine key with its name. -/
def machineNames : Query :=
  .select false [.column none "key", .column none "name"] (some ⟨"machines", "machines"⟩) [] none [] none

/-- Finished scores on known machines by players of the current season. -/
def leagueScores : Query :=
  let currentPlayers : Query :=
    .select false [col "r" "player_id"] (some ⟨"rosters", "r"⟩) rosterTeams
      (some (.eq (col "s" "number") (.scalar currentSeason))) [] none
  .select false [col "g" "machine_key", col "gr" "score"] (some ⟨"game_results", "gr"⟩)
    [join "games" "g" (.eq (col "g" "id") (col "gr" "game_id"))]
    (allOf [.notNull (col "gr" "score"), .notNull (col "g" "machine_key"),
      .inQuery (col "gr" "player_id") currentPlayers]) [] none

/-- Parameters `?from`, `?from + 1`, … for `count` values. -/
def params (start count : Nat) : List Expr := (List.range count).map fun i => .param (start + i)

/-- Finished scores on known machines by `size` named players (`?1` … `?size`), on one machine
and at one venue when asked (the next parameters, in that order). -/
def cohortScores (size : Nat) (machine venue : Bool) : Query :=
  let machineTerm := if machine then [.eq (col "g" "machine_key") (.param (size + 1))] else []
  let venueTerm := if venue then [.eq (col "v" "key") (.param (size + 1 + if machine then 1 else 0))] else []
  .select false [col "g" "machine_key", col "p" "name", col "gr" "score"] (some ⟨"game_results", "gr"⟩)
    [join "players" "p" (.eq (col "p" "id") (col "gr" "player_id")),
      join "games" "g" (.eq (col "g" "id") (col "gr" "game_id")),
      join "matches" "m" (.eq (col "m" "id") (col "g" "match_id")),
      leftJoin "venues" "v" (.eq (col "v" "id") (col "m" "venue_id"))]
    (allOf ([.notNull (col "gr" "score"), .notNull (col "g" "machine_key"),
      .inList (col "p" "name") (params 1 size)] ++ machineTerm ++ venueTerm)) [] none

/-- The statement that fetches the scores of some players: the query for their number and the
options given, and its arguments, the players in order, then the machine, then the venue. -/
def cohortStatement (players : List String) (machine venue : Option String) : Query × List Cell :=
  (cohortScores players.length machine.isSome venue.isSome,
    players.map Cell.text ++ machine.toList.map Cell.text ++ venue.toList.map Cell.text)

/-- The team a player (`?1`) was most recently rostered on. -/
def playerTeam : Query :=
  .select false [col "t" "key", col "t" "name"] (some ⟨"rosters", "r"⟩) rosterPlayers
    (some (.eq (col "p" "name") (.param 1))) [(col "s" "number", true), (col "t" "key", false)] (some 1)

/-- Whether a player (`?1`) has a roster row or a game result. -/
def playerKnown : Query :=
  let hasRow (table «alias» : String) : Expr :=
    .exists (.select false [.integer 1] (some ⟨table, «alias»⟩) []
      (some (.eq (col «alias» "player_id") (col "p" "id"))) [] none)
  let named : Query :=
    .select false [.integer 1] (some ⟨"players", "p"⟩) []
      (some (.and (.eq (col "p" "name") (.param 1)) (.or (hasRow "rosters" "r") (hasRow "game_results" "gr"))))
      [] none
  .select false [.exists named] none [] none [] none

/-- The search condition on some columns, with its patterns as parameters from `start`:
each column lower-cased and matched against `%term%` with `\` escaping. -/
def searchCondition (start : Nat) (columns : List Expr) : Option Expr :=
  let clauses := (columns.zip (params start columns.length)).map fun (c, p) => Expr.like (.lower c) p '\\'
  match clauses with
  | [] => none
  | c :: rest => some (rest.foldl .or c)

/-- The search pattern of a term: its wildcards and escape character escaped, between `%`. -/
def searchPattern (term : String) : String :=
  let escaped := term.toList.flatMap fun c =>
    if c == '\\' then ['\\', '\\'] else if c == '%' then ['\\', '%'] else if c == '_' then ['\\', '_'] else [c]
  "%" ++ String.ofList escaped ++ "%"

/-- A listing query: its condition, the searched columns and the sort keys. -/
def listing (columns : List Expr) (source : Source) (joins : List (JoinKind × Source × Expr))
    (condition : Expr) (searched : List Expr) (search : Option String) (order : List Expr) :
    Query × List Cell :=
  match Text.searchTerm search with
  | none => (.select (source.table == "rosters") columns (some source) joins (some condition)
      (order.map (·, false)) none, [])
  | some term =>
    let filter := match searchCondition 1 searched with
      | some s => .and condition s
      | none => condition
    (.select (source.table == "rosters") columns (some source) joins (some filter) (order.map (·, false)) none,
      searched.map fun _ => .text (searchPattern term))

/-- Teams of the latest team season. -/
def teams (search : Option String) : Query × List Cell :=
  listing [col "t" "key", col "t" "name", col "s" "number", col "v" "key", col "v" "name"] ⟨"teams", "t"⟩
    [join "seasons" "s" (.eq (col "s" "id") (col "t" "season_id")),
      leftJoin "venues" "v" (.eq (col "v" "id") (col "t" "home_venue_id"))]
    (.eq (col "s" "number") (.scalar latestTeamSeason)) [col "t" "key", col "t" "name"] search [col "t" "key"]

/-- All venue rows. -/
def venues (search : Option String) : Query × List Cell :=
  listing [.column none "key", .column none "name"] ⟨"venues", "venues"⟩ [] (.eq (.integer 1) (.integer 1))
    [.column none "key", .column none "name"] search [.column none "key"]

/-- Machines named by some game. -/
def machines (search : Option String) : Query × List Cell :=
  let played : Query :=
    .select false [.column none "machine_key"] (some ⟨"games", "games"⟩) []
      (some (.notNull (.column none "machine_key"))) [] none
  listing [col "m" "key", col "m" "name"] ⟨"machines", "m"⟩ [] (.inQuery (col "m" "key") played)
    [col "m" "key", col "m" "name"] search [col "m" "key"]

/-- Roster entries of the current season. -/
def players (search : Option String) : Query × List Cell :=
  listing [col "p" "name", col "t" "key", col "t" "name"] ⟨"rosters", "r"⟩ rosterPlayers
    (.eq (col "s" "number") (.scalar currentSeason)) [col "p" "name", col "t" "key", col "t" "name"] search
    [col "p" "name", col "t" "key"]

end LeagueQuery

/-! ### Answers -/

namespace Database

/-- The latest season and roster of a team key. -/
def teamCohort (db : Database) (engine : Engine) (key : String) : StoreResult (Option TeamCohort) := do
  let latest ← within "failed to resolve team season" do
    match ← db.fetch engine LeagueQuery.teamSeason [.text key] with
    | [] => pure none
    | row :: _ => pure (some (← row.get 0 Cell.readSeason, ← row.get 1 Cell.readText))
  match latest with
  | none => return none
  | some (season, name) =>
    let rows ← within "failed to prepare roster query" (db.fetch engine LeagueQuery.roster [.text key, .integer season])
    let players ← within "failed to map roster rows" (rows.mapM (·.get 0 Cell.readText))
    return some ⟨key, name, season, distinctSorted players⟩

/-- The machines of a venue, sorted. -/
def venueMachines (db : Database) (engine : Engine) (venue : String) : StoreResult (List String) := do
  let rows ← within "failed to prepare venue machines query" (db.fetch engine LeagueQuery.venueMachines [.text venue])
  let machines ← within "failed to map venue machine rows" (rows.mapM (·.get 0 Cell.readText))
  return distinctSorted machines

/-- Machine names by key; of repeated keys the last row wins. -/
def machineNames (db : Database) (engine : Engine) : StoreResult (List (String × String)) := do
  let rows ← within "failed to prepare machine names query" (db.fetch engine LeagueQuery.machineNames [])
  let names ← within "failed to map machine name rows" (rows.mapM fun row => do
    return (← row.get 0 Cell.readText, ← row.get 1 Cell.readText))
  return lastPerKey names

/-- The league percentile per machine. -/
def leagueBaseline (db : Database) (engine : Engine) (p : Percentile) : StoreResult (List (String × Score)) := do
  let rows ← within "failed to prepare league baseline query" (db.fetch engine LeagueQuery.leagueScores [])
  let scores ← within "failed to map league score rows" (rows.mapM fun row => do
    return (← row.get 0 Cell.readText, ← row.get 1 Cell.readInteger))
  return buildBaseline scores p

/-- The score rows of a cohort, on one machine and at one venue when given; none for an empty
cohort, without asking the database. -/
def cohortScores (db : Database) (engine : Engine) (cohort : List String) (machine venue : Option String) :
    StoreResult (List ScoreRow) := do
  if cohort.isEmpty then return []
  let statement := LeagueQuery.cohortStatement cohort machine venue
  let rows ← within "failed to prepare cohort score query" (db.fetch engine statement.1 statement.2)
  within "failed to map cohort score rows" (rows.mapM fun row => do
    return ⟨← row.get 0 Cell.readText, ← row.get 1 Cell.readText, ← row.get 2 Cell.readInteger⟩)

/-- The team a player was most recently rostered on. -/
def playerTeam (db : Database) (engine : Engine) (player : String) : StoreResult (Option PlayerTeam) :=
  within "failed to query player team" do
    match ← db.fetch engine LeagueQuery.playerTeam [.text player] with
    | [] => pure none
    | row :: _ => pure (some ⟨← row.get 0 Cell.readText, ← row.get 1 Cell.readText⟩)

/-- Whether a player has a roster row or a game result. -/
def playerKnown (db : Database) (engine : Engine) (player : String) : StoreResult Bool :=
  within "failed to check player existence" do
    match ← db.fetch engine LeagueQuery.playerKnown [.text player] with
    | [] => pure false
    | row :: _ => row.get 0 Cell.readBool

/-- Runs a listing query and reads its rows. -/
def listing {α : Type} (db : Database) (engine : Engine) (query : Query × List Cell) (read : ResultRow → Except Fault α) :
    StoreResult (List α) := do
  let rows ← within "failed to prepare listing query" (db.fetch engine query.1 query.2)
  within "failed to map listing rows" (rows.mapM read)

/-- The store that answers from a league database through an engine, by default this library's. -/
def store (db : Database) (engine : Engine := .reference) : Store where
  teamCohort := db.teamCohort engine
  venueMachines := db.venueMachines engine
  machineNames := db.machineNames engine
  leagueBaseline := db.leagueBaseline engine
  machineStats cohort venue limit := do
    return buildMachineStats (← db.cohortScores engine cohort none venue) limit
  playerStats cohort machine venue := do
    return buildPlayerStats ((← db.cohortScores engine cohort (some machine) venue).map fun r => (r.player, r.score))
  playerCurrentTeam := db.playerTeam engine
  playerKnown := db.playerKnown engine
  listTeams search := db.listing engine (LeagueQuery.teams search) fun row => do
    let key ← row.get 0 Cell.readText
    let name ← row.get 1 Cell.readText
    let season ← row.get 2 Cell.readSeason
    let venueKey ← row.get 3 Cell.readOptText
    let venueName ← row.get 4 Cell.readOptText
    return ⟨key, name, season, match venueKey, venueName with
      | some k, some n => some ⟨k, n⟩
      | _, _ => none⟩
  listVenues search := db.listing engine (LeagueQuery.venues search) fun row => do
    return ⟨← row.get 0 Cell.readText, ← row.get 1 Cell.readText⟩
  listMachines search := db.listing engine (LeagueQuery.machines search) fun row => do
    return ⟨← row.get 0 Cell.readText, ← row.get 1 Cell.readText⟩
  listPlayers search := db.listing engine (LeagueQuery.players search) fun row => do
    return ⟨← row.get 0 Cell.readText, ← row.get 1 Cell.readText, ← row.get 2 Cell.readText⟩

end Database

end PinballScout
