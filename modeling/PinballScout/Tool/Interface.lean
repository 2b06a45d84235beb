import PinballScout.CommandLine.Parse
import PinballScout.Analysis.Recommend

/-!
# The command line of the scouting tool

`mnp` runs one analysis or listing per call: `scout`, `matchup`, `recommend` and `player`
analyse, `teams`, `venues`, `machines` and `players` list. Every command takes the global
options `--config` (or `MNP_CONFIG`), `--db` (or `MNP_DB`), `--snapshot`, which cannot go
with `--db`, and `--log-level`.

`recommendMode` reads `--venue` and `--opponent` as a recommendation mode: an opponent takes
precedence, and the venue then narrows both sides.
-/

namespace PinballScout

open CommandLine

/-- What the tool is asked to do. -/
inductive Action where
  | scout (team : String) (venue : Option String)
  | matchup (venue team1 team2 : String)
  | recommend (team machine : String) (mode : RecommendMode)
  | player (name : String) (venue : Option String)
  | teams (search : Option String)
  | venues (search : Option String)
  | machines (search : Option String)
  | players (search : Option String)
  deriving DecidableEq, Repr

/-- A call of the tool: where its configuration and league come from, and what to do. -/
structure Invocation where
  /-- An explicit configuration file. -/
  config : Option String
  /-- A league database, instead of the configured one. -/
  db : Option String
  /-- A league snapshot file, instead of a database. -/
  snapshot : Option String
  /-- How much to log. -/
  logLevel : Option String
  action : Action
  deriving DecidableEq, Repr

/-- The recommendation mode of `--venue` and `--opponent`. -/
def recommendMode (venue opponent : Option String) : RecommendMode :=
  match opponent, venue with
  | some o, v => .vsOpponent o v
  | none, some v => .atVenue v
  | none, none => .basic

namespace Tool

/-- An option with a value placeholder, help and place, without environment or choices. -/
def option (long valueName help : String) (order : Nat) : Opt := ⟨long, valueName, help, none, [], order⟩

/-- `--venue` restricting an analysis to the machines at a venue. -/
def venueOption : Opt := option "venue" "VENUE" "Restrict to the machines at this venue" 0

/-- The optional search term of a listing. -/
def search (help : String) : Positional := ⟨"SEARCH", help, false⟩

/-- The global options. -/
def globals : List Opt :=
  [⟨"config", "CONFIG", "Config file (default: platform config dir, e.g. ~/.config/mnp/mnp.toml)",
      some "MNP_CONFIG", [], 0⟩,
   ⟨"db", "DB", "League database (overrides [database].path)", some "MNP_DB", [], 1⟩,
   option "snapshot" "SNAPSHOT" "Read a JSON league snapshot instead of the database" 2,
   ⟨"log-level", "LOG_LEVEL", "Log level (error, warn, info, debug, trace). Overrides RUST_LOG",
      none, ["error", "warn", "info", "debug", "trace"], 3⟩]

/-- The subcommands. -/
def commands : List Subcommand :=
  [⟨"scout", "A team's performance on every machine it has played", [venueOption],
      [⟨"TEAM", "Team key (e.g. TTT)", true⟩]⟩,
   ⟨"matchup", "Two teams head-to-head on a venue's machines", [],
      [⟨"VENUE", "Venue key", true⟩, ⟨"TEAM1", "First team key; positive edges favor this team", true⟩,
       ⟨"TEAM2", "Second team key", true⟩]⟩,
   ⟨"recommend", "Which players should play a machine",
      [option "venue" "VENUE" "Only count games at this venue" 0,
       option "opponent" "OPPONENT" "Compare against this team's players" 1],
      [⟨"TEAM", "Team key", true⟩, ⟨"MACHINE", "Machine key (e.g. TAF)", true⟩]⟩,
   ⟨"player", "One player's performance on every machine they have played", [venueOption],
      [⟨"NAME", "Player name, exactly as recorded", true⟩]⟩,
   ⟨"teams", "List current-season teams", [], [search "Search term (matches key or name)"]⟩,
   ⟨"venues", "List venues", [], [search "Search term (matches key or name)"]⟩,
   ⟨"machines", "List machines that have been played", [], [search "Search term (matches key or name)"]⟩,
   ⟨"players", "List current-season players", [],
      [search "Search term (matches player name, team key, or team name)"]⟩]

/-- Examples shown after the listings of the help. -/
def examples : String :=
  "Examples:\n" ++
  "  mnp teams trash                       Find a team key by name\n" ++
  "  mnp scout TTT                         A team's machines, strongest first\n" ++
  "  mnp scout TTT --venue STN             Only the machines at STN\n" ++
  "  mnp matchup STN TTT KNR               TTT vs KNR on STN's machines\n" ++
  "  mnp recommend TTT TAF --opponent KNR  Who should play TAF against KNR\n" ++
  "  mnp player \"Alice\" --venue STN        One player's record at STN"

/-- The command line of the tool. -/
def program : Program where
  name := "mnp"
  version := "0.1.0"
  about := "Pinball league scouting and lineup analysis"
  longAbout := some ("Pinball league scouting and lineup analysis.\n\n" ++
    "Every command prints its report as JSON on stdout. Logs go to stderr.")
  afterHelp := examples
  globals := globals
  commands := commands
  conflicts := [("snapshot", "db")]

end Tool

namespace Invocation

/-- The call a command line read in full describes. -/
def ofMatches (m : Matches) : Invocation :=
  let at_ (i : Nat) : String := m.values.getD i ""
  let action : Action := match m.command.name with
    | "scout" => .scout (at_ 0) (m.option? "venue")
    | "matchup" => .matchup (at_ 0) (at_ 1) (at_ 2)
    | "recommend" => .recommend (at_ 0) (at_ 1) (recommendMode (m.option? "venue") (m.option? "opponent"))
    | "player" => .player (at_ 0) (m.option? "venue")
    | "teams" => .teams m.values.head?
    | "venues" => .venues m.values.head?
    | "machines" => .machines m.values.head?
    | _ => .players m.values.head?
  ⟨m.option? "config", m.option? "db", m.option? "snapshot", m.option? "log-level", action⟩

end Invocation

/-- Reads the command line of the tool: the call, or a text to show. -/
def Invocation.parse (env : Env) (args : List String) : Except Stop Invocation :=
  (Tool.program.parse env args).map Invocation.ofMatches

end PinballScout
