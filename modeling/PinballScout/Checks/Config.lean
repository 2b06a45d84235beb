import PinballScout.Checks.Basic
import PinballScout.Tool.Run

/-!
# Checks of the configuration

Defaults, overrides and the validation of configuration files.
-/

namespace PinballScout.Checks.Settings

/-- Reads a configuration file named `test.toml`. -/
def read (text : String) : Except ConfigError Config := Config.parse "test.toml" text

/-- Whether reading fails validation on this field. -/
def rejectsField (text field : String) : Bool :=
  match read text with
  | .error (.invalid fault) => fault.field == field
  | _ => false

/-- Whether reading fails validation. -/
def rejects (text : String) : Bool :=
  match read text with
  | .error (.invalid _) => true
  | _ => false

/-- Whether two thresholds are equal. -/
def sameThresholds (a b : Thresholds) : Bool := a.medium == b.medium && a.high == b.high

/-- An empty file gives the defaults. -/
def emptyFile : Check := fun _ =>
  match read "" with
  | .ok c =>
    c.analysis.likelyPlayers == 2 && c.analysis.minGames == 3 && c.analysis.summarySize == 3 &&
      c.analysis.verdictMargin == 1000000 && sameThresholds c.analysis.confidence Thresholds.default &&
      c.databasePath == "mnp.db"
  | .error _ => false

/-- A full file sets every value. -/
def fullFile : Check := fun _ =>
  let text := "
            [analysis]
            likely_players = 3
            min_games = 5
            summary_size = 4
            verdict_margin = 2500000

            [confidence]
            medium_games = 4.0
            high_games = 12.5

            [database]
            path = \"/tmp/league.db\"
            "
  match read text with
  | .ok c =>
    let epsilon := 2.220446049250313e-16
    c.analysis.likelyPlayers == 3 && c.analysis.minGames == 5 && c.analysis.summarySize == 4 &&
      c.analysis.verdictMargin == 2500000 && (c.analysis.confidence.medium - 4.0).abs < epsilon &&
      (c.analysis.confidence.high - 12.5).abs < epsilon && c.databasePath == "/tmp/league.db"
  | .error _ => false

/-- Zero likely players are refused. -/
def zeroLikelyPlayers : Check := fun _ => rejectsField "[analysis]\nlikely_players = 0\n" "analysis.likely_players"

/-- A negative margin is refused. -/
def negativeMargin : Check := fun _ => rejectsField "[analysis]\nverdict_margin = -1\n" "analysis.verdict_margin"

/-- A high threshold below the medium one is refused. -/
def invertedThresholds : Check := fun _ =>
  rejectsField "[confidence]\nmedium_games = 8.0\nhigh_games = 5.0\n" "confidence.high_games"

/-- Thresholds that are not finite are refused. -/
def nonFiniteThresholds : Check := fun _ =>
  rejectsField "[confidence]\nmedium_games = nan\n" "confidence.medium_games" &&
    rejectsField "[confidence]\nhigh_games = nan\n" "confidence.high_games" &&
    rejects "[confidence]\nhigh_games = inf\n"

/-- A blank database path is refused. -/
def blankPath : Check := fun _ => rejects "[database]\npath = \"  \"\n"

/-- A file that is not TOML does not parse. -/
def invalidToml : Check := fun _ =>
  match read "[analysis\nlikely_players = 2" with
  | .error (.parse _ _ _) => true
  | _ => false

/-- A missing file is not found. -/
def missingFile : Check := fun _ =>
  match Session.runWith (fun _ => .missing) (Config.loadFrom "/tmp/settings_missing/mnp.toml") with
  | .error (.fileNotFound _) => true
  | _ => false

/-- A file is read from its path. -/
def fileRead : Check := fun _ =>
  let path := "/tmp/settings_read/mnp.toml"
  let look := fun p => if p == path then Entry.text "[analysis]\nlikely_players = 1\n" else .missing
  match Session.runWith look (Config.loadFrom path) with
  | .ok c => c.analysis.likelyPlayers == 1
  | .error _ => false

end PinballScout.Checks.Settings
