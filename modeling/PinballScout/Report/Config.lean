import PinballScout.Config.Read
import PinballScout.Json.Basic

/-!
# Writing a configuration as JSON

A configuration is written with the names of its file: the analysis tunables with their copy
of the thresholds, the thresholds, and the database path.
-/

namespace PinballScout

/-- `{"medium_games", "high_games"}`. -/
def Thresholds.toJson (t : Thresholds) : Json :=
  .object [("medium_games", .float t.medium), ("high_games", .float t.high)]

/-- `{"likely_players", "min_games", "summary_size", "verdict_margin", "confidence"}`. -/
def AnalysisConfig.toJson (a : AnalysisConfig) : Json :=
  .object [("likely_players", .nat a.likelyPlayers), ("min_games", .nat a.minGames),
    ("summary_size", .nat a.summarySize), ("verdict_margin", .int a.verdictMargin),
    ("confidence", a.confidence.toJson)]

/-- `{"analysis", "confidence", "database": {"path"}}`. -/
def Config.toJson (c : Config) : Json :=
  .object [("analysis", c.analysis.toJson), ("confidence", c.confidence.toJson),
    ("database", .object [("path", .string c.databasePath)])]

end PinballScout
