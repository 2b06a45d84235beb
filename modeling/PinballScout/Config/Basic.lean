import PinballScout.Analysis.Basic
import PinballScout.Decimal.Layout
import PinballScout.Text.Blank

/-!
# Configuration

The configuration of the tool: the tunables of the analyses, the confidence thresholds, and
where the league database lives. Every part has a default.

A configuration is valid when the three counts are positive, the verdict margin is not
negative, both thresholds are finite with `0 < medium ≤ high`, and the database path is not
blank. `Config.validate` runs the checks in that order and reports the first that fails: the
finiteness checks come before the comparisons, since a NaN threshold passes every comparison
written as a rejection.
-/

namespace PinballScout

/-- The configuration of the tool. -/
structure Config where
  /-- The tunables of the analyses; their thresholds are a copy of `confidence`. -/
  analysis : AnalysisConfig
  /-- The average-games thresholds for a matchup's confidence. -/
  confidence : Thresholds
  /-- Where the league database lives. -/
  databasePath : String

/-- The defaults: the default tunables and thresholds, and `mnp.db`. -/
def Config.default : Config := ⟨AnalysisConfig.default, Thresholds.default, "mnp.db"⟩

/-- Why a configuration is not valid. -/
inductive Invalid where
  /-- A count that must be positive is zero. -/
  | zeroCount (field : String)
  /-- The verdict margin is negative. -/
  | negativeMargin (margin : Int)
  /-- A threshold is infinite or not a number. -/
  | notFinite (field : String) (value : Float)
  /-- The medium threshold is not positive. -/
  | mediumNotPositive (medium : Float)
  /-- The high threshold is below the medium one. -/
  | highBelowMedium (medium high : Float)
  /-- The database path is blank. -/
  | blankPath

namespace Invalid

/-- The field at fault, as the configuration file names it. -/
def field : Invalid → String
  | .zeroCount f => f
  | .negativeMargin _ => "analysis.verdict_margin"
  | .notFinite f _ => f
  | .mediumNotPositive _ => "confidence.medium_games"
  | .highBelowMedium _ _ => "confidence.high_games"
  | .blankPath => "database.path"

/-- What is wrong with the field; numbers are written as plain decimals. -/
def detail : Invalid → String
  | .zeroCount _ => "must be > 0"
  | .negativeMargin m => "must be >= 0, got " ++ toString m
  | .notFinite _ v => "must be a finite number, got " ++ Decimal.Layout.display.render v
  | .mediumNotPositive m => "must be > 0, got " ++ Decimal.Layout.display.render m
  | .highBelowMedium m h =>
    "must be >= confidence.medium_games (" ++ Decimal.Layout.display.render m ++ "), got " ++
      Decimal.Layout.display.render h
  | .blankPath => "must not be empty"

/-- The message naming the field and the fault. -/
def message (i : Invalid) : String :=
  "validation error for field `" ++ i.field ++ "`: " ++ i.detail

end Invalid

/-- One check of a configuration: whether it passes, and the fault when it does not. -/
structure Check where
  passes : Bool
  fault : Invalid

namespace Config

/-- The checks of a configuration, in the order they are made. -/
def checks (c : Config) : List Check :=
  let a := c.analysis
  let t := c.confidence
  [⟨a.likelyPlayers != 0, .zeroCount "analysis.likely_players"⟩,
   ⟨a.minGames != 0, .zeroCount "analysis.min_games"⟩,
   ⟨a.summarySize != 0, .zeroCount "analysis.summary_size"⟩,
   ⟨decide (0 ≤ a.verdictMargin), .negativeMargin a.verdictMargin⟩,
   ⟨t.medium.isFinite, .notFinite "confidence.medium_games" t.medium⟩,
   ⟨t.high.isFinite, .notFinite "confidence.high_games" t.high⟩,
   ⟨!(t.medium ≤ 0.0), .mediumNotPositive t.medium⟩,
   ⟨!(t.high < t.medium), .highBelowMedium t.medium t.high⟩,
   ⟨!(Text.trimBlank c.databasePath).isEmpty, .blankPath⟩]

/-- Accepts a configuration, or reports the first check it fails. -/
def validate (c : Config) : Except Invalid Unit :=
  match c.checks.find? (!·.passes) with
  | some check => .error check.fault
  | none => .ok ()

end Config

end PinballScout
