import PinballScout.Config.Basic
import PinballScout.Toml.Read
import PinballScout.Json.Shape

/-!
# Reading a configuration file

A configuration file is a TOML document with three optional tables, `[analysis]`,
`[confidence]` and `[database]`. A missing table or key keeps its default and an unknown key is
ignored; the tables are read in the order the document defines them, and the first value of
the wrong kind stops reading. Counts are non-negative integers, the margin an integer, the
thresholds numbers (an integer counts as a float) and the path a string.

Reading then copies the thresholds into the analysis tunables and validates the result. The
document is decoded by a TOML decoder, by default the one of this library.
-/

namespace PinballScout

namespace Toml

/-- How a decoding fault names a value of the wrong kind. -/
def Value.unexpected : Value → String
  | .string s _ => "string " ++ Json.debugQuote s
  | .integer i _ => "integer `" ++ toString i ++ "`"
  | .float x _ => "floating point `" ++ Decimal.Layout.quoted.render x ++ "`"
  | .bool b _ => "boolean `" ++ (if b then "true" else "false") ++ "`"
  | .datetime _ _ => "map"
  | .array _ _ => "sequence"
  | .table _ _ => "map"

/-- A fault of a value of the wrong kind. -/
def Value.mistyped (v : Value) (expected : String) : Error :=
  ⟨Json.invalidType v.unexpected expected, v.span⟩

/-- A count: a non-negative integer. -/
def Value.count : Value → Except Error Nat
  | .integer i span =>
    if 0 ≤ i then .ok i.toNat else .error ⟨Json.invalidValue ("integer `" ++ toString i ++ "`") "usize", span⟩
  | v => .error (v.mistyped "usize")

/-- A signed 64-bit integer; a document holds no other integers. -/
def Value.int64 : Value → Except Error Int
  | .integer i _ => .ok i
  | v => .error (v.mistyped "i64")

/-- A double; an integer is converted to the nearest one. -/
def Value.double : Value → Except Error Float
  | .integer i _ => .ok (Float.ofInt i)
  | .float x _ => .ok x
  | v => .error (v.mistyped "f64")

/-- A string. -/
def Value.text : Value → Except Error String
  | .string s _ => .ok s
  | v => .error (v.mistyped "a string")

/-- Reads a table into a record named `name`, starting from `init` and applying each entry in
order. -/
def Value.record {α : Type} (name : String) (init : α) (entry : α → String → Value → Except Error α) :
    Value → Except Error α
  | .table entries _ => entries.foldlM (fun a (k, v) => entry a k v) init
  | v => .error (v.mistyped ("struct " ++ name))

end Toml

open Toml

namespace Config

/-- Applies one entry of the `[analysis]` table. -/
def analysisEntry (a : AnalysisConfig) (k : String) (v : Value) : Except Error AnalysisConfig :=
  match k with
  | "likely_players" => return { a with likelyPlayers := ← v.count }
  | "min_games" => return { a with minGames := ← v.count }
  | "summary_size" => return { a with summarySize := ← v.count }
  | "verdict_margin" => return { a with verdictMargin := ← v.int64 }
  | _ => pure a

/-- Applies one entry of the `[confidence]` table. -/
def confidenceEntry (t : Thresholds) (k : String) (v : Value) : Except Error Thresholds :=
  match k with
  | "medium_games" => return { t with medium := ← v.double }
  | "high_games" => return { t with high := ← v.double }
  | _ => pure t

/-- Applies one entry of the `[database]` table. -/
def databaseEntry (path : String) (k : String) (v : Value) : Except Error String :=
  match k with
  | "path" => v.text
  | _ => pure path

/-- Applies one entry of the document's root table. -/
def rootEntry (c : Config) (k : String) (v : Value) : Except Error Config :=
  match k with
  | "analysis" => return { c with analysis := ← v.record "AnalysisConfig" c.analysis analysisEntry }
  | "confidence" => return { c with confidence := ← v.record "ConfidenceConfig" c.confidence confidenceEntry }
  | "database" => return { c with databasePath := ← v.record "DatabaseConfig" c.databasePath databaseEntry }
  | _ => pure c

/-- The configuration a document's root table describes, before validation. -/
def ofToml (root : List (String × Value)) : Except Error Config :=
  root.foldlM (fun c (k, v) => rootEntry c k v) Config.default

/-- The configuration with the analysis thresholds copied from the top-level ones. -/
def shareThresholds (c : Config) : Config :=
  { c with analysis := { c.analysis with confidence := c.confidence } }

end Config

/-- Why a configuration could not be loaded. -/
inductive ConfigError where
  /-- The file is missing or cannot be read. -/
  | fileNotFound (path : String)
  /-- The file is not TOML, or holds a value of the wrong kind; `text` is its content. -/
  | parse (path : String) (text : String) (fault : Toml.Error)
  /-- The configuration is not valid. -/
  | invalid (fault : Invalid)

namespace ConfigError

/-- The message of a configuration error. -/
def message : ConfigError → String
  | .fileNotFound path => "config file not found: " ++ path
  | .parse path text fault => "failed to parse config file " ++ path ++ ": " ++ fault.render text
  | .invalid fault => fault.message

/-- The messages of the faults behind a configuration error, outermost first. -/
def causes : ConfigError → List String
  | .parse _ text fault => [fault.render text]
  | _ => []

end ConfigError

/-- A TOML decoder: the root table of a document, or the fault where its text stops being TOML. -/
abbrev Toml.Decoder := String → Except Toml.Error (List (String × Toml.Value))

namespace Config

/-- Reads the configuration a file at `path` holds: its document, then validation. -/
def parse (path text : String) (decode : Toml.Decoder := Toml.parse) : Except ConfigError Config := do
  let root ← (decode text).mapError (ConfigError.parse path text)
  let c ← (ofToml root).mapError (ConfigError.parse path text)
  let c := c.shareThresholds
  (c.validate).mapError ConfigError.invalid
  return c

/-- Reads the configuration file at `path`, whose content is `content` (`none` when it cannot
be read). -/
def load (path : String) (content : Option String) (decode : Toml.Decoder := Toml.parse) :
    Except ConfigError Config :=
  match content with
  | some text => parse path text decode
  | none => .error (.fileNotFound path)

end Config

end PinballScout
