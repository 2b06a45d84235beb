import PinballScout.Json.Basic
import PinballScout.Compare.Edge
import PinballScout.Compare.Confidence
import PinballScout.Analysis.Verdict

/-!
# Writing results as JSON

Every result type has one JSON shape, with the member names a report reader expects:
snake-case names, `null` for an absent optional value, and tagged enumerations
(`{"kind": "Percent", "value": 12.5}`).
-/

namespace PinballScout

/-- `{"games", "p50", "p90"}`. -/
def AggregateStat.toJson (s : AggregateStat) : Json :=
  .object [("games", .nat s.games), ("p50", .int s.p50), ("p90", .int s.p90)]

/-- `{"name", "games", "p50"}`. -/
def LikelyPlayer.toJson (p : LikelyPlayer) : Json :=
  .object [("name", .string p.name), ("games", .nat p.games), ("p50", .int p.p50)]

/-- `{"name", "stat"}`. -/
def PlayerStats.toJson (p : PlayerStats) : Json :=
  .object [("name", .string p.name), ("stat", p.stat.toJson)]

/-- `{"machine_key", "stat", "likely_players"}`. -/
def MachineStats.toJson (m : MachineStats) : Json :=
  .object [("machine_key", .string m.machineKey), ("stat", m.stat.toJson),
    ("likely_players", .array (m.likelyPlayers.map LikelyPlayer.toJson))]

/-- A side by name. -/
def Side.toJson (s : Side) : Json := .string s.name

/-- `{"kind": "Even"}`, `{"kind": "Lopsided", "value": side}` or
`{"kind": "Percent", "value": number}`. -/
def Edge.toJson : Edge → Json
  | .even => .object [("kind", .string "Even")]
  | .lopsided side => .object [("kind", .string "Lopsided"), ("value", side.toJson)]
  | .percent p => .object [("kind", .string "Percent"), ("value", .float p)]

/-- A confidence level by name. -/
def Confidence.toJson (c : Confidence) : Json := .string c.name

/-- A verdict by name. -/
def Verdict.toJson (v : Verdict) : Json := .string v.name

/-- `{"our_best", "their_best", "diff", "verdict"}`. -/
def Assessment.toJson (a : Assessment) : Json :=
  .object [("our_best", .string a.ourBest), ("their_best", .string a.theirBest),
    ("diff", .int a.diff), ("verdict", a.verdict.toJson)]

/-- An object with one member per key, in the given order. -/
def keyedJson {α : Type} (f : α → Json) (entries : List (String × α)) : Json :=
  .object (entries.map fun (k, v) => (k, f v))

end PinballScout
