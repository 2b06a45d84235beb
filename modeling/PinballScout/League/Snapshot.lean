import PinballScout.Json.Shape
import PinballScout.Stats.Group

/-!
# League snapshots

A league snapshot holds every fact the analyses read: machine and venue names, the machines
each venue has had, the name of each team key in each season, the roster memberships and the
recorded scores.

A snapshot is read from a JSON document checked against `League.shape`: name tables are
objects from key to name, each venue's machines a sequence (kept as a sorted set), and team
seasons, roster memberships and scores sequences of records. The venue names may be left out,
and so may a team's home venue.
-/

namespace PinballScout

/-- One player's score on one game. -/
structure ScoreRecord where
  player : String
  /-- The team key the player represented when the game was played. -/
  teamKey : String
  season : Nat
  machineKey : String
  /-- The venue of the match the game belonged to. -/
  venueKey : String
  score : Score
  deriving DecidableEq, Repr

/-- A player's membership on a team key for one season. -/
structure RosterMembership where
  player : String
  teamKey : String
  season : Nat
  deriving DecidableEq, Repr

/-- The display name of a team key in one season; names can change while the key stays. -/
structure TeamSeason where
  key : String
  season : Nat
  name : String
  /-- The venue the team hosts its home matches at. -/
  homeVenue : Option String
  deriving DecidableEq, Repr

/-- A complete league snapshot. The name tables and the lineups are maps from keys: their keys
ascend, each once. -/
structure League where
  /-- Machine key and display name. -/
  machines : List (String × String)
  /-- Venue key and display name. -/
  venues : List (String × String)
  /-- Venue key and the sorted set of machine keys ever installed there. -/
  venueMachines : List (String × List String)
  teams : List TeamSeason
  rosters : List RosterMembership
  scores : List ScoreRecord
  machines_ascending : KeysAscending machines
  venues_ascending : KeysAscending venues
  venueMachines_ascending : KeysAscending venueMachines
  deriving Repr

/-! ### Shapes -/

/-- A team season: key, season, name and an optional home venue. -/
def TeamSeason.shape : Shape :=
  .record "TeamSeason"
    [("key", .text, none), ("season", .uint32, none), ("name", .text, none),
      ("home_venue", .optional .text, some .null)]

/-- A roster membership: player, team key and season. -/
def RosterMembership.shape : Shape :=
  .record "RosterMembership"
    [("player", .text, none), ("team_key", .text, none), ("season", .uint32, none)]

/-- A score record. -/
def ScoreRecord.shape : Shape :=
  .record "ScoreRecord"
    [("player", .text, none), ("team_key", .text, none), ("season", .uint32, none),
      ("machine_key", .text, none), ("venue_key", .text, none), ("score", .int64, none)]

/-- A league snapshot; the venue names default to none. -/
def League.shape : Shape :=
  .record "LeagueData"
    [("machines", .dict .text, none), ("venues", .dict .text, some (.object [])),
      ("venue_machines", .dict (.list .text), none), ("teams", .list TeamSeason.shape, none),
      ("rosters", .list RosterMembership.shape, none), ("scores", .list ScoreRecord.shape, none)]

/-! ### From checked documents -/

namespace Json

/-- The text of a member. -/
def textAt? (j : Json) (name : String) : Option String := (j.get? name).bind str?

/-- The integer of a member. -/
def intAt? (j : Json) (name : String) : Option Int := (j.get? name).bind int?

/-- The members of an object, each value read by `f`. -/
def entries? {α : Type} (f : Json → Option α) : Json → Option (List (String × α))
  | .object members => members.mapM fun (k, v) => (f v).map (k, ·)
  | _ => none

/-- The items of an array, each read by `f`. -/
def items? {α : Type} (f : Json → Option α) (j : Json) : Option (List α) := (arr? j).bind (·.mapM f)

end Json

/-- A team season from a document that fits `TeamSeason.shape`. -/
def TeamSeason.ofJson? (j : Json) : Option TeamSeason := do
  return ⟨← j.textAt? "key", (← j.intAt? "season").toNat, ← j.textAt? "name", j.textAt? "home_venue"⟩

/-- A roster membership from a document that fits `RosterMembership.shape`. -/
def RosterMembership.ofJson? (j : Json) : Option RosterMembership := do
  return ⟨← j.textAt? "player", ← j.textAt? "team_key", (← j.intAt? "season").toNat⟩

/-- A score record from a document that fits `ScoreRecord.shape`. -/
def ScoreRecord.ofJson? (j : Json) : Option ScoreRecord := do
  return ⟨← j.textAt? "player", ← j.textAt? "team_key", (← j.intAt? "season").toNat,
    ← j.textAt? "machine_key", ← j.textAt? "venue_key", ← j.intAt? "score"⟩

/-- A league from a document that fits `League.shape`. Each table keeps the last entry of a key,
in key order: the maps of a decoded document are already so, and the league's type asks it. -/
def League.ofJson? (j : Json) : Option League := do
  let machines ← (j.get? "machines").bind (Json.entries? Json.str?)
  let venues ← (j.get? "venues").bind (Json.entries? Json.str?)
  let lineups ← (j.get? "venue_machines").bind (Json.entries? (Json.items? Json.str?))
  return {
    machines := lastPerKey machines
    venues := lastPerKey venues
    venueMachines := lastPerKey (lineups.map fun (k, ms) => (k, distinctSorted ms))
    teams := ← (j.get? "teams").bind (Json.items? TeamSeason.ofJson?)
    rosters := ← (j.get? "rosters").bind (Json.items? RosterMembership.ofJson?)
    scores := ← (j.get? "scores").bind (Json.items? ScoreRecord.ofJson?)
    machines_ascending := lastPerKey_ascending machines
    venues_ascending := lastPerKey_ascending venues
    venueMachines_ascending := lastPerKey_ascending _ }

/-- Reads a checked document with `read`, failing with `fault` if it does not convert. -/
def fromChecked {α ε : Type} (fault : ε) (read : Json → Option α) (j : Json) : Except ε α :=
  match read j with
  | some a => .ok a
  | none => .error fault

/-- A league from a parsed JSON value, or the decoding fault. -/
def League.decode (j : Json) : Except String League := do
  fromChecked "invalid league" League.ofJson? (← League.shape.decode j)

/-- A league from JSON text, or the reading fault with its place. -/
def League.readText (text : String) : Except Json.Error League := do
  fromChecked (Json.Error.custom "invalid league") League.ofJson? (← League.shape.readText text)

/-- Team seasons from a parsed JSON value. -/
def TeamSeason.decodeList (j : Json) : Except String (List TeamSeason) := do
  fromChecked "invalid teams" (Json.items? TeamSeason.ofJson?) (← (Shape.list TeamSeason.shape).decode j)

/-- Roster memberships from a parsed JSON value. -/
def RosterMembership.decodeList (j : Json) : Except String (List RosterMembership) := do
  fromChecked "invalid rosters" (Json.items? RosterMembership.ofJson?)
    (← (Shape.list RosterMembership.shape).decode j)

end PinballScout
