import PinballScout.Checks.Basic
import PinballScout.Store.Snapshot
import PinballScout.Store.Schema
import PinballScout.Store.Database

/-!
# Leagues for the checks

Two small leagues the checks run against, and the league database that mirrors the first.

- `smallLeague`: in season 23, TTT (Alice, Bob) hosts KNR (Carol, Dave, Erin) at STN. Erin is
  rostered but has never played. Zed played for TTT in season 10, when the key belonged to a
  different roster. Every game was played at STN.
- `fullLeague`: the same teams with games at GPA too, so that TTT has three games on each of
  four machines. Dave, now on KNR, played one TZ game for the season-10 TTT roster.
- `smallDatabase`: `smallLeague` as database rows, plus one game whose score was never
  entered.
-/

namespace PinballScout.Checks

/-- A score recorded at a venue. -/
def scoreAt (venue player teamKey : String) (season : Nat) (machine : String) (score : Score) :
    ScoreRecord :=
  ⟨player, teamKey, season, machine, venue, score⟩

/-- A roster membership. -/
def member (player teamKey : String) (season : Nat) : RosterMembership := ⟨player, teamKey, season⟩

/-- A team season with its home venue. -/
def teamAt (key : String) (season : Nat) (name home : String) : TeamSeason := ⟨key, season, name, some home⟩

/-- A name table or lineup with one entry set, kept in key order. -/
def setKey {α : Type} (k : String) (v : α) (table : List (String × α)) : List (String × α) :=
  lastPerKey (table ++ [(k, v)])

/-- A league with one more machine installed at a venue. -/
def installAt (league : League) (venue machine : String) : League :=
  let lineup := (league.venueMachines.lookup venue).getD []
  { league with
    venueMachines := setKey venue (distinctSorted (machine :: lineup)) league.venueMachines
    venueMachines_ascending := lastPerKey_ascending _ }

/-- The small league: every game at STN. -/
def smallLeague : League where
  machines := [("MM", "Medieval Madness"), ("TAF", "The Addams Family"), ("TZ", "Twilight Zone")]
  venues := [("GPA", "Georgetown Pizza and Arcade"), ("STN", "Shorty's")]
  venueMachines := [("GPA", ["MM", "TZ"]), ("STN", ["TAF", "TZ"])]
  teams := [teamAt "TTT" 10 "Old Trashers" "STN", teamAt "TTT" 23 "The Trailer Trashers" "STN",
    teamAt "KNR" 23 "Knight Riders" "GPA"]
  rosters := [member "Zed" "TTT" 10, member "Alice" "TTT" 23, member "Bob" "TTT" 23,
    member "Carol" "KNR" 23, member "Dave" "KNR" 23, member "Erin" "KNR" 23]
  scores :=
    [scoreAt "STN" "Zed" "TTT" 10 "TAF" 9999,
     scoreAt "STN" "Alice" "TTT" 23 "TAF" 500,
     scoreAt "STN" "Bob" "TTT" 23 "TAF" 400,
     scoreAt "STN" "Carol" "KNR" 23 "TAF" 300,
     scoreAt "STN" "Dave" "KNR" 23 "TAF" 200,
     scoreAt "STN" "Alice" "TTT" 23 "TZ" 100,
     scoreAt "STN" "Carol" "KNR" 23 "TZ" 150,
     scoreAt "STN" "Bob" "TTT" 23 "TAF" 350,
     scoreAt "STN" "Dave" "KNR" 23 "TAF" 250,
     scoreAt "STN" "Alice" "TTT" 23 "MM" 600,
     scoreAt "STN" "Carol" "KNR" 23 "MM" 700]
  machines_ascending := by decide
  venues_ascending := by decide
  venueMachines_ascending := by decide

/-- The store of the small league. -/
def smallStore : Store := smallLeague.store

/-- The full league: games at STN and GPA. -/
def fullLeague : League where
  machines := [("AFM", "Attack from Mars"), ("MM", "Medieval Madness"), ("TAF", "The Addams Family"),
    ("TZ", "Twilight Zone")]
  venues := [("GPA", "Georgetown Pizza and Arcade"), ("STN", "Shorty's")]
  venueMachines := [("GPA", ["AFM", "MM", "TZ"]), ("STN", ["TAF", "TZ"])]
  teams := [teamAt "TTT" 10 "Old Trashers" "STN", teamAt "TTT" 23 "The Trailer Trashers" "STN",
    teamAt "KNR" 23 "Knight Riders" "GPA"]
  rosters := [member "Zed" "TTT" 10, member "Dave" "TTT" 10, member "Alice" "TTT" 23,
    member "Bob" "TTT" 23, member "Carol" "KNR" 23, member "Dave" "KNR" 23, member "Erin" "KNR" 23]
  scores :=
    [scoreAt "STN" "Zed" "TTT" 10 "TAF" 9999,
     scoreAt "STN" "Dave" "TTT" 10 "TZ" 180,
     scoreAt "STN" "Alice" "TTT" 23 "TAF" 500,
     scoreAt "STN" "Bob" "TTT" 23 "TAF" 400,
     scoreAt "STN" "Carol" "KNR" 23 "TAF" 300,
     scoreAt "STN" "Dave" "KNR" 23 "TAF" 200,
     scoreAt "STN" "Alice" "TTT" 23 "TZ" 100,
     scoreAt "STN" "Carol" "KNR" 23 "TZ" 150,
     scoreAt "STN" "Bob" "TTT" 23 "TAF" 350,
     scoreAt "STN" "Dave" "KNR" 23 "TAF" 250,
     scoreAt "STN" "Alice" "TTT" 23 "MM" 600,
     scoreAt "STN" "Carol" "KNR" 23 "MM" 700,
     scoreAt "GPA" "Bob" "TTT" 23 "TZ" 120,
     scoreAt "GPA" "Bob" "TTT" 23 "TZ" 130,
     scoreAt "GPA" "Dave" "KNR" 23 "TZ" 200,
     scoreAt "GPA" "Bob" "TTT" 23 "MM" 500,
     scoreAt "GPA" "Alice" "TTT" 23 "MM" 700,
     scoreAt "GPA" "Carol" "KNR" 23 "MM" 800,
     scoreAt "GPA" "Alice" "TTT" 23 "AFM" 2000,
     scoreAt "GPA" "Bob" "TTT" 23 "AFM" 1000,
     scoreAt "GPA" "Alice" "TTT" 23 "AFM" 1500,
     scoreAt "GPA" "Carol" "KNR" 23 "AFM" 3000]
  machines_ascending := by decide
  venues_ascending := by decide
  venueMachines_ascending := by decide

/-- The store of the full league. -/
def fullStore : Store := fullLeague.store

/-- The rows of the small league, and one game (TZ for Dave) whose score was never entered. -/
def smallRows : String :=
  "INSERT INTO machines (key, name) VALUES
      ('TAF', 'The Addams Family'),
      ('TZ',  'Twilight Zone'),
      ('MM',  'Medieval Madness');
  INSERT INTO seasons (id, number) VALUES (1, 10), (2, 23);
  INSERT INTO venues (id, key, name) VALUES
      (1, 'STN', 'Shorty''s'),
      (2, 'GPA', 'Georgetown Pizza and Arcade');
  INSERT INTO players (id, name) VALUES
      (1, 'Alice'), (2, 'Bob'), (3, 'Carol'), (4, 'Dave'), (5, 'Erin'), (6, 'Zed');
  INSERT INTO teams (id, key, name, season_id, home_venue_id) VALUES
      (1, 'TTT', 'Old Trashers', 1, 1),
      (2, 'TTT', 'The Trailer Trashers', 2, 1),
      (3, 'KNR', 'Knight Riders', 2, 2);
  INSERT INTO venue_machines (venue_id, machine_key, season_id) VALUES
      (1, 'TAF', 2), (1, 'TZ', 2), (2, 'MM', 2), (2, 'TZ', 2);
  INSERT INTO rosters (player_id, team_id) VALUES
      (6, 1), (1, 2), (2, 2), (3, 3), (4, 3), (5, 3);
  INSERT INTO matches (id, key, season_id, week, home_team_id, away_team_id, venue_id) VALUES
      (1, 'mnp-10-1-TTT-TTT', 1, 1, 1, 1, 1),
      (2, 'mnp-23-1-KNR-TTT', 2, 1, 2, 3, 1);
  INSERT INTO games (id, match_id, round, machine_key) VALUES
      (1, 1, 1, 'TAF'),
      (2, 2, 1, 'TAF'),
      (3, 2, 2, 'TZ'),
      (4, 2, 3, 'TAF'),
      (5, 2, 4, 'MM'),
      (6, 2, 2, 'TZ');
  INSERT INTO game_results (game_id, player_id, team_id, position, score) VALUES
      (1, 6, 1, 1, 9999),
      (2, 1, 2, 1, 500), (2, 2, 2, 2, 400), (2, 3, 3, 3, 300), (2, 4, 3, 4, 200),
      (3, 1, 2, 1, 100), (3, 3, 3, 2, 150),
      (4, 2, 2, 1, 350), (4, 4, 3, 2, 250),
      (5, 1, 2, 1, 600), (5, 3, 3, 2, 700),
      (6, 4, 3, 1, NULL);"

/-- The small league as a database, or why it could not be built. -/
def smallDatabase : Except String Database := do
  (← Database.league).runScript smallRows

/-- The store of the small league's database, or why it could not be built. -/
def smallDatabaseStore : Except String Store := smallDatabase.map Database.store

end PinballScout.Checks
