import PinballScout.Relational.Script

/-!
# The league database schema

The tables a league database holds, as the script that creates them. Team keys repeat across
seasons, possibly with a new roster; a game result's score is empty for a game that was never
finished, and a game's machine may be unknown.
-/

namespace PinballScout

/-- The script that creates the league tables and their indexes. -/
def leagueSchema : String :=
  "PRAGMA foreign_keys = ON;
  CREATE TABLE IF NOT EXISTS machines (
      key  TEXT PRIMARY KEY,
      name TEXT NOT NULL
  );
  CREATE TABLE IF NOT EXISTS seasons (
      id     INTEGER PRIMARY KEY,
      number INTEGER NOT NULL UNIQUE
  );
  CREATE TABLE IF NOT EXISTS players (
      id   INTEGER PRIMARY KEY,
      name TEXT NOT NULL UNIQUE
  );
  CREATE TABLE IF NOT EXISTS venues (
      id   INTEGER PRIMARY KEY,
      key  TEXT NOT NULL UNIQUE,
      name TEXT NOT NULL
  );
  CREATE TABLE IF NOT EXISTS teams (
      id            INTEGER PRIMARY KEY,
      key           TEXT NOT NULL,
      name          TEXT NOT NULL,
      season_id     INTEGER NOT NULL REFERENCES seasons(id),
      home_venue_id INTEGER REFERENCES venues(id),
      UNIQUE(key, season_id)
  );
  CREATE TABLE IF NOT EXISTS venue_machines (
      venue_id    INTEGER NOT NULL REFERENCES venues(id),
      machine_key TEXT NOT NULL REFERENCES machines(key),
      season_id   INTEGER NOT NULL REFERENCES seasons(id),
      PRIMARY KEY (venue_id, machine_key, season_id)
  );
  CREATE TABLE IF NOT EXISTS rosters (
      player_id INTEGER NOT NULL REFERENCES players(id),
      team_id   INTEGER NOT NULL REFERENCES teams(id),
      role      TEXT NOT NULL DEFAULT 'P',
      PRIMARY KEY (player_id, team_id)
  );
  CREATE TABLE IF NOT EXISTS matches (
      id           INTEGER PRIMARY KEY,
      key          TEXT NOT NULL UNIQUE,
      season_id    INTEGER NOT NULL REFERENCES seasons(id),
      week         INTEGER NOT NULL,
      home_team_id INTEGER NOT NULL REFERENCES teams(id),
      away_team_id INTEGER NOT NULL REFERENCES teams(id),
      venue_id     INTEGER REFERENCES venues(id)
  );
  CREATE TABLE IF NOT EXISTS games (
      id          INTEGER PRIMARY KEY,
      match_id    INTEGER NOT NULL REFERENCES matches(id),
      round       INTEGER NOT NULL,
      machine_key TEXT
  );
  CREATE TABLE IF NOT EXISTS game_results (
      game_id   INTEGER NOT NULL REFERENCES games(id),
      player_id INTEGER NOT NULL REFERENCES players(id),
      team_id   INTEGER NOT NULL REFERENCES teams(id),
      position  INTEGER NOT NULL,
      score     INTEGER,
      PRIMARY KEY (game_id, player_id)
  );
  CREATE INDEX IF NOT EXISTS idx_game_results_player ON game_results(player_id);
  CREATE INDEX IF NOT EXISTS idx_games_machine ON games(machine_key);
  CREATE INDEX IF NOT EXISTS idx_teams_season ON teams(season_id);"

/-- An empty league database with the league tables, or why the script failed. -/
def Database.league : Except String Database := (Database.tables []).runScript leagueSchema

end PinballScout
