import PinballScout.Checks.Basic
import PinballScout.Tool.Interface

/-!
# Checks of the command line

The description of the command line and how calls are read.
-/

namespace PinballScout.Checks.Calls

/-- Reads a command line without environment variables. -/
def readCall (args : List String) : Except CommandLine.Stop Invocation :=
  Invocation.parse (fun _ => none) args

/-- The description of the command line is consistent. -/
def consistent : Check := fun _ => Tool.program.consistent

/-- The matchup takes three positional arguments. -/
def matchupPositionals : Check := fun _ =>
  match readCall ["matchup", "STN", "TTT", "KNR"] with
  | .ok inv => inv.action == .matchup "STN" "TTT" "KNR"
  | .error _ => false

/-- A listing's search is optional. -/
def optionalSearch : Check := fun _ =>
  (match readCall ["teams"] with
    | .ok inv => inv.action == .teams none
    | .error _ => false) &&
  (match readCall ["players", "knight"] with
    | .ok inv => inv.action == .players (some "knight")
    | .error _ => false)

/-- Global options may follow the subcommand. -/
def globalsAfterCommand : Check := fun _ =>
  match readCall ["scout", "TTT", "--db", "league.db", "--log-level", "debug"] with
  | .ok inv => inv.db == some "league.db" && inv.logLevel == some "debug"
  | .error _ => false

/-- A snapshot and a database cannot both be named. -/
def snapshotOrDatabase : Check := fun _ =>
  match readCall ["scout", "TTT", "--db", "a.db", "--snapshot", "league.json"] with
  | .ok _ => false
  | .error _ => true

/-- The recommendation mode follows the flags. -/
def modeFromFlags : Check := fun _ =>
  recommendMode none none == .basic && recommendMode (some "STN") none == .atVenue "STN" &&
    recommendMode (some "STN") (some "KNR") == .vsOpponent "KNR" (some "STN")

end PinballScout.Checks.Calls
