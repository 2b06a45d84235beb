import PinballScout.Tool.Interface
import PinballScout.Tool.Files
import PinballScout.Tool.Failure
import PinballScout.Config.Read
import PinballScout.Store.Snapshot
import PinballScout.Store.Database
import PinballScout.Report.Analysis

/-!
# Running the tool

A call reads its command line, loads its configuration, opens its league and runs its action,
stopping at the first failure:

1. The command line may instead ask for help or the version (shown, status 0), or be refused
   (status 2).
2. The configuration is the named file, which must exist; without one, the user's file
   (`$XDG_CONFIG_HOME/mnp/mnp.toml`, else `$HOME/.config/mnp/mnp.toml`) when it exists, else
   the defaults.
3. The league is the snapshot when one is named, else the database named on the command line
   or in the configuration, which must be a regular file.
4. The action's report is printed as indented JSON (status 0); a failure is reported on the
   error stream (status 1).
-/

namespace PinballScout

/-- What a call shows: its exit status and its two output streams. -/
structure Outcome where
  status : Nat
  stdout : String
  stderr : String
  deriving DecidableEq, Repr

/-- The text of a file, or the operating system's reason it cannot be read as text. -/
def Entry.readText : Entry → Except String String
  | .text s => .ok s
  | .missing => .error "No such file or directory (os error 2)"
  | .directory => .error "Is a directory (os error 21)"
  | .throughFile => .error "Not a directory (os error 20)"
  | .binary | .database _ => .error "stream did not contain valid UTF-8"

/-- A configuration error as a failure. -/
def ConfigError.failure (e : ConfigError) : Failure := ⟨e.message, e.causes⟩

/-- A store error as a failure. -/
def StoreError.failure (e : StoreError) : Failure := ⟨e.message, e.causes⟩

/-- An analysis error as a failure; a store error speaks for itself. -/
def AnalysisError.failure : AnalysisError → Failure
  | .store e => e.failure
  | e => .plain e.message

/-- Loads the configuration file at `path`; a file that cannot be read as text counts as not
found. -/
def Config.loadFrom (path : String) : Session (Except ConfigError Config) := do
  let e ← Session.entry path
  return Config.load path e.readText.toOption

/-- Opens the league database at `path` without changing it; a path that is not a regular file
is missing. -/
def Store.openAt (path : String) : Session (StoreResult Store) := do
  let e ← Session.entry path
  if e.isFile then return .ok e.openDatabase.store
  return .error (.missing path)

namespace Tool

/-- The configuration file of the user, when a home directory is known. -/
def userConfigPath (env : CommandLine.Env) : Option String :=
  let home := (env "HOME").bind fun h => if h.isEmpty then none else some (h ++ "/.config")
  let dir := match env "XDG_CONFIG_HOME" with
    | some d => if d.startsWith "/" then some d else home
    | none => home
  dir.map (· ++ "/mnp/mnp.toml")

/-- Loads the configuration. -/
def loadConfig (env : CommandLine.Env) (named : Option String) : Session (Except Failure Config) := do
  match named with
  | some path =>
    return (← Config.loadFrom path).mapError fun err =>
      Failure.within ("failed to load config from " ++ path) err.failure
  | none =>
    match userConfigPath env with
    | none =>
      return .error (Failure.within "failed to load configuration"
        (.plain "could not determine a config directory for this platform"))
    | some path =>
      let e ← Session.entry path
      if !e.present then return .ok Config.default
      return (Config.load path e.readText.toOption).mapError fun err =>
        Failure.within "failed to load configuration" err.failure

/-- Opens the league: the snapshot, else the database. -/
def openStore (config : Config) (inv : Invocation) : Session (Except Failure Store) := do
  match inv.snapshot with
  | some path =>
    let e ← Session.entry path
    match e.readText with
    | .error reason => return .error (Failure.within ("failed to read snapshot " ++ path) (.plain reason))
    | .ok text =>
      match League.readText text with
      | .error fault => return .error (Failure.within ("failed to parse snapshot " ++ path) (.plain fault.message))
      | .ok league => return .ok league.store
  | none =>
    let path := inv.db.getD config.databasePath
    return (← Store.openAt path).mapError fun err =>
      Failure.within ("failed to open database at " ++ path) err.failure

/-- A listing as a JSON array. -/
def listingJson {α : Type} (f : α → Json) (answer : StoreResult (List α)) : Except Failure Json :=
  answer.map (fun xs => .array (xs.map f)) |>.mapError StoreError.failure

/-- Runs an action on a league, giving its report. -/
def perform (store : Store) (config : AnalysisConfig) : Action → Except Failure Json
  | .scout team venue => (scout store config team venue).map ScoutReport.toJson |>.mapError (·.failure)
  | .matchup venue team1 team2 =>
    (matchup store config venue team1 team2).map MatchupReport.toJson |>.mapError (·.failure)
  | .recommend team machine mode =>
    (recommend store config team machine mode).map RecommendReport.toJson |>.mapError (·.failure)
  | .player name venue => (profile store config name venue).map PlayerReport.toJson |>.mapError (·.failure)
  | .teams search => listingJson TeamListing.toJson (store.listTeams search)
  | .venues search => listingJson VenueListing.toJson (store.listVenues search)
  | .machines search => listingJson MachineListing.toJson (store.listMachines search)
  | .players search => listingJson PlayerListing.toJson (store.listPlayers search)

/-- A failed call. -/
def failed (f : Failure) : Outcome := ⟨1, "", f.render⟩

/-- One call of the tool with these command-line arguments, in this environment. -/
def run (env : CommandLine.Env) (args : List String) : Session Outcome := do
  match Invocation.parse env args with
  | .error (.show text) => return ⟨0, text, ""⟩
  | .error (.refuse text) => return ⟨2, "", text⟩
  | .ok inv =>
    match ← loadConfig env inv.config with
    | .error f => return failed f
    | .ok config =>
      match ← openStore config inv with
      | .error f => return failed f
      | .ok store =>
        match perform store config.analysis inv.action with
        | .error f => return failed f
        | .ok report => return ⟨0, report.pretty ++ "\n", ""⟩

end Tool

end PinballScout
