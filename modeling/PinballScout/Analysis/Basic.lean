import PinballScout.Store.Basic
import PinballScout.Compare.Confidence
import PinballScout.Compare.Edge

/-!
# Analysis basics

What every analysis shares: its tunables, its errors, and the resolved team as reports show
it. An analysis fails when a team key or player is unknown, or when the store fails; an
arithmetic overflow stops it, as it stops the program.
-/

namespace PinballScout

/-- The tunables of the analyses. -/
structure AnalysisConfig where
  /-- How many players per machine count as a team's likely players. -/
  likelyPlayers : Nat
  /-- The games on a machine before it counts toward the strongest and weakest. -/
  minGames : Nat
  /-- The length of the strongest and weakest lists. -/
  summarySize : Nat
  /-- The median gap between best players beyond which a pick is strong or weak. -/
  verdictMargin : Score
  /-- Average-games thresholds for a matchup's confidence. -/
  confidence : Thresholds

/-- Two likely players, three games and three summary names, a margin of a million points,
and the default confidence thresholds. -/
def AnalysisConfig.default : AnalysisConfig := ⟨2, 3, 3, 1000000, Thresholds.default⟩

/-- Why an analysis failed. -/
inductive AnalysisError where
  | teamNotFound (key : String)
  | playerNotFound (name : String)
  | store (error : StoreError)
  /-- An arithmetic overflow, which stops the program with this message. -/
  | panic (message : String)
  deriving DecidableEq, Repr

/-- The message of an analysis error; a store error speaks for itself. -/
def AnalysisError.message : AnalysisError → String
  | .teamNotFound key => "no such team: " ++ key
  | .playerNotFound name => "no such player: " ++ name
  | .store e => e.message
  | .panic message => message

/-- The result of an analysis. -/
abbrev AnalysisResult (α : Type) := Except AnalysisError α

/-- A store answer inside an analysis. -/
def ask {α : Type} (answer : StoreResult α) : AnalysisResult α := answer.mapError .store

/-- A resolved team as a report shows it. -/
structure TeamRef where
  key : String
  name : String
  season : Nat
  deriving DecidableEq, Repr

/-- The reference to a resolved team. -/
def TeamCohort.ref (t : TeamCohort) : TeamRef := ⟨t.teamKey, t.teamName, t.season⟩

/-- Resolves a team key, failing when it is unknown. -/
def requireTeam (store : Store) (key : String) : AnalysisResult TeamCohort := do
  match ← ask (store.teamCohort key) with
  | some team => return team
  | none => throw (.teamNotFound key)

/-- The display name of a machine, or its key when unnamed. -/
def machineName (names : List (String × String)) (key : String) : String :=
  (names.lookup key).getD key

end PinballScout
