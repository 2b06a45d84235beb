import PinballScout.Analysis.Basic

/-!
# Machine rows and strength summaries

A machine row is a cohort's aggregate on one machine measured against the league: the
league median there (when any current player has played it) and the relative strength of the
cohort's median against it (zero without a baseline). In venue mode the global rows of
machines the cohort never played at the venue are flagged.

The summary ranks the machines with enough games by relative strength, strongest first (a
stable sort, so ties keep row order). It names the first `summarySize` of them, and, only when
more machines qualify than that, the last `summarySize` weakest first.
-/

namespace PinballScout

/-- One machine's numbers measured against the league. -/
structure MachineReport where
  machineKey : String
  machineName : String
  games : Nat
  p50 : Score
  p90 : Score
  /-- The league median on this machine, if any current player has played it. -/
  leagueP50 : Option Score
  /-- Percent above or below the league median; zero without one. -/
  relativeStrength : Float
  likelyPlayers : List LikelyPlayer
  /-- Set on global rows in venue mode when the cohort has no games at the venue. -/
  noVenueData : Bool

/-- The machine row of an aggregate, with its name and the league baseline. -/
def MachineStats.report (baseline : List (String × Score)) (names : List (String × String))
    (s : MachineStats) : MachineReport :=
  let league := baseline.lookup s.machineKey
  { machineKey := s.machineKey
    machineName := machineName names s.machineKey
    games := s.stat.games
    p50 := s.stat.p50
    p90 := s.stat.p90
    leagueP50 := league
    relativeStrength := relativeStrength (Float.ofInt s.stat.p50) (Float.ofInt (league.getD 0))
    likelyPlayers := s.likelyPlayers
    noVenueData := false }

/-- Machine rows of aggregates, in the same order. -/
def enrich (stats : List MachineStats) (baseline : List (String × Score))
    (names : List (String × String)) : List MachineReport :=
  stats.map (·.report baseline names)

/-- The aggregates of machines in a venue's set. -/
def restrictTo (stats : List MachineStats) (machines : List String) : List MachineStats :=
  stats.filter (machines.contains ·.machineKey)

/-- Flags the global rows whose machine has no row at the venue. -/
def markNoVenueData (global venue : List MachineReport) : List MachineReport :=
  global.map fun r => { r with noVenueData := !(venue.any (·.machineKey == r.machineKey)) }

/-- Machine names ranked by relative strength. -/
structure StrengthSummary where
  strongest : List String
  /-- Weakest first; only filled when more machines qualify than fit in `strongest`. -/
  weakest : List String
  deriving DecidableEq, Repr

/-- Whether row `a` may stand before row `b`: a relative strength that is not lower. -/
def MachineReport.stronger (a b : MachineReport) : Bool := !(a.relativeStrength < b.relativeStrength)

/-- Ranks the rows with at least `minGames` games by relative strength. -/
def summarize (rows : List MachineReport) (config : AnalysisConfig) : StrengthSummary :=
  let ranked := (rows.filter (config.minGames ≤ ·.games)).mergeSort MachineReport.stronger
  let n := config.summarySize
  { strongest := (ranked.take n).map (·.machineName)
    weakest := if n < ranked.length then (ranked.reverse.take n).map (·.machineName) else [] }

/-- The global and venue rows of a cohort's aggregates: without a venue, every global row and
no venue rows; at a venue, both restricted to the venue's machines, with the global rows
flagged where the venue has none. -/
def venueRows (store : Store) (cohort : List String) (limit : Nat) (global : List MachineStats)
    (baseline : List (String × Score)) (names : List (String × String)) :
    Option String → AnalysisResult (List MachineReport × Option (List MachineReport))
  | none => return (enrich global baseline names, none)
  | some venue => do
    let machines ← ask (store.venueMachines venue)
    let atVenue ← ask (store.machineStats cohort (some venue) limit)
    let venueRows := enrich (restrictTo atVenue machines) baseline names
    let globalRows := enrich (restrictTo global machines) baseline names
    return (markNoVenueData globalRows venueRows, some venueRows)

end PinballScout
