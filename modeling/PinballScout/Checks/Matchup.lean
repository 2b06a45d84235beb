import PinballScout.Checks.Fixture
import PinballScout.Analysis.Matchup

/-!
# Checks of matchups

TTT against KNR in the small league.
-/

namespace PinballScout.Checks.Matchup

/-- Compares two teams of a league at a venue with the default tunables. -/
def compare (store : Store) (venue team1 team2 : String) : AnalysisResult MatchupReport :=
  matchup store AnalysisConfig.default venue team1 team2

/-- At STN: both STN machines and nothing else. -/
def atStn : Check := fun _ =>
  match compare smallStore "STN" "TTT" "KNR" with
  | .ok r =>
    let keys := r.machines.map (·.machineKey)
    r.team1.key == "TTT" && r.team2.name == "Knight Riders" && keys.length == 2 &&
      keys.contains "TAF" && keys.contains "TZ" && !keys.contains "MM"
  | .error _ => false

/-- On TAF the edge compares the means of the likely players. -/
def likelyMeans : Check := fun _ =>
  match compare smallStore "STN" "TTT" "KNR" with
  | .ok r =>
    match r.machines.find? (·.machineKey == "TAF") with
    | some taf =>
      (taf.team1.bind (·.likelyScore)) == some 425.0 && (taf.team2.bind (·.likelyScore)) == some 250.0 &&
        taf.team1.isSome && taf.team2.isSome && percentNear taf.edge 70.0 && taf.confidence == .low &&
        r.summary.team1Advantages.contains "The Addams Family"
    | none => false
  | .error _ => false

/-- Machines come in descending order of edge. -/
def byEdge : Check := fun _ =>
  match compare smallStore "STN" "TTT" "KNR" with
  | .ok r =>
    r.machines.map (·.machineKey) == ["TAF", "TZ"] &&
      (r.machines[1]?.any fun m => sameEdge m.edge (.percent (-50.0))) &&
      r.summary.team2Advantages == ["Twilight Zone"] && r.summary.contested.isEmpty
  | .error _ => false

/-- A machine only one team has played is lopsided. -/
def oneSided : Check := fun _ =>
  let league := { smallLeague with scores := smallLeague.scores ++ [scoreAt "STN" "Carol" "KNR" 23 "AFM" 1000] }
  match compare (installAt league "STN" "AFM").store "STN" "TTT" "KNR" with
  | .ok r =>
    match r.machines.getLast? with
    | some afm =>
      afm.machineKey == "AFM" && afm.machineName == "AFM" && afm.team1.isNone &&
        sameEdge afm.edge (.lopsided .second) && afm.confidence == .low
    | none => false
  | .error _ => false

/-- An unknown venue has no machines. -/
def unknownVenue : Check := fun _ =>
  match compare smallStore "XXX" "TTT" "KNR" with
  | .ok r => r.machines.isEmpty && r.summary == ⟨[], [], []⟩
  | .error _ => false

/-- Either team unknown is not found. -/
def unknownTeam : Check := fun _ =>
  let notFound (result : AnalysisResult MatchupReport) : Bool :=
    match result with
    | .error (.teamNotFound key) => key == "NOPE"
    | _ => false
  notFound (compare smallStore "STN" "NOPE" "KNR") && notFound (compare smallStore "STN" "TTT" "NOPE")

end PinballScout.Checks.Matchup
