import PinballScout.Checks.Fixture
import PinballScout.Analysis.Recommend

/-!
# Checks of recommendations

Recommendations for TTT on TAF in the small league, verdicts and assessments.
-/

namespace PinballScout.Checks.Recommend

/-- Recommends TTT's players for TAF in the small league. -/
def onTaf (mode : RecommendMode) : AnalysisResult RecommendReport :=
  recommend smallStore AnalysisConfig.default "TTT" "TAF" mode

/-- One game at one score. -/
def single (name : String) (p50 : Score) : PlayerStats := ⟨name, ⟨1, p50, p50⟩⟩

/-- Basic mode: the team's players, best first. -/
def basic : Check := fun _ =>
  match onTaf .basic with
  | .ok r =>
    r.machineName == "The Addams Family" && r.teamStats.map (·.name) == ["Alice", "Bob"] &&
      (r.teamStats[1]?.map fun p => (p.games, p.p50)) == some (2, 350) &&
      (r.teamStats[0]?.map (·.leagueP50)) == some (some 300) && r.venueStats.isNone && r.assessment.isNone
  | .error _ => false

/-- At a venue: players without games there are flagged. -/
def atVenue : Check := fun _ =>
  match onTaf (.atVenue "GPA"), onTaf (.atVenue "STN") with
  | .ok gpa, .ok stn =>
    gpa.venueStats.any (·.isEmpty) && gpa.teamStats.length == 2 && gpa.teamStats.all (·.noVenueData) &&
      stn.venueStats.any (·.length == 2) && stn.teamStats.all (!·.noVenueData)
  | _, _ => false

/-- Against an opponent: the best players are assessed. -/
def vsOpponent : Check := fun _ =>
  match onTaf (.vsOpponent "KNR" none) with
  | .ok r => (r.opponent.map (·.key)) == some "KNR" && r.assessment == some ⟨"Alice", "Carol", 200, .contested⟩
  | .error _ => false

/-- Against an opponent where neither played: no assessment. -/
def vsOpponentWithoutGames : Check := fun _ =>
  match onTaf (.vsOpponent "KNR" (some "GPA")) with
  | .ok r => r.teamStats.isEmpty && r.opponentStats.any (·.isEmpty) && r.assessment.isNone
  | .error _ => false

/-- An unknown opponent is not found. -/
def unknownOpponent : Check := fun _ =>
  match onTaf (.vsOpponent "NOPE" none) with
  | .error (.teamNotFound key) => key == "NOPE"
  | _ => false

/-- The margin is strict on both sides. -/
def strictMargin : Check := fun _ =>
  Verdict.ofDiff 1000000 1000000 == .contested && Verdict.ofDiff (-1000000) 1000000 == .contested &&
    Verdict.ofDiff 1000001 1000000 == .strong && Verdict.ofDiff (-1000001) 1000000 == .weak

/-- An assessment needs players on both sides. -/
def bothSides : Check := fun _ =>
  let ours := [single "A" 5000000, single "B" 1000000]
  let theirs := [single "C" 2000000]
  (assess ours theirs 1000000).toOption.join.any
      (fun a => a.ourBest == "A" && a.diff == 3000000 && a.verdict == .strong) &&
    (assess ours [] 1000000).toOption == some none && (assess [] theirs 1000000).toOption == some none

end PinballScout.Checks.Recommend
