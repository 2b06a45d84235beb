import PinballScout.Checks.Fixture
import PinballScout.Analysis.Scout
import PinballScout.Analysis.Matchup
import PinballScout.Analysis.Recommend
import PinballScout.Analysis.Profile
import PinballScout.Report.Analysis

/-!
# Checks of the analyses end to end

The four analyses and the listings on the full league, where TTT has three games on each of
four machines, so that both the strongest and the weakest lists fill.
-/

namespace PinballScout.Checks.Integration

/-- Scouts a team of the full league. -/
def scoutFull (team : String) (venue : Option String) : AnalysisResult ScoutReport :=
  scout fullStore AnalysisConfig.default team venue

/-- TTT against KNR at a venue of the full league. -/
def matchupAt (venue : String) : AnalysisResult MatchupReport :=
  matchup fullStore AnalysisConfig.default venue "TTT" "KNR"

/-- The row of a machine. -/
def rowOf (rows : List MachineReport) (key : String) : Option MachineReport :=
  rows.find? (·.machineKey == key)

/-- The baseline counts the current rosters only. -/
def baseline : Check := fun _ =>
  (answered (fullStore.leagueBaseline .p50)).any fun p50 =>
    p50.lookup "TAF" == some 300 && p50.lookup "TZ" == some 130 && p50.lookup "MM" == some 700 &&
      p50.lookup "AFM" == some 1500

/-- Strongest and weakest are both named. -/
def strongestAndWeakest : Check := fun _ =>
  match scoutFull "TTT" none with
  | .ok r =>
    r.globalStats.map (·.machineKey) == ["AFM", "MM", "TAF", "TZ"] &&
      r.summary.strongest == ["The Addams Family", "Attack from Mars", "Twilight Zone"] &&
      r.summary.weakest == ["Medieval Madness", "Twilight Zone", "Attack from Mars"]
  | .error _ => false

/-- Percentiles and likely players of a row. -/
def percentilesAndLikely : Check := fun _ =>
  match scoutFull "TTT" none with
  | .ok r =>
    (rowOf r.globalStats "TAF").any fun taf =>
      (taf.games, taf.p50, taf.p90) == (3, 400, 500) &&
        taf.likelyPlayers.map (fun p => (p.name, p.games, p.p50)) == [("Bob", 2, 350), ("Alice", 1, 500)]
  | .error _ => false

/-- Scores follow the player, not the team key they were played under. -/
def scoresFollowPlayer : Check := fun _ =>
  match scoutFull "KNR" none, scoutFull "TTT" none,
    profile fullStore AnalysisConfig.default "Dave" none with
  | .ok knr, .ok ttt, .ok dave =>
    (rowOf knr.globalStats "TZ").any (fun tz =>
      (tz.games, tz.p50) == (3, 180) &&
        (tz.likelyPlayers.find? (·.name == "Dave")).any (·.games == 2)) &&
      (rowOf ttt.globalStats "TZ").any (fun tz =>
        (tz.games, tz.p50) == (3, 120) && tz.likelyPlayers.all (·.name != "Dave")) &&
      (dave.team.map (·.teamKey)) == some "KNR"
  | _, _, _ => false

/-- At a venue both views are given. -/
def bothViews : Check := fun _ =>
  match scoutFull "TTT" (some "GPA") with
  | .ok r =>
    r.venue == some "GPA" &&
      r.venueStats.any (fun rows =>
        rows.map (·.machineKey) == ["AFM", "MM", "TZ"] && (rowOf rows "TZ").any (·.games == 2)) &&
      r.globalStats.all (!·.noVenueData) &&
      r.summary.strongest == ["Attack from Mars", "Twilight Zone", "Medieval Madness"] &&
      r.summary.weakest.isEmpty
  | .error _ => false

/-- An unknown team cannot be scouted. -/
def scoutUnknown : Check := fun _ =>
  match scoutFull "ZZZ" none with
  | .error (.teamNotFound key) => key == "ZZZ"
  | _ => false

/-- At GPA KNR holds every edge, biggest last. -/
def gpaByEdge : Check := fun _ =>
  match matchupAt "GPA" with
  | .ok r =>
    r.machines.map (·.machineKey) == ["MM", "TZ", "AFM"] &&
      (match r.machines with
        | [mm, tz, afm] =>
          percentNear mm.edge (-150.0 / 550.0 * 100.0) && percentNear tz.edge (-55.0 / 110.0 * 100.0) &&
            percentNear afm.edge (-140.0)
        | _ => false) &&
      r.summary.team1Advantages.isEmpty && r.summary.team2Advantages.length == 3 &&
      r.machines.all (·.confidence == .low)
  | .error _ => false

/-- At STN each team holds one edge. -/
def stnSplit : Check := fun _ =>
  match matchupAt "STN" with
  | .ok r =>
    r.summary.team1Advantages == ["The Addams Family"] && r.summary.team2Advantages == ["Twilight Zone"] &&
      (r.machines.head?.any fun m => percentNear m.edge 70.0)
  | .error _ => false

/-- Swapping the teams negates every edge and reverses the advantages. -/
def antisymmetric : Check := fun _ =>
  match matchupAt "GPA", matchup fullStore AnalysisConfig.default "GPA" "KNR" "TTT" with
  | .ok forward, .ok backward =>
    forward.machines.all (fun m =>
      (backward.machines.find? (·.machineKey == m.machineKey)).any fun other =>
        sameEdge m.edge other.edge.neg && m.confidence == other.confidence) &&
      forward.summary.team2Advantages == backward.summary.team1Advantages.reverse
  | _, _ => false

/-- An unknown team cannot be compared. -/
def matchupUnknown : Check := fun _ =>
  match matchup fullStore AnalysisConfig.default "GPA" "TTT" "ZZZ" with
  | .error (.teamNotFound key) => key == "ZZZ"
  | _ => false

/-- The verdict uses the configured margin. -/
def configuredMargin : Check := fun _ =>
  let mode := RecommendMode.vsOpponent "KNR" (some "GPA")
  let tight := { AnalysisConfig.default with verdictMargin := 50 }
  match recommend fullStore AnalysisConfig.default "TTT" "MM" mode, recommend fullStore tight "TTT" "MM" mode with
  | .ok r, .ok t =>
    r.assessment == some ⟨"Alice", "Carol", -100, .contested⟩ &&
      (t.assessment.map (·.verdict)) == some .weak
  | _, _ => false

/-- At a venue, players without games there are flagged. -/
def missingPlayers : Check := fun _ =>
  match recommend fullStore AnalysisConfig.default "TTT" "TZ" (.atVenue "GPA") with
  | .ok r =>
    let flag (name : String) := (r.teamStats.find? (·.name == name)).map (·.noVenueData)
    flag "Alice" == some true && flag "Bob" == some false && r.venueStats.any (·.length == 1)
  | .error _ => false

/-- An unknown machine gives an empty recommendation under its key. -/
def unknownMachine : Check := fun _ =>
  match recommend fullStore AnalysisConfig.default "TTT" "XYZ" .basic with
  | .ok r => r.teamStats.isEmpty && r.machineName == "XYZ"
  | .error _ => false

/-- A player's profile with team. -/
def profileWithTeam : Check := fun _ =>
  match profile fullStore AnalysisConfig.default "Carol" none with
  | .ok r =>
    (r.team.map (·.teamKey)) == some "KNR" && r.globalStats.length == 4 &&
      (rowOf r.globalStats "MM").any fun mm => (mm.games, mm.p50, mm.p90) == (2, 700, 800)
  | .error _ => false

/-- A former player keeps the old team and scores. -/
def formerPlayer : Check := fun _ =>
  match profile fullStore AnalysisConfig.default "Zed" none with
  | .ok r => (r.team.map (·.teamName)) == some "Old Trashers" && (r.globalStats.head?.map (·.p50)) == some 9999
  | .error _ => false

/-- An unknown player has no profile. -/
def playerUnknown : Check := fun _ =>
  match profile fullStore AnalysisConfig.default "Nobody" none with
  | .error (.playerNotFound _) => true
  | _ => false

/-- The listings cover the keys the analyses take. -/
def listingKeys : Check := fun _ =>
  (answered (fullStore.listTeams none)).any (·.map (·.key) == ["KNR", "TTT"]) &&
    (answered (fullStore.listVenues none)).any (·.map (·.key) == ["GPA", "STN"]) &&
    (answered (fullStore.listMachines none)).any (·.map (·.key) == ["AFM", "MM", "TAF", "TZ"])

/-- Players are listed with their current team only. -/
def currentTeamOnly : Check := fun _ =>
  (answered (fullStore.listPlayers (some "dave"))).any (·.map (·.teamKey) == ["KNR"]) &&
    (answered (fullStore.listPlayers (some "TRASH"))).any (·.map (·.name) == ["Alice", "Bob"])

/-- A team found by name, with its home venue. -/
def teamSearchHome : Check := fun _ =>
  (answered (fullStore.listTeams (some "riders"))).any fun teams =>
    teams.length == 1 && (teams.head?.bind (·.homeVenue)) == some ⟨"GPA", "Georgetown Pizza and Arcade"⟩

/-- Any store serves the analyses. -/
def anyStore : Check := fun _ =>
  let store : Store := fullLeague.store
  match scout store AnalysisConfig.default "KNR" none with
  | .ok r => r.team.name == "Knight Riders"
  | .error _ => false

/-- The text at a path of member names and array positions. -/
def textAt (j : Json) : List (String ⊕ Nat) → Option String
  | [] => Json.str? j
  | .inl name :: rest => (j.get? name).bind (textAt · rest)
  | .inr i :: rest => ((Json.arr? j).bind (·[i]?)).bind (textAt · rest)

/-- Reports write enumerations as tagged objects. -/
def taggedEnums : Check := fun _ =>
  match matchupAt "STN", recommend fullStore AnalysisConfig.default "TTT" "TAF" (.atVenue "STN") with
  | .ok m, .ok r =>
    let mj := m.toJson
    let rj := r.toJson
    textAt mj [.inl "machines", .inr 0, .inl "edge", .inl "kind"] == some "Percent" &&
      textAt mj [.inl "machines", .inr 0, .inl "confidence"] == some "Low" &&
      textAt rj [.inl "mode", .inl "mode"] == some "at_venue" &&
      textAt rj [.inl "mode", .inl "venue"] == some "STN" &&
      (rj.get? "assessment").isNone
  | _, _ => false

end PinballScout.Checks.Integration
