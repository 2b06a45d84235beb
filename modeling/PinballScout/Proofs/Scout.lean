import PinballScout.Proofs.Cohort
import PinballScout.Store.Snapshot
import PinballScout.Analysis.Scout
import PinballScout.Checks.Fixture

/-! Scouting pools scores by who played them. A team key resolves to the players of its latest
    roster, and every score of those players counts, whichever team key and season it was recorded
    under; the league baseline likewise counts every score of a player rostered in the highest roster
    season. Editing a score's team key or season, reordering the scores, or adding and removing rows
    of earlier seasons therefore changes neither the scouted aggregates nor the baseline. -/

namespace PinballScout

/-! ### What a report is made of -/

/-- The aggregate a machine row was made from. -/
def MachineReport.stats (r : MachineReport) : MachineStats :=
  ⟨r.machineKey, ⟨r.games, r.p50, r.p90⟩, r.likelyPlayers⟩

/-- The aggregates behind the global rows of a scouting report. -/
def ScoutReport.globalAggregates (r : ScoutReport) : List MachineStats :=
  r.globalStats.map MachineReport.stats

@[simp] theorem MachineStats.report_stats (s : MachineStats) (baseline : List (String × Score))
    (names : List (String × String)) : (s.report baseline names).stats = s := rfl

/-- What a score record says about play: who played which machine at which venue, and the score.
    The team key and season it was recorded under are left out. -/
def ScoreRecord.play (s : ScoreRecord) : String × String × String × Score :=
  (s.player, s.machineKey, s.venueKey, s.score)

namespace League

/-- Every score of the given players as a score row, whatever team key and season it carries. -/
def rowsOf (league : League) (players : List String) : List ScoreRow :=
  (league.scores.filter fun s => players.contains s.player).map fun s => ⟨s.machineKey, s.player, s.score⟩

/-- The scores recorded on machine `m` by players with a roster row from the highest season of
    any roster row. -/
def currentScoresOn (league : League) (m : String) : List Score :=
  (league.scores.filter fun s => s.machineKey == m &&
    league.rosters.any fun r => r.player == s.player && league.rosters.all (·.season ≤ r.season)).map
    (·.score)

/-- `league'` records the plays of `league` in any order, with any team keys and seasons, and
    differs in team and roster rows only by rows of `key` from seasons before `S`. -/
structure KeyEdit (key : String) (S : Nat) (league league' : League) : Prop where
  plays : (league'.scores.map ScoreRecord.play).Perm (league.scores.map ScoreRecord.play)
  teams : league'.teams.filter (!·.isOlder key S) = league.teams.filter (!·.isOlder key S)
  rosters : league'.rosters.filter (!·.isOlder key S) = league.rosters.filter (!·.isOlder key S)

/-- `league'` records the plays of `league` in any order, with any team keys and seasons, and
    differs in roster rows only by rows from seasons before `C`. -/
structure SeasonEdit (C : Nat) (league league' : League) : Prop where
  plays : (league'.scores.map ScoreRecord.play).Perm (league.scores.map ScoreRecord.play)
  rosters : league'.rosters.filter (C ≤ ·.season) = league.rosters.filter (C ≤ ·.season)

/-! ### Reading scores through their plays -/

/-- Rows selected and built from the plays alone are permuted when the plays are. -/
theorem perm_of_plays {β : Type} {league league' : League}
    (h : (league'.scores.map ScoreRecord.play).Perm (league.scores.map ScoreRecord.play))
    (p : String × String × String × Score → Bool) (f : String × String × String × Score → β) :
    ((league'.scores.filter fun s => p s.play).map fun s => f s.play).Perm
      ((league.scores.filter fun s => p s.play).map fun s => f s.play) := by
  have through : ∀ l : List ScoreRecord,
      (l.filter fun s => p s.play).map (fun s => f s.play) = ((l.map ScoreRecord.play).filter p).map f :=
    fun l => by rw [List.filter_map, List.map_map]; rfl
  rw [through, through]
  exact (h.filter p).map f

theorem rowsOf_perm {league league' : League}
    (h : (league'.scores.map ScoreRecord.play).Perm (league.scores.map ScoreRecord.play))
    (players : List String) : (league'.rowsOf players).Perm (league.rowsOf players) :=
  perm_of_plays h (fun x => players.contains x.1) fun x => (⟨x.2.1, x.1, x.2.2.2⟩ : ScoreRow)

theorem baselineRows_perm {league league' : League}
    (h : (league'.scores.map ScoreRecord.play).Perm (league.scores.map ScoreRecord.play))
    (players : List String) :
    ((league'.scores.filter (players.contains ·.player)).map fun s => (s.machineKey, s.score)).Perm
      ((league.scores.filter (players.contains ·.player)).map fun s => (s.machineKey, s.score)) :=
  perm_of_plays h (fun x => players.contains x.1) fun x => (x.2.1, x.2.2.2)

theorem machineStats_everywhere (league : League) (players : List String) (limit : Nat) :
    league.machineStats players none limit = buildMachineStats (league.rowsOf players) limit := by
  simp [machineStats, cohortScores, rowsOf]

/-- A player counts toward the baseline exactly when rostered in the highest roster season. -/
theorem leaguePlayers_contains (rosters : List RosterMembership) (x : String) :
    (leaguePlayers rosters).contains x =
      rosters.any fun r => r.player == x && rosters.all (·.season ≤ r.season) := by
  rw [Bool.eq_iff_iff]
  simpa using mem_leaguePlayers

theorem lookup_baseline (league : League) (p : Percentile) (m : String) :
    (league.baseline p).lookup m =
      p.select ((league.currentScoresOn m).mergeSort fun a b => decide (a ≤ b)) := by
  rw [baseline, lookup_buildBaseline]
  congr 2
  simp only [valuesOf, currentScoresOn, List.filter_map, List.map_map, List.filter_filter,
    leaguePlayers_contains, Function.comp_def]

end League

/-! ### Scouting everywhere -/

theorem scout_everywhere {league : League} {config : AnalysisConfig} {key : String}
    {team : TeamCohort} (h : resolveTeam league.teams league.rosters key = some team) :
    scout league.store config key none =
      .ok ⟨team.ref, none, none,
        enrich (league.machineStats team.players none config.likelyPlayers) (league.baseline .p50)
          league.machines,
        summarize (enrich (league.machineStats team.players none config.likelyPlayers)
          (league.baseline .p50) league.machines) config⟩ := by
  simp [scout, requireTeam, ask, League.store, venueRows, h, bind, Except.bind, pure, Except.pure,
    Except.mapError]

theorem globalAggregates_everywhere {league : League} {config : AnalysisConfig} {key : String}
    {team : TeamCohort} (h : resolveTeam league.teams league.rosters key = some team) :
    (scout league.store config key none).map ScoutReport.globalAggregates =
      .ok (buildMachineStats (league.rowsOf team.players) config.likelyPlayers) := by
  rw [scout_everywhere h]
  simp [Except.map, ScoutReport.globalAggregates, enrich, League.machineStats_everywhere,
    Function.comp_def]

/-! ### Edits that change nothing -/

theorem globalAggregates_of_keyEdit {league league' : League} {config : AnalysisConfig}
    {key : String} {team : TeamCohort} (h : resolveTeam league.teams league.rosters key = some team)
    (edit : league.KeyEdit key team.season league') :
    (scout league'.store config key none).map ScoutReport.globalAggregates =
      (scout league.store config key none).map ScoutReport.globalAggregates := by
  have h' := resolveTeam_of_older h edit.teams edit.rosters
  rw [globalAggregates_everywhere h, globalAggregates_everywhere h']
  rw [buildMachineStats_perm (League.rowsOf_perm edit.plays team.players)]

theorem baseline_of_seasonEdit {league league' : League} {C : Nat}
    (hC : currentSeason league.rosters = some C) (edit : league.SeasonEdit C league')
    (p : Percentile) : league'.baseline p = league.baseline p := by
  unfold League.baseline
  rw [leaguePlayers_of_older hC edit.rosters]
  exact buildBaseline_perm (League.baselineRows_perm edit.plays _) p

/-! ### Aggregation by player identity -/

/-- Scouting a team key that resolves aggregates the scores of the resolved players, whatever team
    key and season each score carries; the baseline at a machine is the percentile of the scores
    there by players of the highest roster season. Neither changes when scores are reordered or
    re-labelled with other team keys and seasons, or when rows of earlier seasons come and go. -/
theorem aggregation_follows_players :
    (∀ (league : League) (config : AnalysisConfig) (key : String) (team : TeamCohort),
      resolveTeam league.teams league.rosters key = some team →
      ∃ r, scout league.store config key none = .ok r ∧
        r.globalAggregates = buildMachineStats (league.rowsOf team.players) config.likelyPlayers) ∧
    (∀ (league : League) (p : Percentile) (m : String),
      (league.baseline p).lookup m =
        p.select ((league.currentScoresOn m).mergeSort fun a b => decide (a ≤ b))) ∧
    (∀ (league league' : League) (config : AnalysisConfig) (key : String) (team : TeamCohort),
      resolveTeam league.teams league.rosters key = some team → league.KeyEdit key team.season league' →
      (scout league'.store config key none).map ScoutReport.globalAggregates =
        (scout league.store config key none).map ScoutReport.globalAggregates) ∧
    (∀ (league league' : League) (p : Percentile) (C : Nat), currentSeason league.rosters = some C →
      league.SeasonEdit C league' → league'.baseline p = league.baseline p) := by
  refine ⟨fun league config key team h => ?_, League.lookup_baseline,
    fun _ _ _ _ _ h edit => globalAggregates_of_keyEdit h edit,
    fun _ _ p _ hC edit => baseline_of_seasonEdit hC edit p⟩
  refine ⟨_, scout_everywhere h, ?_⟩
  simp [ScoutReport.globalAggregates, enrich, League.machineStats_everywhere, Function.comp_def]

open Checks in
/-- The small league with Zed's season-10 roster row dropped and every score relabelled with
    another team key and season, in reverse order. -/
def smallLeagueRelabelled : League :=
  { smallLeague with
    rosters := smallLeague.rosters.filter (·.season != 10)
    scores := (smallLeague.scores.map fun s => { s with teamKey := "KNR", season := 22 }).reverse }

open Checks in
/-- TTT of the small league resolves to Alice and Bob of season 23; its scouted aggregates and the
    baseline are the same for the relabelled league. -/
theorem aggregation_follows_players_small :
    resolveTeam smallLeague.teams smallLeague.rosters "TTT" =
        some ⟨"TTT", "The Trailer Trashers", 23, ["Alice", "Bob"]⟩ ∧
      (∃ r, scout smallLeague.store .default "TTT" none = .ok r ∧
        r.globalAggregates =
          buildMachineStats (smallLeague.rowsOf ["Alice", "Bob"]) AnalysisConfig.default.likelyPlayers) ∧
      smallLeague.KeyEdit "TTT" 23 smallLeagueRelabelled ∧
      (scout smallLeagueRelabelled.store .default "TTT" none).map ScoutReport.globalAggregates =
        (scout smallLeague.store .default "TTT" none).map ScoutReport.globalAggregates ∧
      currentSeason smallLeague.rosters = some 23 ∧ smallLeague.SeasonEdit 23 smallLeagueRelabelled ∧
      smallLeagueRelabelled.baseline .p50 = smallLeague.baseline .p50 := by
  have hteam : resolveTeam smallLeague.teams smallLeague.rosters "TTT" =
      some ⟨"TTT", "The Trailer Trashers", 23, ["Alice", "Bob"]⟩ := by
    rw [resolveTeam_eq_some_iff]
    refine ⟨23, by decide, ?_⟩
    rw [show (smallLeague.rosters.filter fun r => r.teamKey == "TTT" && r.season == 23).map (·.player) =
      ["Alice", "Bob"] from by decide, distinctSorted_of_sorted (by decide)]
    decide
  have hkey : smallLeague.KeyEdit "TTT" 23 smallLeagueRelabelled := ⟨by decide, by decide, by decide⟩
  have hseason : smallLeague.SeasonEdit 23 smallLeagueRelabelled := ⟨by decide, by decide⟩
  refine ⟨hteam, ?_, hkey, ?_, by decide, hseason, ?_⟩
  · have found := aggregation_follows_players.1 smallLeague .default "TTT" _ hteam
    exact found
  · exact aggregation_follows_players.2.2.1 smallLeague smallLeagueRelabelled .default "TTT" _ hteam hkey
  · have same := aggregation_follows_players.2.2.2 smallLeague smallLeagueRelabelled .p50 23 rfl hseason
    exact same

end PinballScout
