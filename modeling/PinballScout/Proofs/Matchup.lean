import PinballScout.Analysis.Matchup
import PinballScout.Store.Snapshot
import PinballScout.Proofs.Grouping
import PinballScout.Proofs.Compare

/-! Matchups seen from either team. Exchanging the two teams exchanges the sides of every
    machine's comparison, negates its edge and keeps its confidence, because every median a
    snapshot's aggregates report is a recorded score and so, for 64-bit scores, every edge is
    computed from numbers. The rows are then sorted by the mirrored order: they come out reversed
    wherever no two edges tie, while rows with tied edges keep machine-key order in both runs. -/

namespace PinballScout

/-! ### Likely players come from recorded scores -/

theorem Percentile.select_mem {p : Percentile} {sorted : List Score} {v : Score}
    (h : p.select sorted = some v) : v ∈ sorted := by
  unfold Percentile.select at h
  obtain ⟨r, -, hr⟩ := Option.bind_eq_some_iff.mp h
  exact List.mem_of_getElem? hr

/-- Each percentile of an aggregate is one of its scores. -/
theorem AggregateStat.value_mem {xs : List Score} {s : AggregateStat}
    (h : AggregateStat.ofScores xs = some s) (p : Percentile) : s.value p ∈ xs := by
  have hsel := AggregateStat.ofScores_value xs p
  rw [h, Option.map_some] at hsel
  exact (List.mergeSort_perm xs _).mem_iff.mp (Percentile.select_mem hsel.symm)

theorem mem_valuesOf {α : Type} {rows : List (String × α)} {key : String} {a : α} :
    a ∈ valuesOf rows key ↔ (key, a) ∈ rows := by
  simp [valuesOf]

theorem ofScores_of_mem_groups {rows : List (String × Score)} {key : String} {s : AggregateStat}
    (h : (key, s) ∈ groups rows) : AggregateStat.ofScores (valuesOf rows key) = some s := by
  obtain ⟨k, -, hk⟩ := List.mem_filterMap.mp h
  obtain ⟨s', hs', heq⟩ := Option.map_eq_some_iff.mp hk
  cases heq
  exact hs'

theorem mem_selectLikely {perPlayer : List (String × AggregateStat)} {limit : Nat} {p : LikelyPlayer}
    (h : p ∈ selectLikely perPlayer limit) :
    ∃ name s, (name, s) ∈ perPlayer ∧ p = ⟨name, s.games, s.p50⟩ := by
  obtain ⟨⟨name, s⟩, hmem, rfl⟩ := List.mem_map.mp (List.mem_mergeSort.mp (List.mem_of_mem_take h))
  exact ⟨name, s, hmem, rfl⟩

/-- A machine's aggregate has at most `limit` likely players, each with the score of a row as
median. -/
theorem likelyPlayers_of_mem_buildMachineStats {rows : List ScoreRow} {limit : Nat} {s : MachineStats}
    (h : s ∈ buildMachineStats rows limit) :
    s.likelyPlayers.length ≤ limit ∧ ∀ p ∈ s.likelyPlayers, ∃ r ∈ rows, p.p50 = r.score := by
  obtain ⟨key, -, hkey⟩ := List.mem_filterMap.mp (List.mem_mergeSort.mp h)
  obtain ⟨stat, -, rfl⟩ := Option.map_eq_some_iff.mp hkey
  refine ⟨List.length_take_le _ _, fun p hp => ?_⟩
  obtain ⟨name, ps, hmem, rfl⟩ := mem_selectLikely hp
  -- the median is a score of this player among the rows on this machine
  have hplayer := mem_valuesOf.mp (AggregateStat.value_mem (ofScores_of_mem_groups hmem) .p50)
  obtain ⟨r, hr, hscore⟩ := List.mem_map.mp hplayer
  obtain ⟨r', hr', hkeyed⟩ := List.mem_map.mp (mem_valuesOf.mp hr)
  have hr'' : r' = r := (Prod.mk.inj hkeyed).2
  exact ⟨r', hr', by rw [hr'']; exact (Prod.mk.inj hscore).2.symm⟩

/-- On a league of 64-bit scores, with fewer than `2 ^ 64` likely players asked for, the likely
players of every aggregate are bounded. -/
theorem League.bounded_machineStats {league : League}
    (hscores : ∀ s ∈ league.scores, s.score.natAbs < 2 ^ 64) {cohort : List String}
    {venue : Option String} {limit : Nat} (hlimit : limit < 2 ^ 64) :
    ∀ s ∈ league.machineStats cohort venue limit, LikelyPlayer.Bounded s.likelyPlayers := by
  intro s hs
  obtain ⟨hlen, hmed⟩ := likelyPlayers_of_mem_buildMachineStats hs
  refine ⟨lt_of_le_of_lt hlen hlimit, fun p hp => ?_⟩
  obtain ⟨r, hr, hp50⟩ := hmed p hp
  obtain ⟨sc, hsc, rfl⟩ := List.mem_map.mp hr
  rw [hp50]
  exact hscores sc (List.mem_filter.mp hsc).1

/-! ### One machine from the other side -/

namespace MachineMatchup

/-- The comparison on one machine seen from the other team: sides exchanged, the edge negated. -/
def swap (m : MachineMatchup) : MachineMatchup :=
  { m with team1 := m.team2, team2 := m.team1, edge := m.edge.neg }

@[simp] theorem swap_machineName (m : MachineMatchup) : m.swap.machineName = m.machineName := rfl

@[simp] theorem swap_edge (m : MachineMatchup) : m.swap.edge = m.edge.neg := rfl

theorem favors_swap (m : MachineMatchup) (side : Side) :
    (m.swap.edge.favors == some side) = (m.edge.favors == some side.other) := by
  rw [swap_edge, Edge.favors_neg]
  rcases m.edge.favors with _ | (_ | _) <;> cases side <;> rfl

theorem favors_swap_none (m : MachineMatchup) : (m.swap.edge.favors == none) = (m.edge.favors == none) := by
  rw [swap_edge, Edge.favors_neg]
  rcases m.edge.favors with _ | _ <;> rfl

end MachineMatchup

/-- The likely players found for a machine are bounded when all of them are. -/
theorem bounded_found {stats : List MachineStats}
    (h : ∀ s ∈ stats, LikelyPlayer.Bounded s.likelyPlayers) (p : MachineStats → Bool) :
    LikelyPlayer.Bounded ((((stats.find? p).map MachineStats.side).map (·.likelyPlayers)).getD []) := by
  cases hf : stats.find? p with
  | none => exact ⟨by norm_num, by simp⟩
  | some s => exact h s (List.mem_of_find?_eq_some hf)

/-- Comparing the second team's aggregates with the first's gives the same machines, each seen
from the other side. -/
theorem compareMachines_swap {stats1 stats2 : List MachineStats} (names : List (String × String))
    (config : AnalysisConfig) (h1 : ∀ s ∈ stats1, LikelyPlayer.Bounded s.likelyPlayers)
    (h2 : ∀ s ∈ stats2, LikelyPlayer.Bounded s.likelyPlayers) :
    compareMachines stats2 stats1 names config =
      (compareMachines stats1 stats2 names config).map MachineMatchup.swap := by
  have hkeys : distinctSorted (stats2.map (·.machineKey) ++ stats1.map (·.machineKey)) =
      distinctSorted (stats1.map (·.machineKey) ++ stats2.map (·.machineKey)) :=
    distinctSorted_congr fun k => by simp only [List.mem_append]; exact or_comm
  unfold compareMachines
  rw [hkeys, List.map_map]
  refine List.map_congr_left fun key _ => ?_
  have b1 := bounded_found h1 (·.machineKey == key)
  have b2 := bounded_found h2 (·.machineKey == key)
  simp only [Function.comp, MachineMatchup.swap]
  rw [edgePercent_swap (likelyScore_isNaN b1) (likelyScore_isNaN b2),
    confidence_comm _ (averageGames_isNaN b1.1) (averageGames_isNaN b2.1)]

/-! ### Sorting rows both ways -/

theorem mergeSort_congr {α : Type} {l : List α} {r s : α → α → Bool} (h : ∀ a ∈ l, ∀ b ∈ l, r a b = s a b) :
    l.mergeSort r = l.mergeSort s := by
  simpa using List.map_mergeSort (f := id) h

/-- Sorting a list whose keys are distinct upward, and downward, gives each other's reverse. -/
theorem mergeSort_le_eq_reverse {α β : Type} [LinearOrder β] (key : α → β) {l : List α}
    (h : ∀ a ∈ l, ∀ b ∈ l, a ≠ b → key a ≠ key b) :
    l.mergeSort (fun a b => decide (key a ≤ key b)) =
      (l.mergeSort fun a b => decide (key b ≤ key a)).reverse := by
  have up := pairwise_mergeSort_byKey key l
  -- downward by the key is upward by its dual
  have down : (l.mergeSort fun a b => decide (key b ≤ key a)).Pairwise fun a b => key b ≤ key a :=
    pairwise_mergeSort_of_key (fun a => OrderDual.toDual (key a))
      (fun _ _ => decide_eq_true_iff.trans OrderDual.toDual_le_toDual.symm) l
  have hperm : (l.mergeSort fun a b => decide (key a ≤ key b)).Perm
      (l.mergeSort fun a b => decide (key b ≤ key a)).reverse :=
    (List.mergeSort_perm l _).trans ((List.mergeSort_perm l _).symm.trans (List.reverse_perm _).symm)
  refine List.Perm.eq_of_pairwise (fun a b ha hb hab hba => ?_) up (List.pairwise_reverse.mpr down) hperm
  by_contra hne
  exact h a (List.mem_mergeSort.mp ha) b (List.mem_mergeSort.mp (List.mem_reverse.mp hb)) hne
    (le_antisymm hab hba)

/-- Rows whose sort keys are pairwise strictly ordered sort by an edge order and by its mirror
into each other's reverse. -/
theorem mergeSort_before_reverse {rows : List MachineMatchup}
    (h : ∀ r ∈ rows, ∀ s ∈ rows, r ≠ s → r.edge.sortKey < s.edge.sortKey ∨ s.edge.sortKey < r.edge.sortKey) :
    rows.mergeSort (fun a b => Edge.before b.edge a.edge) =
      (rows.mergeSort fun a b => Edge.before a.edge b.edge).reverse := by
  -- on these rows, standing before is the order of the keys' ranks
  have hrank : ∀ a ∈ rows, ∀ b ∈ rows,
      Edge.before a.edge b.edge = decide (b.edge.sortKey.rank ≤ a.edge.sortKey.rank) := by
    intro a ha b hb
    by_cases hab : a = b
    · subst hab
      simp [Edge.before_self]
    · have hnan : a.edge.sortKey.isNaN = false ∧ b.edge.sortKey.isNaN = false := by
        rcases h a ha b hb hab with hlt | hlt
        · exact Float.isNaN_eq_false_of_lt hlt
        · exact (Float.isNaN_eq_false_of_lt hlt).symm
      exact Edge.before_eq_rank hnan.1 hnan.2
  rw [mergeSort_congr fun a ha b hb => hrank b hb a ha, mergeSort_congr hrank]
  refine mergeSort_le_eq_reverse (fun r : MachineMatchup => r.edge.sortKey.rank) fun a ha b hb hab => ?_
  rcases h a ha b hb hab with hlt | hlt
  · obtain ⟨hx, hy⟩ := Float.isNaN_eq_false_of_lt hlt
    exact ne_of_lt ((Float.lt_iff_rank hx hy).mp hlt)
  · obtain ⟨hx, hy⟩ := Float.isNaN_eq_false_of_lt hlt
    exact ne_of_gt ((Float.lt_iff_rank hx hy).mp hlt)

/-! ### The summary from the other side -/

theorem partitionEdges_map_swap (rows : List MachineMatchup) :
    partitionEdges (rows.map MachineMatchup.swap) =
      ⟨(partitionEdges rows).team2Advantages, (partitionEdges rows).team1Advantages,
        (partitionEdges rows).contested⟩ := by
  have hfirst : ((·.edge.favors == some Side.first) ∘ MachineMatchup.swap) =
      fun r : MachineMatchup => r.edge.favors == some Side.second :=
    funext fun r => MachineMatchup.favors_swap r .first
  have hsecond : ((·.edge.favors == some Side.second) ∘ MachineMatchup.swap) =
      fun r : MachineMatchup => r.edge.favors == some Side.first :=
    funext fun r => MachineMatchup.favors_swap r .second
  have hnone : ((·.edge.favors == none) ∘ MachineMatchup.swap) =
      fun r : MachineMatchup => r.edge.favors == none :=
    funext MachineMatchup.favors_swap_none
  simp only [partitionEdges, List.filter_map, List.map_map, hfirst, hsecond, hnone]
  rfl

theorem partitionEdges_reverse (rows : List MachineMatchup) :
    partitionEdges rows.reverse =
      ⟨(partitionEdges rows).team1Advantages.reverse, (partitionEdges rows).team2Advantages.reverse,
        (partitionEdges rows).contested.reverse⟩ := by
  simp only [partitionEdges, List.filter_reverse, List.map_reverse]

/-! ### Matchups on a snapshot -/

/-- The rows of a matchup on a snapshot in machine-key order, before they are sorted by edge. -/
def League.matchupRows (league : League) (config : AnalysisConfig) (venue : String)
    (team1 team2 : TeamCohort) : List MachineMatchup :=
  let machines := venueMachineSet league.venueMachines venue
  compareMachines (restrictTo (league.machineStats team1.players none config.likelyPlayers) machines)
    (restrictTo (league.machineStats team2.players none config.likelyPlayers) machines) league.machines config

/-- A matchup of two resolved teams on a snapshot: the rows sorted by edge, and their summary. -/
theorem matchup_store {league : League} {config : AnalysisConfig} {venue t1 t2 : String}
    {team1 team2 : TeamCohort} (h1 : resolveTeam league.teams league.rosters t1 = some team1)
    (h2 : resolveTeam league.teams league.rosters t2 = some team2) :
    matchup league.store config venue t1 t2 =
      .ok ⟨venue, team1.ref, team2.ref,
        (league.matchupRows config venue team1 team2).mergeSort fun a b => Edge.before a.edge b.edge,
        partitionEdges ((league.matchupRows config venue team1 team2).mergeSort
          fun a b => Edge.before a.edge b.edge)⟩ := by
  simp only [matchup, requireTeam, ask, League.store, h1, h2, League.matchupRows, Except.mapError, bind,
    Except.bind, pure, Except.pure]

theorem League.bounded_restrictTo {league : League} (hscores : ∀ s ∈ league.scores, s.score.natAbs < 2 ^ 64)
    {cohort : List String} {limit : Nat} (hlimit : limit < 2 ^ 64) (machines : List String) :
    ∀ s ∈ restrictTo (league.machineStats cohort none limit) machines, LikelyPlayer.Bounded s.likelyPlayers :=
  fun s hs => league.bounded_machineStats hscores hlimit s (List.mem_filter.mp hs).1

/-- A matchup of two resolved teams on a snapshot, seen from the other team, has the same
machines, each seen from the other side. -/
theorem League.matchupRows_swap {league : League} (config : AnalysisConfig) (venue : String)
    (team1 team2 : TeamCohort) (hscores : ∀ s ∈ league.scores, s.score.natAbs < 2 ^ 64)
    (hlimit : config.likelyPlayers < 2 ^ 64) :
    league.matchupRows config venue team2 team1 =
      (league.matchupRows config venue team1 team2).map MachineMatchup.swap :=
  compareMachines_swap _ _ (league.bounded_restrictTo hscores hlimit _) (league.bounded_restrictTo hscores hlimit _)

/-- What a matchup report seen from the other team is to the report it mirrors: the teams are
exchanged, the rows are the same machines seen from the other side and each team's advantages
are the other's, in reverse order when no two rows tie on their edges' sort keys. -/
structure MatchupReport.Mirrors (fwd bwd : MatchupReport) : Prop where
  team1 : bwd.team1 = fwd.team2
  team2 : bwd.team2 = fwd.team1
  machines : bwd.machines.Perm (fwd.machines.map MachineMatchup.swap)
  team1Advantages : bwd.summary.team1Advantages.Perm fwd.summary.team2Advantages
  team2Advantages : bwd.summary.team2Advantages.Perm fwd.summary.team1Advantages
  reversed : fwd.machines.Pairwise
      (fun r s => r.edge.sortKey < s.edge.sortKey ∨ s.edge.sortKey < r.edge.sortKey) →
    bwd.machines = (fwd.machines.map MachineMatchup.swap).reverse ∧
      bwd.summary.team1Advantages = fwd.summary.team2Advantages.reverse ∧
      bwd.summary.team2Advantages = fwd.summary.team1Advantages.reverse

/-- Sorted rows and their mirror image mirror each other as reports. -/
theorem mirrors_of_rows (venue : String) (team1 team2 : TeamRef) (rows : List MachineMatchup) :
    MatchupReport.Mirrors
      ⟨venue, team1, team2, rows.mergeSort (fun a b => Edge.before a.edge b.edge),
        partitionEdges (rows.mergeSort fun a b => Edge.before a.edge b.edge)⟩
      ⟨venue, team2, team1, (rows.map MachineMatchup.swap).mergeSort (fun a b => Edge.before a.edge b.edge),
        partitionEdges ((rows.map MachineMatchup.swap).mergeSort fun a b => Edge.before a.edge b.edge)⟩ := by
  -- the mirrored rows sort as the rows do under the mirrored order
  have hback : (rows.map MachineMatchup.swap).mergeSort (fun a b => Edge.before a.edge b.edge) =
      (rows.mergeSort fun a b => Edge.before b.edge a.edge).map MachineMatchup.swap :=
    (List.map_mergeSort fun a _ b _ => (Edge.before_neg a.edge b.edge).symm).symm
  have hperm : ((rows.mergeSort fun a b => Edge.before b.edge a.edge).map MachineMatchup.swap).Perm
      ((rows.mergeSort fun a b => Edge.before a.edge b.edge).map MachineMatchup.swap) :=
    ((List.mergeSort_perm _ _).trans (List.mergeSort_perm _ _).symm).map _
  have hsummary := partitionEdges_map_swap (rows.mergeSort fun a b => Edge.before a.edge b.edge)
  have hteam1 : (partitionEdges ((rows.mergeSort fun a b => Edge.before a.edge b.edge).map
      MachineMatchup.swap)).team1Advantages =
      (partitionEdges (rows.mergeSort fun a b => Edge.before a.edge b.edge)).team2Advantages := by
    rw [hsummary]
  have hteam2 : (partitionEdges ((rows.mergeSort fun a b => Edge.before a.edge b.edge).map
      MachineMatchup.swap)).team2Advantages =
      (partitionEdges (rows.mergeSort fun a b => Edge.before a.edge b.edge)).team1Advantages := by
    rw [hsummary]
  refine ⟨rfl, rfl, ?_, ?_, ?_, fun hdistinct => ?_⟩
  · rw [hback]
    exact hperm
  · rw [hback, ← hteam1]
    exact (hperm.filter _).map _
  · rw [hback, ← hteam2]
    exact (hperm.filter _).map _
  · have hrows : ∀ r ∈ rows, ∀ s ∈ rows, r ≠ s →
        r.edge.sortKey < s.edge.sortKey ∨ s.edge.sortKey < r.edge.sortKey := by
      have : Std.Symm fun r s : MachineMatchup =>
          r.edge.sortKey < s.edge.sortKey ∨ s.edge.sortKey < r.edge.sortKey := ⟨fun _ _ h => h.symm⟩
      exact fun r hr s hs hne => hdistinct.forall (List.mem_mergeSort.mpr hr) (List.mem_mergeSort.mpr hs) hne
    simp only [hback, mergeSort_before_reverse hrows, List.map_reverse, partitionEdges_reverse, hsummary,
      and_self]

/-- Exchanging two resolved teams of a league of 64-bit scores mirrors their matchup report. -/
theorem matchup_swap_teams {league : League} {config : AnalysisConfig} {venue t1 t2 : String}
    (h1 : (resolveTeam league.teams league.rosters t1).isSome)
    (h2 : (resolveTeam league.teams league.rosters t2).isSome)
    (hscores : ∀ s ∈ league.scores, s.score.natAbs < 2 ^ 64) (hlimit : config.likelyPlayers < 2 ^ 64) :
    ∃ fwd bwd, matchup league.store config venue t1 t2 = .ok fwd ∧
      matchup league.store config venue t2 t1 = .ok bwd ∧ MatchupReport.Mirrors fwd bwd := by
  obtain ⟨team1, hteam1⟩ := Option.isSome_iff_exists.mp h1
  obtain ⟨team2, hteam2⟩ := Option.isSome_iff_exists.mp h2
  refine ⟨_, _, matchup_store hteam1 hteam2, matchup_store hteam2 hteam1, ?_⟩
  rw [league.matchupRows_swap config venue team1 team2 hscores hlimit]
  exact mirrors_of_rows venue team1.ref team2.ref _

/-! ### Tied edges -/

/-- Two machines at one venue, both played by one team only. -/
def tieLeague : League where
  machines := [("M1", "Alpha"), ("M2", "Beta")]
  venues := []
  venueMachines := [("V", ["M1", "M2"])]
  teams := [⟨"AAA", 1, "Team A", none⟩, ⟨"BBB", 1, "Team B", none⟩]
  rosters := [⟨"pa", "AAA", 1⟩, ⟨"pb", "BBB", 1⟩]
  scores := [⟨"pb", "BBB", 1, "M1", "V", 100⟩, ⟨"pb", "BBB", 1, "M2", "V", 200⟩]
  machines_ascending := by decide
  venues_ascending := keysAscending_nil
  venueMachines_ascending := by decide

theorem matchup_swap_teams_tied :
    (resolveTeam tieLeague.teams tieLeague.rosters "AAA").isSome ∧
      (resolveTeam tieLeague.teams tieLeague.rosters "BBB").isSome ∧
      (∀ s ∈ tieLeague.scores, s.score.natAbs < 2 ^ 64) ∧ AnalysisConfig.default.likelyPlayers < 2 ^ 64 ∧
      ∃ fwd bwd, matchup tieLeague.store AnalysisConfig.default "V" "AAA" "BBB" = .ok fwd ∧
        matchup tieLeague.store AnalysisConfig.default "V" "BBB" "AAA" = .ok bwd ∧
        MatchupReport.Mirrors fwd bwd := by
  have h1 : (resolveTeam tieLeague.teams tieLeague.rosters "AAA").isSome := by
    simp only [resolveTeam, distinctSorted, mergeSort_eq_bounded]
    decide +kernel
  have h2 : (resolveTeam tieLeague.teams tieLeague.rosters "BBB").isSome := by
    simp only [resolveTeam, distinctSorted, mergeSort_eq_bounded]
    decide +kernel
  have hscores : ∀ s ∈ tieLeague.scores, s.score.natAbs < 2 ^ 64 := by decide
  have hlimit : AnalysisConfig.default.likelyPlayers < 2 ^ 64 := by decide
  exact ⟨h1, h2, hscores, hlimit, matchup_swap_teams h1 h2 hscores hlimit⟩

/-- Both edges lopsided toward the team that played tie, and each run lists that team's
advantages in machine-key order: the second run is not the first reversed. -/
theorem matchup_ties_keep_key_order :
    (matchup tieLeague.store AnalysisConfig.default "V" "AAA" "BBB").toOption.map
        (·.summary.team2Advantages) = some ["Alpha", "Beta"] ∧
      (matchup tieLeague.store AnalysisConfig.default "V" "BBB" "AAA").toOption.map
        (·.summary.team1Advantages) = some ["Alpha", "Beta"] := by
  constructor <;>
    simp only [matchup, distinctSorted, buildMachineStats, selectLikely, AggregateStat.ofScores, League.store,
      League.machineStats, resolveTeam, compareMachines, groups, distinctKeys, mergeSort_eq_bounded] <;>
    decide +kernel

end PinballScout
