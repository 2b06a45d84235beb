import PinballScout.Proofs.Matchup
import PinballScout.Proofs.Float.Sum
import PinballScout.Proofs.StableSort

/-! The rows of a matchup report. There is one row for each machine of the venue that either
    team's cohort has played, anywhere, and a side is present exactly when its cohort has played
    the machine. Every edge compares finite likely scores, so its sort key is a number; the rows
    then run from team one's biggest edge to team two's, and since the sort is stable, rows with
    equal keys keep the machine-key order they were built in. Which side an edge favours is read
    off the sign of its key, so the summary lists the machines in row order: team one's
    advantages, then the contested machines, then team two's advantages. -/

namespace PinballScout

/-- A cohort has played a machine when one of its players has a score on it, at any venue. -/
def League.Played (league : League) (cohort : List String) (machine : String) : Prop :=
  ∃ s ∈ league.scores, s.machineKey = machine ∧ s.player ∈ cohort

/-! ### Which machines have rows -/

theorem AggregateStat.ofScores_isSome {xs : List Score} (h : xs ≠ []) : (AggregateStat.ofScores xs).isSome := by
  have hs : xs.mergeSort (fun a b => decide (a ≤ b)) ≠ [] := fun hnil => by
    have hperm := List.mergeSort_perm xs fun a b => decide (a ≤ b)
    rw [hnil] at hperm
    exact h hperm.symm.eq_nil
  obtain ⟨a, ha⟩ := Option.ne_none_iff_exists'.mp (mt (Percentile.select_eq_none_iff .p50 _).mp hs)
  obtain ⟨b, hb⟩ := Option.ne_none_iff_exists'.mp (mt (Percentile.select_eq_none_iff .p90 _).mp hs)
  simp [AggregateStat.ofScores, ha, hb]

/-- Score rows aggregate to one machine for each machine some row is on. -/
theorem mem_keys_buildMachineStats {rows : List ScoreRow} {limit : Nat} {k : String} :
    k ∈ (buildMachineStats rows limit).map (·.machineKey) ↔ ∃ r ∈ rows, r.machineKey = k := by
  have hkeyed : ∀ key, (∃ a, (key, a) ∈ rows.map fun r => (r.machineKey, r)) ↔ ∃ r ∈ rows, r.machineKey = key :=
    fun key => by simp
  simp only [buildMachineStats]
  constructor
  · intro hk
    obtain ⟨s, hs, rfl⟩ := List.mem_map.mp hk
    obtain ⟨key, hkey, hs'⟩ := List.mem_filterMap.mp (List.mem_mergeSort.mp hs)
    obtain ⟨stat, -, rfl⟩ := Option.map_eq_some_iff.mp hs'
    exact (hkeyed key).mp (mem_distinctKeys.mp hkey)
  · rintro ⟨r, hr, rfl⟩
    have hkey := mem_distinctKeys.mpr ((hkeyed r.machineKey).mpr ⟨r, hr, rfl⟩)
    -- the row itself is a score on its machine, so the machine has an aggregate
    have hne : (valuesOf (rows.map fun r => (r.machineKey, r)) r.machineKey).map (·.score) ≠ [] :=
      List.ne_nil_of_mem (List.mem_map_of_mem (mem_valuesOf.mpr (List.mem_map_of_mem hr)))
    obtain ⟨stat, hstat⟩ := Option.isSome_iff_exists.mp (AggregateStat.ofScores_isSome hne)
    exact List.mem_map.mpr ⟨_, List.mem_mergeSort.mpr (List.mem_filterMap.mpr ⟨r.machineKey, hkey, by
      rw [hstat]
      rfl⟩), by rfl⟩

theorem League.mem_keys_machineStats {league : League} {cohort : List String} {limit : Nat} {k : String} :
    k ∈ (league.machineStats cohort none limit).map (·.machineKey) ↔ league.Played cohort k := by
  rw [League.machineStats, mem_keys_buildMachineStats]
  constructor
  · rintro ⟨r, hr, rfl⟩
    obtain ⟨s, hs, rfl⟩ := List.mem_map.mp hr
    obtain ⟨hs, hc⟩ := List.mem_filter.mp hs
    exact ⟨s, hs, rfl, by simpa using hc⟩
  · rintro ⟨s, hs, rfl, hc⟩
    exact ⟨_, List.mem_map.mpr ⟨s, List.mem_filter.mpr ⟨hs, by simpa using hc⟩, rfl⟩, rfl⟩

theorem mem_keys_restrictTo {stats : List MachineStats} {machines : List String} {k : String} :
    k ∈ (restrictTo stats machines).map (·.machineKey) ↔ k ∈ machines ∧ k ∈ stats.map (·.machineKey) := by
  simp only [restrictTo, List.mem_map, List.mem_filter]
  constructor
  · rintro ⟨s, ⟨hs, hm⟩, rfl⟩
    exact ⟨by simpa using hm, s, hs, rfl⟩
  · rintro ⟨hm, s, hs, rfl⟩
    exact ⟨s, ⟨hs, by simpa using hm⟩, rfl⟩

theorem compareMachines_keys (stats1 stats2 : List MachineStats) (names : List (String × String))
    (config : AnalysisConfig) :
    (compareMachines stats1 stats2 names config).map (·.machineKey) =
      distinctSorted (stats1.map (·.machineKey) ++ stats2.map (·.machineKey)) := by
  simp [compareMachines, Function.comp_def]

/-- A row has a side exactly for the aggregates that have its machine. -/
theorem sides_of_mem_compareMachines {stats1 stats2 : List MachineStats} {names : List (String × String)}
    {config : AnalysisConfig} {r : MachineMatchup} (hr : r ∈ compareMachines stats1 stats2 names config) :
    (r.team1.isSome ↔ r.machineKey ∈ stats1.map (·.machineKey)) ∧
      (r.team2.isSome ↔ r.machineKey ∈ stats2.map (·.machineKey)) := by
  obtain ⟨key, -, rfl⟩ := List.mem_map.mp hr
  simp [List.find?_isSome]

/-! ### Edges are numbers -/

theorem minNum_eq_or (a b : Float) : minNum a b = a ∨ minNum a b = b := by
  unfold minNum
  split_ifs <;> simp

theorem hundred_unpack :
    (100.0 : Float).toModel.unpack = .finite .positive 7036874417766400 (-46) (by norm_num) := rfl

/-- An edge between two finite values has a number as its sort key. -/
theorem sortKey_edgePercent_isNaN {a b : Float} (ha : a.isFinite = true) (hb : b.isFinite = true) :
    (edgePercent a b).sortKey.isNaN = false := by
  unfold edgePercent
  split
  · rfl
  · dsimp only
    split
    · split <;> rfl
    · next hlo =>
      -- the smaller value is one of the two, so it is finite, and it is not zero
      have hfin : (minNum a b).isFinite = true := by
        rcases minNum_eq_or a b with h | h
        · rw [h]
          exact ha
        · rw [h]
          exact hb
      obtain ⟨s, m, e, h, hu⟩ := Float.unpack_eq_finite hfin (by simpa using hlo)
      exact Float.isNaN_mul (Float.isNaN_div (Float.isNaN_sub ha hb) hu) hundred_unpack

theorem zero_unpack : (0.0 : Float).toModel.unpack = .zero .positive := rfl

theorem likelyScore_within {players : List LikelyPlayer} (h : LikelyPlayer.Bounded players) :
    ((likelyScore players).getD 0.0).toModel.unpack.Within 121 := by
  unfold likelyScore
  cases hne : players.isEmpty with
  | true =>
    rw [if_pos rfl, Option.getD_none, zero_unpack]
    trivial
  | false =>
    have hlen : players.length ≠ 0 := by simpa [List.isEmpty_iff_length_eq_zero] using hne
    have hzero : (0.0 : Float).toModel.unpack.Within 68 := by
      rw [zero_unpack]
      trivial
    simp only [Bool.false_eq_true, reduceIte, Option.getD_some]
    -- the running sum of the medians stays within exponent 68, and the mean within 121
    have hsum := Float.foldl_add_ofInt_within (·.p50) players h.2 hzero
    exact Float.div_ofNat_within hsum hlen h.1

theorem sortKey_isNaN_of_mem_compareMachines {stats1 stats2 : List MachineStats}
    {names : List (String × String)} {config : AnalysisConfig}
    (h1 : ∀ s ∈ stats1, LikelyPlayer.Bounded s.likelyPlayers) (h2 : ∀ s ∈ stats2, LikelyPlayer.Bounded s.likelyPlayers)
    {r : MachineMatchup} (hr : r ∈ compareMachines stats1 stats2 names config) : r.edge.sortKey.isNaN = false := by
  obtain ⟨key, -, rfl⟩ := List.mem_map.mp hr
  exact sortKey_edgePercent_isNaN (likelyScore_within (bounded_found h1 _)).isFinite
    (likelyScore_within (bounded_found h2 _)).isFinite

/-! ### Sorting keeps ties in order -/

/-- Rows with numbers as keys, in increasing machine-key order, sort from the first side's biggest
edge to the second side's, equal keys in machine-key order. -/
theorem pairwise_mergeSort_before {rows : List MachineMatchup} (hnan : ∀ r ∈ rows, r.edge.sortKey.isNaN = false)
    (hkeys : rows.Pairwise fun r s => r.machineKey < s.machineKey) :
    (rows.mergeSort fun a b => Edge.before a.edge b.edge).Pairwise fun r s =>
      s.edge.sortKey < r.edge.sortKey ∨ (r.edge.sortKey == s.edge.sortKey) = true ∧ r.machineKey < s.machineKey := by
  rw [mergeSort_congr fun a ha b hb => Edge.before_eq_rank (hnan a ha) (hnan b hb)]
  -- downward by rank is upward by its dual, and merge sort keeps the rows of one rank in key order
  have hdown : ∀ a b : MachineMatchup, decide (b.edge.sortKey.rank ≤ a.edge.sortKey.rank) = true ↔
      OrderDual.toDual a.edge.sortKey.rank ≤ OrderDual.toDual b.edge.sortKey.rank :=
    fun _ _ => decide_eq_true_iff.trans OrderDual.toDual_le_toDual.symm
  refine (pairwise_mergeSort_stable _ hdown hkeys).imp_of_mem fun ha hb h => ?_
  have hra := hnan _ (List.mem_mergeSort.mp ha)
  have hrb := hnan _ (List.mem_mergeSort.mp hb)
  rw [Float.lt_iff_rank hrb hra, Float.beq_iff_rank hra hrb]
  simpa only [OrderDual.toDual_lt_toDual, OrderDual.toDual_inj] using h

/-! ### The summary follows the rows -/

/-- The place of a machine in a report's summary: team one's advantages, the contested machines,
team two's advantages. -/
def Side.place : Option Side → Nat
  | some .first => 0
  | none => 1
  | some .second => 2

theorem Side.place_le_two (o : Option Side) : Side.place o ≤ 2 := by
  rcases o with _ | (_ | _) <;> decide

/-- An edge favours the first side when its key is above zero and the second when it is below. -/
theorem Edge.favors_eq_sortKey (e : Edge) :
    e.favors = if 0.0 < e.sortKey then some .first else if e.sortKey < 0.0 then some .second else none := by
  rcases e with _ | (_ | _) | p
  · decide
  · decide
  · decide
  · rfl

/-- The higher an edge's key, the earlier its place in the summary. -/
theorem Edge.place_favors_antitone {e f : Edge} (he : e.sortKey.isNaN = false) (hf : f.sortKey.isNaN = false)
    (h : f.sortKey.rank ≤ e.sortKey.rank) : Side.place e.favors ≤ Side.place f.favors := by
  have h0 : (0.0 : Float).isNaN = false := rfl
  rw [Edge.favors_eq_sortKey e, Edge.favors_eq_sortKey f]
  by_cases hfpos : 0.0 < f.sortKey
  · have hepos : 0.0 < e.sortKey := by
      rw [Float.lt_iff_rank h0 hf] at hfpos
      rw [Float.lt_iff_rank h0 he]
      exact lt_of_lt_of_le hfpos h
    simp [hepos, hfpos, Side.place]
  by_cases hfneg : f.sortKey < 0.0
  · simp only [hfpos, hfneg, if_false, if_true]
    exact Side.place_le_two _
  · have heneg : ¬e.sortKey < 0.0 := by
      rw [Float.lt_iff_rank hf h0, not_lt] at hfneg
      rw [Float.lt_iff_rank he h0, not_lt]
      exact le_trans hfneg h
    simp only [hfpos, hfneg, heneg, if_false]
    split <;> decide

/-- A list ordered by a place among three is its members of place 0, then of place 1, then of
place 2. -/
theorem eq_filter_append_of_pairwise {α : Type} (f : α → Nat) :
    ∀ {l : List α}, (∀ a ∈ l, f a ≤ 2) → l.Pairwise (fun a b => f a ≤ f b) →
      l = l.filter (f · == 0) ++ l.filter (f · == 1) ++ l.filter (f · == 2)
  | [], _, _ => rfl
  | x :: xs, hb, hp => by
    rw [List.pairwise_cons] at hp
    have ih := eq_filter_append_of_pairwise f (fun a ha => hb a (List.mem_cons_of_mem x ha)) hp.2
    -- the members after `x` stand at its place or later
    have hnil : ∀ k < f x, xs.filter (f · == k) = [] := fun k hk =>
      List.filter_eq_nil_iff.mpr fun a ha hfa => by
        have := hp.1 a ha
        simp only [beq_iff_eq] at hfa
        omega
    have hx := hb x List.mem_cons_self
    rcases (by omega : f x = 0 ∨ f x = 1 ∨ f x = 2) with h | h | h
    · simpa [List.filter_cons, h] using ih
    · simpa [List.filter_cons, h, hnil 0 (by omega)] using ih
    · simpa [List.filter_cons, h, hnil 0 (by omega), hnil 1 (by omega)] using ih

/-- Rows ordered by their place in the summary list their machines as the summary does. -/
theorem names_eq_partitionEdges {rows : List MachineMatchup}
    (h : rows.Pairwise fun r s => Side.place r.edge.favors ≤ Side.place s.edge.favors) :
    rows.map (·.machineName) = (partitionEdges rows).team1Advantages ++ (partitionEdges rows).contested ++
      (partitionEdges rows).team2Advantages := by
  have hsplit := eq_filter_append_of_pairwise (fun r : MachineMatchup => Side.place r.edge.favors)
    (fun r _ => Side.place_le_two _) h
  have h0 : ∀ o : Option Side, (Side.place o == 0) = (o == some .first) := by
    intro o
    rcases o with _ | (_ | _) <;> rfl
  have h1 : ∀ o : Option Side, (Side.place o == 1) = (o == none) := by
    intro o
    rcases o with _ | (_ | _) <;> rfl
  have h2 : ∀ o : Option Side, (Side.place o == 2) = (o == some .second) := by
    intro o
    rcases o with _ | (_ | _) <;> rfl
  conv_lhs => rw [hsplit]
  simp only [partitionEdges, List.map_append, h0, h1, h2]

/-- Rows sorted by edge list their machines as their summary does. -/
theorem names_eq_partitionEdges_of_sorted {rows : List MachineMatchup}
    (hnan : ∀ r ∈ rows, r.edge.sortKey.isNaN = false)
    (h : rows.Pairwise fun r s =>
      s.edge.sortKey < r.edge.sortKey ∨ (r.edge.sortKey == s.edge.sortKey) = true ∧ r.machineKey < s.machineKey) :
    rows.map (·.machineName) = (partitionEdges rows).team1Advantages ++ (partitionEdges rows).contested ++
      (partitionEdges rows).team2Advantages := by
  refine names_eq_partitionEdges (h.imp_of_mem fun {r s} hr hs hrs => ?_)
  have hnr := hnan r hr
  have hns := hnan s hs
  refine Edge.place_favors_antitone hnr hns ?_
  rcases hrs with hlt | ⟨heq, -⟩
  · exact ((Float.lt_iff_rank hns hnr).mp hlt).le
  · exact ((Float.beq_iff_rank hnr hns).mp heq).ge

/-! ### Matchups on a snapshot -/

/-- How the report of a matchup between two cohorts at a venue is laid out: each machine of the
venue that either cohort has played has one row, with a side for each cohort that has played it;
every sort key is a number, and the rows run from team one's biggest edge to team two's, equal
keys in machine-key order; the summary lists the machines in row order. -/
structure MatchupReport.Arranged (league : League) (venue : String) (team1 team2 : TeamCohort)
    (report : MatchupReport) : Prop where
  nodup : (report.machines.map (·.machineKey)).Nodup
  machines : ∀ k, k ∈ report.machines.map (·.machineKey) ↔
    k ∈ venueMachineSet league.venueMachines venue ∧ (league.Played team1.players k ∨ league.Played team2.players k)
  team1 : ∀ r ∈ report.machines, r.team1.isSome ↔ league.Played team1.players r.machineKey
  team2 : ∀ r ∈ report.machines, r.team2.isSome ↔ league.Played team2.players r.machineKey
  numbers : ∀ r ∈ report.machines, r.edge.sortKey.isNaN = false
  sorted : report.machines.Pairwise fun r s =>
    s.edge.sortKey < r.edge.sortKey ∨ (r.edge.sortKey == s.edge.sortKey) = true ∧ r.machineKey < s.machineKey
  summary : report.machines.map (·.machineName) =
    report.summary.team1Advantages ++ report.summary.contested ++ report.summary.team2Advantages

section Snapshot
variable {league : League} {config : AnalysisConfig} {venue : String} {team1 team2 : TeamCohort}

theorem League.mem_matchupRows_keys {k : String} :
    k ∈ (league.matchupRows config venue team1 team2).map (·.machineKey) ↔
      k ∈ venueMachineSet league.venueMachines venue ∧
        (league.Played team1.players k ∨ league.Played team2.players k) := by
  simp only [League.matchupRows, compareMachines_keys, mem_distinctSorted, List.mem_append, mem_keys_restrictTo,
    League.mem_keys_machineStats]
  exact and_or_left.symm

theorem League.matchupRows_sorted :
    (league.matchupRows config venue team1 team2).Pairwise fun r s => r.machineKey < s.machineKey := by
  have h := distinctSorted_sorted
    ((restrictTo (league.machineStats team1.players none config.likelyPlayers)
      (venueMachineSet league.venueMachines venue)).map (·.machineKey) ++
    (restrictTo (league.machineStats team2.players none config.likelyPlayers)
      (venueMachineSet league.venueMachines venue)).map (·.machineKey))
  rw [← compareMachines_keys _ _ league.machines config, List.pairwise_map] at h
  exact h

theorem League.sides_of_mem_matchupRows {r : MachineMatchup} (hr : r ∈ league.matchupRows config venue team1 team2) :
    (r.team1.isSome ↔ league.Played team1.players r.machineKey) ∧
      (r.team2.isSome ↔ league.Played team2.players r.machineKey) := by
  have hk : r.machineKey ∈ venueMachineSet league.venueMachines venue :=
    (League.mem_matchupRows_keys.mp (List.mem_map_of_mem hr)).1
  obtain ⟨h1, h2⟩ := sides_of_mem_compareMachines hr
  rw [h1, h2, mem_keys_restrictTo, mem_keys_restrictTo, League.mem_keys_machineStats, League.mem_keys_machineStats]
  exact ⟨and_iff_right hk, and_iff_right hk⟩

theorem League.sortKey_isNaN_of_mem_matchupRows (hscores : ∀ s ∈ league.scores, s.score.natAbs < 2 ^ 64)
    (hlimit : config.likelyPlayers < 2 ^ 64) {r : MachineMatchup}
    (hr : r ∈ league.matchupRows config venue team1 team2) : r.edge.sortKey.isNaN = false :=
  sortKey_isNaN_of_mem_compareMachines (league.bounded_restrictTo hscores hlimit _)
    (league.bounded_restrictTo hscores hlimit _) hr

end Snapshot

/-- The matchup report of two resolved teams of a league of 64-bit scores is arranged: one row per
machine of the venue that either cohort has played, sides for the cohorts that played it, rows
sorted by edge with ties in machine-key order, and a summary in row order. -/
theorem matchup_arranged {league : League} {config : AnalysisConfig} {venue t1 t2 : String}
    {team1 team2 : TeamCohort} (h1 : resolveTeam league.teams league.rosters t1 = some team1)
    (h2 : resolveTeam league.teams league.rosters t2 = some team2)
    (hscores : ∀ s ∈ league.scores, s.score.natAbs < 2 ^ 64) (hlimit : config.likelyPlayers < 2 ^ 64) :
    ∃ report, matchup league.store config venue t1 t2 = .ok report ∧
      report.Arranged league venue team1 team2 := by
  refine ⟨_, matchup_store h1 h2, ?_⟩
  have hperm := List.mergeSort_perm (league.matchupRows config venue team1 team2)
    fun a b => Edge.before a.edge b.edge
  have hnan : ∀ r ∈ (league.matchupRows config venue team1 team2).mergeSort (fun a b => Edge.before a.edge b.edge),
      r.edge.sortKey.isNaN = false :=
    fun r hr => League.sortKey_isNaN_of_mem_matchupRows hscores hlimit (List.mem_mergeSort.mp hr)
  have hrows : ∀ r ∈ league.matchupRows config venue team1 team2, r.edge.sortKey.isNaN = false :=
    fun r hr => League.sortKey_isNaN_of_mem_matchupRows hscores hlimit hr
  have hsorted := pairwise_mergeSort_before hrows League.matchupRows_sorted
  refine ⟨?_, fun k => ?_, fun r hr => ?_, fun r hr => ?_, hnan, hsorted, ?_⟩
  · exact (hperm.map _).nodup_iff.mpr (List.pairwise_map.mpr (League.matchupRows_sorted.imp ne_of_lt))
  · exact (hperm.map _).mem_iff.trans League.mem_matchupRows_keys
  · exact (League.sides_of_mem_matchupRows (List.mem_mergeSort.mp hr)).1
  · exact (League.sides_of_mem_matchupRows (List.mem_mergeSort.mp hr)).2
  · exact names_eq_partitionEdges_of_sorted hnan hsorted

/-- Three machines at a venue, one that each team leads on and one that only team one has
played, and a fourth machine elsewhere that only team one has played. -/
def sampleLeague : League where
  machines := [("M1", "Alpha"), ("M2", "Beta"), ("M3", "Gamma"), ("M4", "Delta")]
  venues := []
  venueMachines := [("V", ["M1", "M2", "M3"])]
  teams := [⟨"AAA", 1, "Team A", none⟩, ⟨"BBB", 1, "Team B", none⟩]
  rosters := [⟨"pa", "AAA", 1⟩, ⟨"pb", "BBB", 1⟩]
  scores := [⟨"pa", "AAA", 1, "M1", "V", 300⟩, ⟨"pb", "BBB", 1, "M1", "V", 100⟩,
    ⟨"pa", "AAA", 1, "M2", "V", 250⟩, ⟨"pb", "BBB", 1, "M2", "W", 500⟩,
    ⟨"pa", "AAA", 1, "M3", "V", 50⟩, ⟨"pa", "AAA", 1, "M4", "W", 10⟩]
  machines_ascending := by decide
  venues_ascending := keysAscending_nil
  venueMachines_ascending := by decide

theorem matchup_arranged_sample :
    resolveTeam sampleLeague.teams sampleLeague.rosters "AAA" = some ⟨"AAA", "Team A", 1, ["pa"]⟩ ∧
      resolveTeam sampleLeague.teams sampleLeague.rosters "BBB" = some ⟨"BBB", "Team B", 1, ["pb"]⟩ ∧
      (∀ s ∈ sampleLeague.scores, s.score.natAbs < 2 ^ 64) ∧ AnalysisConfig.default.likelyPlayers < 2 ^ 64 ∧
      ∃ report, matchup sampleLeague.store AnalysisConfig.default "V" "AAA" "BBB" = .ok report ∧
        report.Arranged sampleLeague "V" ⟨"AAA", "Team A", 1, ["pa"]⟩ ⟨"BBB", "Team B", 1, ["pb"]⟩ := by
  have h1 : resolveTeam sampleLeague.teams sampleLeague.rosters "AAA" = some ⟨"AAA", "Team A", 1, ["pa"]⟩ := by
    simp only [resolveTeam, distinctSorted, mergeSort_eq_bounded]
    decide +kernel
  have h2 : resolveTeam sampleLeague.teams sampleLeague.rosters "BBB" = some ⟨"BBB", "Team B", 1, ["pb"]⟩ := by
    simp only [resolveTeam, distinctSorted, mergeSort_eq_bounded]
    decide +kernel
  have hscores : ∀ s ∈ sampleLeague.scores, s.score.natAbs < 2 ^ 64 := by decide
  have hlimit : AnalysisConfig.default.likelyPlayers < 2 ^ 64 := by decide
  exact ⟨h1, h2, hscores, hlimit, matchup_arranged h1 h2 hscores hlimit⟩

-- Gamma, which only team one has played, leads; Delta stands at another venue and has no row.
example : (matchup sampleLeague.store AnalysisConfig.default "V" "AAA" "BBB").toOption.map
    (fun r => (r.machines.map (·.machineKey), r.summary)) = some (["M3", "M1", "M2"], ⟨["Gamma", "Alpha"], ["Beta"], []⟩) := by
  simp only [matchup, distinctSorted, buildMachineStats, selectLikely, AggregateStat.ofScores, League.store,
    League.machineStats, resolveTeam, compareMachines, groups, distinctKeys, mergeSort_eq_bounded]
  decide +kernel

end PinballScout
