import PinballScout.Proofs.MatchupRows
import PinballScout.Proofs.Float.Grid

/-! Which side a matchup edge favours. A row's edge compares the likely scores of its two sides,
    zero for a side without stats, and divides their difference by the smaller one, so the sign
    of the percentage is the sign of the difference times the sign of the smaller score. The
    likely scores of 64-bit medians are zero or full mantissas in the normal range, so every
    step of that arithmetic keeps its sign and none of it rounds to zero. Hence the edge favours
    neither side exactly when the scores are equal; otherwise it favours the larger score when
    the smaller one is not negative, and the smaller score when it is. A machine that only one
    team has played is lopsided toward that team only when its score is above zero: at zero the
    edge is even, and below zero it is a percentage. -/

namespace PinballScout

open Float.Model UnpackedFloat

/-- The score a row's edge reads for a side: the mean median of its likely players, and zero for a
side without any. -/
def sideScore (side : Option SideStats) : Float := (side.bind (·.likelyScore)).getD 0.0

/-- A likely score of bounded players is zero or has a full mantissa at an exponent from -169 to 69. -/
theorem likelyScore_ranged {players : List LikelyPlayer} (h : LikelyPlayer.Bounded players) :
    ((likelyScore players).getD 0.0).toModel.unpack.Ranged (-169) 69 := by
  unfold likelyScore
  cases hne : players.isEmpty with
  | true =>
    rw [if_pos rfl, Option.getD_none, zero_unpack]
    trivial
  | false =>
    have hlen : players.length ≠ 0 := by simpa [List.isEmpty_iff_length_eq_zero] using hne
    simp only [Bool.false_eq_true, reduceIte, Option.getD_some]
    have hsum := Float.sum_ofInt_ranged (fun p : LikelyPlayer => p.p50) h.2
    exact Float.div_ofNat_ranged hsum hlen h.1

theorem favors_edgePercent_of_beq {a b : Float} (h : (a == b) = true) : (edgePercent a b).favors = none := by
  simp [edgePercent, h, Edge.favors]

section Edges
variable {a b : Float} (ha : a.toModel.unpack.Ranged (-169) 69) (hb : b.toModel.unpack.Ranged (-169) 69)
include ha hb

/-- Between unequal likely scores, a percentage favours the first side exactly when the difference
and the smaller value have the same sign. -/
theorem favors_percent (hab : (a == b) = false) {lo : Float} (hlo : lo.toModel.unpack.Ranged (-169) 69)
    (hlo0 : (lo == 0.0) = false) :
    (Edge.percent ((a - b) / lo * 100.0)).favors = some (if (b < a ↔ 0.0 < lo) then .first else .second) := by
  obtain ⟨sd, rd, ed, hd, hdu, hdr, hsd⟩ := Float.sub_ranged ha hb (by norm_num) (by norm_num) hab
  obtain ⟨sl, ml, el, hl, hlu, hlr⟩ := Float.unpack_eq_finite_of_ranged hlo hlo0
  obtain ⟨rq, eq, hq, hqu, hqr⟩ := Float.div_ranged hdu hlu hdr hlr (by norm_num) (by norm_num)
  obtain ⟨rp, ep, hp, hpu, -⟩ := Float.mul_ranged hqu hundred_unpack hqr
    ⟨by norm_num, by norm_num, le_rfl, le_rfl⟩ (by norm_num) (by norm_num)
  -- the percentage has the sign of the difference over the smaller value
  have hpos := Float.zero_lt_iff_sign hpu
  have hneg := Float.lt_zero_iff_sign hpu
  rw [Sign.mul_positive, Sign.div_eq_positive_iff, hsd, ← Float.zero_lt_iff_sign hlu] at hpos
  rw [Sign.mul_positive, Sign.div_eq_negative_iff, hsd, ← Float.zero_lt_iff_sign hlu] at hneg
  by_cases h : (b < a ↔ 0.0 < lo)
  · simp only [Edge.favors, gt_iff_lt, if_pos (hpos.mpr h), if_pos h]
  · simp only [Edge.favors, gt_iff_lt, if_neg (mt hpos.mp h), if_pos (hneg.mpr h), if_neg h]

/-- When the second score is the smaller, its sign decides: the first side is favoured unless the
second score is below zero. -/
theorem favors_edgePercent_of_lt (h : b < a) :
    (edgePercent a b).favors = some (if 0.0 ≤ b then .first else .second) := by
  have hab := (Float.beq_eq_false_of_lt h).2
  unfold edgePercent
  rw [if_neg (by simp [hab])]
  dsimp only
  rw [(minNum_of_lt h).2]
  by_cases hb0 : (b == 0.0) = true
  · -- the second side stands at zero, and the first wins outright
    rw [if_pos hb0, if_pos h, if_pos (Float.zero_le_of_beq_zero hb0)]
    rfl
  · have hb0' : (b == 0.0) = false := by simpa using hb0
    rw [if_neg hb0, favors_percent ha hb hab hb hb0']
    simp only [Float.zero_le_iff_lt (Float.isNaN_of_ranged hb) hb0', iff_true_left h]

/-- When the first score is the smaller, its sign decides: the second side is favoured unless the
first score is below zero. -/
theorem favors_edgePercent_of_gt (h : a < b) :
    (edgePercent a b).favors = some (if 0.0 ≤ a then .second else .first) := by
  have hab := (Float.beq_eq_false_of_lt h).1
  unfold edgePercent
  rw [if_neg (by simp [hab])]
  dsimp only
  rw [(minNum_of_lt h).1]
  by_cases ha0 : (a == 0.0) = true
  · -- the first side stands at zero, and the second wins outright
    rw [if_pos ha0, if_neg (Float.not_lt_of_lt h), if_pos (Float.zero_le_of_beq_zero ha0)]
    rfl
  · have ha0' : (a == 0.0) = false := by simpa using ha0
    rw [if_neg ha0, favors_percent ha hb hab ha ha0']
    simp only [Float.zero_le_iff_lt (Float.isNaN_of_ranged ha) ha0', iff_false_left (Float.not_lt_of_lt h), ite_not]

/-- Which side the edge between two likely scores favours: neither when they are equal; otherwise
the larger when the smaller is not negative, and the smaller when it is. -/
theorem favors_edgePercent_iff :
    ((edgePercent a b).favors = none ↔ (a == b) = true) ∧
    ((edgePercent a b).favors = some .first ↔ (b < a ∧ 0.0 ≤ b) ∨ (a < b ∧ a < 0.0)) ∧
    ((edgePercent a b).favors = some .second ↔ (a < b ∧ 0.0 ≤ a) ∨ (b < a ∧ b < 0.0)) := by
  have han := Float.isNaN_of_ranged ha
  have hbn := Float.isNaN_of_ranged hb
  -- once the order of the scores is known, the sign of the smaller one decides
  rcases Float.lt_or_beq_or_lt han hbn with h | h | h
  · rw [favors_edgePercent_of_gt ha hb h]
    by_cases h0 : a < 0.0 <;>
      simp [h, h0, (Float.beq_eq_false_of_lt h).1, Float.not_lt_of_lt h, Float.zero_le_iff_not_lt han]
  · rw [favors_edgePercent_of_beq h]
    have hba : (b == a) = true := by rw [Float.beq_comm_of hbn han]; exact h
    simp [h, Float.not_lt_of_beq h, Float.not_lt_of_beq hba]
  · rw [favors_edgePercent_of_lt ha hb h]
    by_cases h0 : b < 0.0 <;>
      simp [h, h0, (Float.beq_eq_false_of_lt h).2, Float.not_lt_of_lt h, Float.zero_le_iff_not_lt hbn]

end Edges

/-! ### Machines only one team has played -/

/-- Against a side without stats, the edge is lopsided toward the first side exactly when its
score is above zero. -/
theorem edgePercent_zero_right_eq_lopsided {a : Float} (ha : a.isNaN = false) :
    edgePercent a 0.0 = .lopsided .first ↔ 0.0 < a := by
  rcases Float.lt_or_beq_or_lt ha Float.isNaN_zero with h | h | h
  · -- below zero, the score itself is the smaller value and the edge is a percentage
    simp [edgePercent, (Float.beq_eq_false_of_lt h).1, (minNum_of_lt h).1, Float.not_lt_of_lt h]
  · simp [edgePercent, h, Float.not_zero_lt_of_beq_zero h]
  · -- above zero, the side without stats is the smaller value, and the first side wins outright
    unfold edgePercent
    rw [if_neg (by simp [(Float.beq_eq_false_of_lt h).2])]
    dsimp only
    rw [(minNum_of_lt h).2, if_pos Float.zero_beq_zero, if_pos h]
    exact iff_of_true rfl h

/-- Against a first side without stats, the edge is lopsided toward the second side exactly when
its score is above zero. -/
theorem edgePercent_zero_left_eq_lopsided {b : Float} (hb : b.isNaN = false) :
    edgePercent 0.0 b = .lopsided .second ↔ 0.0 < b := by
  rcases Float.lt_or_beq_or_lt hb Float.isNaN_zero with h | h | h
  · simp [edgePercent, (Float.beq_eq_false_of_lt h).2, (minNum_of_lt h).2, (Float.beq_eq_false_of_lt h).1,
      Float.not_lt_of_lt h]
  · have h' : ((0.0 : Float) == b) = true := by rw [Float.beq_comm_of Float.isNaN_zero hb]; exact h
    simp [edgePercent, h', Float.not_zero_lt_of_beq_zero h]
  · unfold edgePercent
    rw [if_neg (by simp [(Float.beq_eq_false_of_lt h).1])]
    dsimp only
    rw [(minNum_of_lt h).1, if_pos Float.zero_beq_zero, if_neg (Float.not_lt_of_lt h)]
    exact iff_of_true rfl h

/-! ### Rows of a matchup -/

/-- How the edge of a row follows from the scores of its two sides (`sideScore`): it favours
neither side when they are equal; otherwise the larger score when the smaller one is not
negative, and the smaller score when it is. A machine that only one team has played is lopsided
toward that team exactly when its score is above zero. -/
structure MachineMatchup.FavorsByScores (r : MachineMatchup) : Prop where
  none_iff : r.edge.favors = none ↔ (sideScore r.team1 == sideScore r.team2) = true
  first_iff : r.edge.favors = some .first ↔
    (sideScore r.team2 < sideScore r.team1 ∧ 0.0 ≤ sideScore r.team2) ∨
      (sideScore r.team1 < sideScore r.team2 ∧ sideScore r.team1 < 0.0)
  second_iff : r.edge.favors = some .second ↔
    (sideScore r.team1 < sideScore r.team2 ∧ 0.0 ≤ sideScore r.team1) ∨
      (sideScore r.team2 < sideScore r.team1 ∧ sideScore r.team2 < 0.0)
  lopsided_first : r.team2 = none → (r.edge = .lopsided .first ↔ 0.0 < sideScore r.team1)
  lopsided_second : r.team1 = none → (r.edge = .lopsided .second ↔ 0.0 < sideScore r.team2)

theorem sideScore_side (o : Option MachineStats) :
    sideScore (o.map MachineStats.side) =
      (likelyScore (((o.map MachineStats.side).map (·.likelyPlayers)).getD [])).getD 0.0 := by
  cases o <;> rfl

section Rows
variable {stats1 stats2 : List MachineStats} {names : List (String × String)} {config : AnalysisConfig}
  {r : MachineMatchup}

/-- A row's edge compares the scores of its two sides. -/
theorem edge_of_mem_compareMachines (hr : r ∈ compareMachines stats1 stats2 names config) :
    r.edge = edgePercent (sideScore r.team1) (sideScore r.team2) := by
  obtain ⟨key, -, rfl⟩ := List.mem_map.mp hr
  dsimp only
  rw [sideScore_side, sideScore_side]

theorem sideScore_ranged_of_mem_compareMachines (h1 : ∀ s ∈ stats1, LikelyPlayer.Bounded s.likelyPlayers)
    (h2 : ∀ s ∈ stats2, LikelyPlayer.Bounded s.likelyPlayers) (hr : r ∈ compareMachines stats1 stats2 names config) :
    (sideScore r.team1).toModel.unpack.Ranged (-169) 69 ∧ (sideScore r.team2).toModel.unpack.Ranged (-169) 69 := by
  obtain ⟨key, -, rfl⟩ := List.mem_map.mp hr
  dsimp only
  rw [sideScore_side, sideScore_side]
  exact ⟨likelyScore_ranged (bounded_found h1 _), likelyScore_ranged (bounded_found h2 _)⟩

/-- Every row compared from bounded likely players has its edge follow from the scores. -/
theorem favorsByScores_of_mem_compareMachines (h1 : ∀ s ∈ stats1, LikelyPlayer.Bounded s.likelyPlayers)
    (h2 : ∀ s ∈ stats2, LikelyPlayer.Bounded s.likelyPlayers) (hr : r ∈ compareMachines stats1 stats2 names config) :
    r.FavorsByScores := by
  have he := edge_of_mem_compareMachines hr
  obtain ⟨hs1, hs2⟩ := sideScore_ranged_of_mem_compareMachines h1 h2 hr
  obtain ⟨hnone, hfirst, hsecond⟩ := favors_edgePercent_iff hs1 hs2
  refine ⟨he ▸ hnone, he ▸ hfirst, he ▸ hsecond, fun h => ?_, fun h => ?_⟩
  · -- a side without stats counts as zero
    rw [he, h]
    exact edgePercent_zero_right_eq_lopsided (Float.isNaN_of_ranged hs1)
  · rw [he, h]
    exact edgePercent_zero_left_eq_lopsided (Float.isNaN_of_ranged hs2)

end Rows

/-- In the matchup report of two resolved teams of a league of 64-bit scores, every row's edge
follows from its two likely scores: no side when they are equal, otherwise the larger score when
the smaller is not negative and the smaller score when it is, and a machine only one team has
played is lopsided toward it exactly when its score is above zero. -/
theorem matchup_favors_by_scores {league : League} {config : AnalysisConfig} {venue t1 t2 : String}
    {team1 team2 : TeamCohort} (h1 : resolveTeam league.teams league.rosters t1 = some team1)
    (h2 : resolveTeam league.teams league.rosters t2 = some team2)
    (hscores : ∀ s ∈ league.scores, s.score.natAbs < 2 ^ 64) (hlimit : config.likelyPlayers < 2 ^ 64) :
    ∃ report, matchup league.store config venue t1 t2 = .ok report ∧ ∀ r ∈ report.machines, r.FavorsByScores := by
  refine ⟨_, matchup_store h1 h2, fun r hr => ?_⟩
  exact favorsByScores_of_mem_compareMachines (league.bounded_restrictTo hscores hlimit _)
    (league.bounded_restrictTo hscores hlimit _) (List.mem_mergeSort.mp hr)

/-- One machine that both teams have played, team one's player with a median of 10 and team
two's with a median of -5. -/
def negativeLeague : League where
  machines := [("M1", "Alpha")]
  venues := []
  venueMachines := [("V", ["M1"])]
  teams := [⟨"AAA", 1, "Team A", none⟩, ⟨"BBB", 1, "Team B", none⟩]
  rosters := [⟨"pa", "AAA", 1⟩, ⟨"pb", "BBB", 1⟩]
  scores := [⟨"pa", "AAA", 1, "M1", "V", 10⟩, ⟨"pb", "BBB", 1, "M1", "V", -5⟩]
  machines_ascending := by decide
  venues_ascending := keysAscending_nil
  venueMachines_ascending := by decide

theorem matchup_favors_by_scores_negative :
    resolveTeam negativeLeague.teams negativeLeague.rosters "AAA" = some ⟨"AAA", "Team A", 1, ["pa"]⟩ ∧
      resolveTeam negativeLeague.teams negativeLeague.rosters "BBB" = some ⟨"BBB", "Team B", 1, ["pb"]⟩ ∧
      (∀ s ∈ negativeLeague.scores, s.score.natAbs < 2 ^ 64) ∧ AnalysisConfig.default.likelyPlayers < 2 ^ 64 ∧
      ∃ report, matchup negativeLeague.store AnalysisConfig.default "V" "AAA" "BBB" = .ok report ∧
        ∀ r ∈ report.machines, r.FavorsByScores := by
  have h1 : resolveTeam negativeLeague.teams negativeLeague.rosters "AAA" = some ⟨"AAA", "Team A", 1, ["pa"]⟩ := by
    simp only [resolveTeam, distinctSorted, mergeSort_eq_bounded]
    decide +kernel
  have h2 : resolveTeam negativeLeague.teams negativeLeague.rosters "BBB" = some ⟨"BBB", "Team B", 1, ["pb"]⟩ := by
    simp only [resolveTeam, distinctSorted, mergeSort_eq_bounded]
    decide +kernel
  have hscores : ∀ s ∈ negativeLeague.scores, s.score.natAbs < 2 ^ 64 := by decide
  have hlimit : AnalysisConfig.default.likelyPlayers < 2 ^ 64 := by decide
  exact ⟨h1, h2, hscores, hlimit, matchup_favors_by_scores h1 h2 hscores hlimit⟩

-- Team one's likely score of 10 is the higher, yet the edge divides by -5 and favours team two.
example : (matchup negativeLeague.store AnalysisConfig.default "V" "AAA" "BBB").toOption.map (·.summary) =
    some ⟨[], ["Alpha"], []⟩ := by
  simp only [matchup, distinctSorted, buildMachineStats, selectLikely, AggregateStat.ofScores, League.store,
    League.machineStats, resolveTeam, compareMachines, groups, distinctKeys, mergeSort_eq_bounded]
  decide +kernel

end PinballScout
