import PinballScout.Proofs.StableSort
import PinballScout.Proofs.Matchup
import PinballScout.Checks.Summary

/-! The strength summary. The rows with enough games are ranked by relative strength, strongest
    first, by a stable sort. When no strength is NaN, that ranking is the order of doubles read
    downward, and it is the only list of the qualifying rows that runs downward in strength and
    keeps rows of equal strength in their input order. The summary names the first `n` rows of
    the ranking and, when more than `n` rows qualify, the last `n` from the weakest up; so every
    row named strongest is at least as strong as every qualifying row left out, the weakest run
    upward in strength, and a row with too few games is named in neither list. -/

namespace PinballScout

/-- `ranked` is `rows` sorted stably by relative strength, strongest first: the same rows, each at
least as strong as every row after it, and the rows of each strength in their order in `rows`. -/
structure RankedByStrength (rows ranked : List MachineReport) : Prop where
  perm : ranked.Perm rows
  descending : ranked.Pairwise fun a b => b.relativeStrength ≤ a.relativeStrength
  ties_in_order : ∀ v : Float, ranked.filter (·.relativeStrength == v) = rows.filter (·.relativeStrength == v)

namespace MachineReport

/-- Where a row stands in the ranking: the place of its strength among doubles, read downward. -/
def strengthKey (r : MachineReport) : (Lex (Int × Lex (Int × Int)))ᵒᵈ :=
  OrderDual.toDual r.relativeStrength.rank

section Keys
variable {a b : MachineReport} (ha : a.relativeStrength.isNaN = false)
include ha

theorem strengthKey_le_iff (hb : b.relativeStrength.isNaN = false) :
    a.strengthKey ≤ b.strengthKey ↔ b.relativeStrength ≤ a.relativeStrength := by
  rw [strengthKey, strengthKey, OrderDual.toDual_le_toDual, Float.le_iff_rank hb ha]

/-- Between numbers, standing before in the ranking is the order of the keys. -/
theorem stronger_eq_key (hb : b.relativeStrength.isNaN = false) :
    a.stronger b = decide (a.strengthKey ≤ b.strengthKey) := by
  rw [Bool.eq_iff_iff, decide_eq_true_iff, strengthKey_le_iff ha hb, Float.le_iff_rank hb ha, stronger,
    Bool.not_eq_true', decide_eq_false_iff_not, Float.lt_iff_rank ha hb, not_lt]

theorem beq_iff_key {v : Float} (hv : v.isNaN = false) :
    (a.relativeStrength == v) = true ↔ a.strengthKey = OrderDual.toDual v.rank := by
  rw [Float.beq_iff_rank ha hv, strengthKey, OrderDual.toDual_inj]

end Keys

end MachineReport

/-- No row has strength NaN, so the rows of strength NaN are none. -/
theorem filter_beq_nan (rows : List MachineReport) {v : Float} (hv : v.isNaN = true) :
    rows.filter (·.relativeStrength == v) = [] :=
  List.filter_eq_nil_iff.mpr fun _ _ h => by
    rw [(Float.isNaN_eq_false_of_beq h).2] at hv
    exact Bool.false_ne_true hv

section Ranking
variable {rows : List MachineReport} (hnan : ∀ r ∈ rows, r.relativeStrength.isNaN = false)
include hnan

/-- The rows of one strength are the rows of one key. -/
theorem filter_beq_eq_filter_key {v : Float} (hv : v.isNaN = false) :
    rows.filter (·.relativeStrength == v) = rows.filter (·.strengthKey = OrderDual.toDual v.rank) :=
  List.filter_congr fun r hr => Bool.eq_iff_iff.mpr ((MachineReport.beq_iff_key (hnan r hr) hv).trans decide_eq_true_iff.symm)

theorem mergeSort_stronger_eq_key :
    rows.mergeSort MachineReport.stronger = rows.mergeSort fun a b => decide (a.strengthKey ≤ b.strengthKey) :=
  mergeSort_congr fun a ha b hb => MachineReport.stronger_eq_key (hnan a ha) (hnan b hb)

/-- The summary's sort ranks the rows. -/
theorem rankedByStrength_mergeSort : RankedByStrength rows (rows.mergeSort MachineReport.stronger) := by
  have hmem : ∀ r ∈ rows.mergeSort MachineReport.stronger, r.relativeStrength.isNaN = false :=
    fun r hr => hnan r (List.mem_mergeSort.mp hr)
  refine ⟨List.mergeSort_perm _ _, ?_, fun v => ?_⟩
  · rw [mergeSort_stronger_eq_key hnan] at hmem ⊢
    exact (pairwise_mergeSort_byKey MachineReport.strengthKey rows).imp_of_mem fun ha hb h =>
      (MachineReport.strengthKey_le_iff (hmem _ ha) (hmem _ hb)).mp h
  · cases hv : v.isNaN with
    | true => rw [filter_beq_nan _ hv, filter_beq_nan _ hv]
    | false =>
      rw [filter_beq_eq_filter_key hmem hv, filter_beq_eq_filter_key hnan hv, mergeSort_stronger_eq_key hnan,
        filter_mergeSort_of_key _ fun _ _ => decide_eq_true_iff]

/-- Only one list ranks the rows. -/
theorem RankedByStrength.eq {ranked ranked' : List MachineReport} (h : RankedByStrength rows ranked)
    (h' : RankedByStrength rows ranked') : ranked = ranked' := by
  have hmem : ∀ {l : List MachineReport}, l.Perm rows → ∀ r ∈ l, r.relativeStrength.isNaN = false :=
    fun hp r hr => hnan r (hp.mem_iff.mp hr)
  have hsorted : ∀ {l : List MachineReport}, RankedByStrength rows l →
      l.Pairwise fun a b => a.strengthKey ≤ b.strengthKey := fun hl =>
    hl.descending.imp_of_mem fun ha hb hab =>
      (MachineReport.strengthKey_le_iff (hmem hl.perm _ ha) (hmem hl.perm _ hb)).mpr hab
  refine eq_of_perm_of_classes MachineReport.strengthKey (h.perm.trans h'.perm.symm) (hsorted h) (hsorted h')
    fun x hx => ?_
  have hxn := hmem h.perm x hx
  rw [show x.strengthKey = OrderDual.toDual x.relativeStrength.rank from rfl, ← filter_beq_eq_filter_key (hmem h.perm) hxn, ← filter_beq_eq_filter_key (hmem h'.perm) hxn,
    h.ties_in_order, h'.ties_in_order]

end Ranking

/-- For rows whose strengths are numbers, the qualifying rows, those with at least `minGames` games,
have one ranking by strength. The summary names the first `summarySize` rows of it as the
strongest, and the last `summarySize` of it, weakest first, as the weakest when more rows qualify
than that, else none. So each row named strongest is at least as strong as each qualifying row
left out of the strongest, the weakest run upward in strength, and only qualifying rows are
named. -/
theorem strength_summary (rows : List MachineReport) (config : AnalysisConfig)
    (hnan : ∀ r ∈ rows, r.relativeStrength.isNaN = false) :
    (∃ ranked, RankedByStrength (rows.filter (config.minGames ≤ ·.games)) ranked) ∧
    ∀ ranked, RankedByStrength (rows.filter (config.minGames ≤ ·.games)) ranked →
      (summarize rows config).strongest = (ranked.take config.summarySize).map (·.machineName) ∧
      (summarize rows config).weakest =
        (if config.summarySize < (rows.filter (config.minGames ≤ ·.games)).length then
          (ranked.drop (ranked.length - config.summarySize)).reverse.map (·.machineName)
        else []) ∧
      (∀ a ∈ ranked.take config.summarySize, ∀ b ∈ ranked.drop config.summarySize,
        b.relativeStrength ≤ a.relativeStrength) ∧
      (ranked.drop (ranked.length - config.summarySize)).reverse.Pairwise
        (fun a b => a.relativeStrength ≤ b.relativeStrength) ∧
      ∀ r ∈ ranked, config.minGames ≤ r.games := by
  have hq : ∀ r ∈ rows.filter (config.minGames ≤ ·.games), r.relativeStrength.isNaN = false :=
    fun r hr => hnan r (List.mem_filter.mp hr).1
  have hsort := rankedByStrength_mergeSort hq
  refine ⟨⟨_, hsort⟩, fun ranked h => ?_⟩
  obtain rfl := hsort.eq hq h
  have hdown := h.descending
  refine ⟨rfl, ?_, fun a ha b hb => ?_, ?_, fun r hr => ?_⟩
  · simp only [summarize, List.length_mergeSort, List.take_reverse]
  · rw [← List.take_append_drop config.summarySize (List.mergeSort _ _)] at hdown
    exact (List.pairwise_append.mp hdown).2.2 a ha b hb
  · exact List.pairwise_reverse.mpr ((hdown.sublist (List.drop_sublist _ _)))
  · have hr' := List.mem_filter.mp (List.mem_mergeSort.mp hr)
    exact of_decide_eq_true hr'.2

/-- Four rows with three games each and the default summary size of three: all of them qualify,
so there is a weakest list. -/
theorem strength_summary_four_rows :
    (∀ r ∈ [Checks.Summary.row "A" 3 40.0, Checks.Summary.row "B" 3 30.0, Checks.Summary.row "C" 3 20.0,
      Checks.Summary.row "D" 3 (-10.0)], r.relativeStrength.isNaN = false) ∧
    ∃ ranked, RankedByStrength ([Checks.Summary.row "A" 3 40.0, Checks.Summary.row "B" 3 30.0,
      Checks.Summary.row "C" 3 20.0, Checks.Summary.row "D" 3 (-10.0)].filter
        (AnalysisConfig.default.minGames ≤ ·.games)) ranked := by
  have hnan : ∀ r ∈ [Checks.Summary.row "A" 3 40.0, Checks.Summary.row "B" 3 30.0, Checks.Summary.row "C" 3 20.0,
      Checks.Summary.row "D" 3 (-10.0)], r.relativeStrength.isNaN = false := by decide
  exact ⟨hnan, (strength_summary _ AnalysisConfig.default hnan).1⟩

end PinballScout
