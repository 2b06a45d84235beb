import PinballScout.Compare.Confidence
import PinballScout.Compare.Edge
import PinballScout.Proofs.Float.Round

/-! Comparing two sides from the other side. For values that are numbers, the edge of the second
    over the first is the negated edge of the first over the second, a negated edge favours the
    other side and sorts at the mirrored place, and the confidence of a comparison does not
    depend on which side comes first. Likely scores and average games are numbers as long as the
    players and their medians fit in 64 bits. -/

namespace PinballScout

/-! ### The smaller of two numbers -/

/-- The smaller of two ordered numbers is the first, whichever order it is asked in. -/
theorem minNum_of_lt {a b : Float} (h : a < b) : minNum a b = a ∧ minNum b a = a := by
  obtain ⟨ha, hb⟩ := Float.isNaN_eq_false_of_lt h
  have hle : a ≤ b := (Float.le_iff_lt_or_beq ha hb).mpr (.inl h)
  have hnle : ¬b ≤ a := by
    rw [Float.le_iff_rank hb ha, not_le]
    exact (Float.lt_iff_rank ha hb).mp h
  simp only [minNum, ha, hb, hle, hnle, Bool.false_eq_true, reduceIte, and_self]

theorem minNum_comm {a b : Float} (ha : a.isNaN = false) (hb : b.isNaN = false) (hab : (a == b) = false) :
    minNum b a = minNum a b := by
  rcases Float.lt_or_beq_or_lt ha hb with h | h | h
  · rw [(minNum_of_lt h).1, (minNum_of_lt h).2]
  · rw [hab] at h
    exact absurd h Bool.false_ne_true
  · rw [(minNum_of_lt h).1, (minNum_of_lt h).2]

/-! ### Edges seen from the other side -/

namespace Edge

@[simp] theorem neg_neg (e : Edge) : e.neg.neg = e := by
  rcases e with _ | (_ | _) | p
  · rfl
  · rfl
  · rfl
  · exact congrArg percent (Float.neg_neg p)

theorem zero_lt_neg_iff (p : Float) : 0.0 < -p ↔ p < 0.0 := by
  rw [Float.lt_iff_lt_of_beq_left (show ((0.0 : Float) == -0.0) = true from rfl)]
  exact Float.neg_lt_neg_iff

theorem neg_lt_zero_iff (p : Float) : -p < 0.0 ↔ 0.0 < p := by
  rw [Float.lt_iff_lt_of_beq_right (show ((0.0 : Float) == -0.0) = true from rfl)]
  exact Float.neg_lt_neg_iff

/-- A negated edge favours the other side. -/
theorem favors_neg (e : Edge) : e.neg.favors = e.favors.map Side.other := by
  rcases e with _ | s | p
  · rfl
  · rfl
  · -- a percentage favours the first side above zero and the second below
    by_cases hpos : 0.0 < p
    · have hneg : ¬p < 0.0 := Float.not_lt_of_lt hpos
      simp [favors, neg, hpos, hneg, zero_lt_neg_iff, neg_lt_zero_iff, Side.other]
    · by_cases hneg : p < 0.0
      · simp [favors, neg, hpos, hneg, zero_lt_neg_iff, Side.other]
      · simp [favors, neg, hpos, hneg, zero_lt_neg_iff, neg_lt_zero_iff]

/-- The key of a negated edge is the negated key, or, for an even edge, equal to it. -/
theorem sortKey_neg (e : Edge) : e.neg.sortKey = -e.sortKey ∨ (e.neg.sortKey == -e.sortKey) = true := by
  rcases e with _ | (_ | _) | p
  · exact .inr rfl
  · exact .inl rfl
  · exact .inl (Float.neg_neg _).symm
  · exact .inl rfl

theorem lt_sortKey_neg_iff (e : Edge) (c : Float) : c < e.neg.sortKey ↔ c < -e.sortKey := by
  rcases sortKey_neg e with h | h
  · rw [h]
  · exact Float.lt_iff_lt_of_beq_right h c

theorem sortKey_neg_lt_iff (e : Edge) (c : Float) : e.neg.sortKey < c ↔ -e.sortKey < c := by
  rcases sortKey_neg e with h | h
  · rw [h]
  · exact Float.lt_iff_lt_of_beq_left h c

/-- Negation reverses the order of edges. -/
theorem sortKey_neg_lt_neg_iff (e f : Edge) : e.neg.sortKey < f.neg.sortKey ↔ f.sortKey < e.sortKey := by
  rw [sortKey_neg_lt_iff, lt_sortKey_neg_iff]
  exact Float.neg_lt_neg_iff

/-- Negated edges stand before each other in the reverse order. -/
theorem before_neg (e f : Edge) : before e.neg f.neg = before f e := by
  simp only [before, sortKey_neg_lt_neg_iff]

theorem before_self (e : Edge) : before e e = true := by
  simp only [before, Bool.not_eq_true', decide_eq_false_iff_not]
  cases h : e.sortKey.isNaN with
  | true => exact Float.not_lt_of_isNaN_left h
  | false =>
    rw [Float.lt_iff_rank h h]
    exact lt_irrefl _

/-- Between keys that are numbers, standing before is the order of doubles, descending. -/
theorem before_eq_rank {e f : Edge} (he : e.sortKey.isNaN = false) (hf : f.sortKey.isNaN = false) :
    before e f = decide (f.sortKey.rank ≤ e.sortKey.rank) := by
  rw [before, Bool.eq_iff_iff, Bool.not_eq_true', decide_eq_false_iff_not, decide_eq_true_iff,
    Float.lt_iff_rank he hf, not_lt]

end Edge

/-- For numbers, the edge of the second side over the first is the negated edge of the first over
the second. -/
theorem edgePercent_swap {a b : Float} (ha : a.isNaN = false) (hb : b.isNaN = false) :
    edgePercent b a = (edgePercent a b).neg := by
  cases hab : a == b with
  | true =>
    have hba : (b == a) = true := by rwa [BEq.comm]
    simp [edgePercent, hab, hba, Edge.neg]
  | false =>
    have hba : (b == a) = false := by rwa [BEq.comm]
    unfold edgePercent
    simp only [hab, hba, minNum_comm ha hb hab, Bool.false_eq_true, ite_false]
    split
    · -- the smaller value is zero: the edge is lopsided toward the larger one
      rcases Float.lt_or_beq_or_lt ha hb with h | h | h
      · simp [gt_iff_lt, h, Float.not_lt_of_lt h, Edge.neg, Side.other]
      · rw [hab] at h
        exact absurd h Bool.false_ne_true
      · simp [gt_iff_lt, h, Float.not_lt_of_lt h, Edge.neg, Side.other]
    · rw [Float.sub_swap ha hb hab, Float.neg_div_left, Float.neg_mul_left]
      rfl

/-- The edge between two finite values is antisymmetric: seen from the other side, an even edge
stays even, a lopsided edge goes to the other side and a percentage is negated, to the bit; and
seeing an edge from the other side twice gives it back. -/
theorem edgePercent_antisymmetric (a b : Float) (ha : a.isFinite = true) (hb : b.isFinite = true) :
    edgePercent b a = (edgePercent a b).neg ∧ ∀ e : Edge, e.neg.neg = e :=
  ⟨edgePercent_swap (Float.isNaN_eq_false_of_isFinite ha) (Float.isNaN_eq_false_of_isFinite hb), Edge.neg_neg⟩

/-- A negative value against a positive one, where the smaller value is negative. -/
theorem edgePercent_antisymmetric_negative :
    (-2.0 : Float).isFinite = true ∧ (3.0 : Float).isFinite = true ∧
      (edgePercent 3.0 (-2.0) = (edgePercent (-2.0) 3.0).neg ∧ ∀ e : Edge, e.neg.neg = e) :=
  have ha : (-2.0 : Float).isFinite = true := by decide
  have hb : (3.0 : Float).isFinite = true := by decide
  ⟨ha, hb, edgePercent_antisymmetric _ _ ha hb⟩

/-! ### Confidence -/

/-- Equal averages give the same confidence. -/
theorem Confidence.ofAverage_congr {x y : Float} (h : (x == y) = true) (t : Thresholds) :
    Confidence.ofAverage x t = Confidence.ofAverage y t := by
  simp only [Confidence.ofAverage, ge_iff_le, Float.le_iff_le_of_beq h]

/-- The confidence of a comparison does not depend on which side comes first. -/
theorem confidence_comm {first second : List LikelyPlayer} (t : Thresholds)
    (ha : (averageGames first).isNaN = false) (hb : (averageGames second).isNaN = false) :
    confidence second first t = confidence first second t := by
  unfold confidence
  rcases Float.lt_or_beq_or_lt ha hb with h | h | h
  · simp [h, Float.not_lt_of_lt h]
  · have hba : (averageGames second == averageGames first) = true := by rwa [BEq.comm]
    simp only [Float.not_lt_of_beq h, Float.not_lt_of_beq hba, ite_false]
    exact (Confidence.ofAverage_congr h t).symm
  · simp [h, Float.not_lt_of_lt h]

/-! ### Likely scores and average games are numbers -/

/-- Fewer than `2 ^ 64` players, each with a median below `2 ^ 64` in size: what 64-bit counts
and scores guarantee. -/
def LikelyPlayer.Bounded (players : List LikelyPlayer) : Prop :=
  players.length < 2 ^ 64 ∧ ∀ p ∈ players, p.p50.natAbs < 2 ^ 64

theorem ofNat_length_unpack {players : List LikelyPlayer} (hne : players.isEmpty = false)
    (h : players.length < 2 ^ 64) :
    ∃ m e hm, (Float.ofNat players.length).toModel.unpack = .finite .positive m e hm := by
  have hlen : players.length ≠ 0 := by simpa [List.isEmpty_iff_length_eq_zero] using hne
  obtain ⟨m, e, hm, hunpack, -⟩ := Float.ofNat_unpack hlen h
  exact ⟨m, e, hm, hunpack⟩

theorem averageGames_isNaN {players : List LikelyPlayer} (h : players.length < 2 ^ 64) :
    (averageGames players).isNaN = false := by
  unfold averageGames
  cases hne : players.isEmpty with
  | true =>
    rw [if_pos rfl]
    rfl
  | false =>
    obtain ⟨m, e, hm, hlen⟩ := ofNat_length_unpack hne h
    exact Float.isNaN_div (Float.isNaN_ofNat _) hlen

/-- Adding finite medians to a number keeps it a number. -/
theorem isNaN_foldl_add {players : List LikelyPlayer} (h : ∀ p ∈ players, p.p50.natAbs < 2 ^ 64)
    {acc : Float} (hacc : acc.isNaN = false) :
    (players.foldl (fun acc p => acc + Float.ofInt p.p50) acc).isNaN = false := by
  induction players generalizing acc with
  | nil => exact hacc
  | cons p ps ih =>
    rw [List.foldl_cons]
    apply ih fun q hq => h q (List.mem_cons_of_mem p hq)
    exact Float.isNaN_add hacc (Float.isFinite_ofInt (h p List.mem_cons_self))

theorem likelyScore_isNaN {players : List LikelyPlayer} (h : LikelyPlayer.Bounded players) :
    ((likelyScore players).getD 0.0).isNaN = false := by
  unfold likelyScore
  cases hne : players.isEmpty with
  | true =>
    rw [if_pos rfl]
    rfl
  | false =>
    obtain ⟨m, e, hm, hlen⟩ := ofNat_length_unpack hne h.1
    exact Float.isNaN_div (isNaN_foldl_add h.2 rfl) hlen

end PinballScout
