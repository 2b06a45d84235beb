import Mathlib

/-! The order of doubles. The comparison of two unpacked doubles is read off one key per value:
    infinities stand outermost, finite values follow by exponent and then mantissa (mirrored for
    the negative sign), and both zeros share the middle. Two doubles that are not NaN are
    therefore always comparable, `<` is a strict order on them, `≤` is `<` or `==`, and `==`
    is equality of keys, which makes the two zeros equal. -/

namespace Float.Model.UnpackedFloat

/-- Where a value stands among doubles. A NaN has the key of zero, but no comparison reads it. -/
def rank : UnpackedFloat → Lex (Int × Lex (Int × Int))
  | .infinity .positive => toLex (2, toLex (0, 0))
  | .infinity .negative => toLex (-2, toLex (0, 0))
  | .finite .positive m e _ => toLex (1, toLex (e, m))
  | .finite .negative m e _ => toLex (-1, toLex (-e, -m))
  | _ => toLex (0, toLex (0, 0))

section Ranked
variable {a b : UnpackedFloat}

-- Each statement below is checked constructor by constructor, signs included.

theorem lt_iff_rank (ha : a ≠ notANumber) (hb : b ≠ notANumber) : a.lt b = true ↔ a.rank < b.rank := by
  rcases a with (_ | _) | _ | (_ | _) | ⟨(_ | _), m₁, e₁, -⟩ <;>
    rcases b with (_ | _) | _ | (_ | _) | ⟨(_ | _), m₂, e₂, -⟩ <;>
    simp_all [UnpackedFloat.lt, UnpackedFloat.compare, rank, Prod.Lex.toLex_lt_toLex, Ordering.then_eq_lt,
      Ordering.then_eq_gt, compare_lt_iff_lt, compare_gt_iff_gt]
  -- what is left compares the two signs
  all_goals rfl

theorem beq_iff_rank (ha : a ≠ notANumber) (hb : b ≠ notANumber) : a.beq b = true ↔ a.rank = b.rank := by
  rcases a with (_ | _) | _ | (_ | _) | ⟨(_ | _), m₁, e₁, -⟩ <;>
    rcases b with (_ | _) | _ | (_ | _) | ⟨(_ | _), m₂, e₂, -⟩ <;>
    simp_all [UnpackedFloat.beq, UnpackedFloat.compare, rank]
  all_goals rfl

/-- Two values that are not NaN compare to some ordering. -/
theorem compare_isSome (ha : a ≠ notANumber) (hb : b ≠ notANumber) : (a.compare b).isSome := by
  rcases a with (_ | _) | _ | (_ | _) | ⟨(_ | _), m₁, e₁, -⟩ <;>
    rcases b with (_ | _) | _ | (_ | _) | ⟨(_ | _), m₂, e₂, -⟩ <;>
    simp_all [UnpackedFloat.compare]

theorem le_iff_rank (ha : a ≠ notANumber) (hb : b ≠ notANumber) : a.le b = true ↔ a.rank ≤ b.rank := by
  obtain ⟨o, ho⟩ := Option.isSome_iff_exists.mp (compare_isSome ha hb)
  have hlt := lt_iff_rank ha hb
  have heq := beq_iff_rank ha hb
  simp only [UnpackedFloat.lt, UnpackedFloat.beq, ho] at hlt heq
  rw [le_iff_lt_or_eq, ← hlt, ← heq]
  cases o <;> simp [UnpackedFloat.le, ho]

/-- Only values that are not NaN compare at all. -/
theorem ne_nan_of_compare {o : Ordering} (h : a.compare b = some o) : a ≠ notANumber ∧ b ≠ notANumber := by
  constructor <;> rintro rfl
  · simp [UnpackedFloat.compare] at h
  · revert h
    rcases a with (_ | _) | _ | (_ | _) | ⟨(_ | _), m, e, -⟩ <;> simp [UnpackedFloat.compare]

/-- Negation mirrors the order. -/
theorem rank_neg_lt_iff : a.neg.rank < b.neg.rank ↔ b.rank < a.rank := by
  rcases a with (_ | _) | _ | (_ | _) | ⟨(_ | _), m₁, e₁, -⟩ <;>
    rcases b with (_ | _) | _ | (_ | _) | ⟨(_ | _), m₂, e₂, -⟩ <;>
    simp [neg, rank, Prod.Lex.toLex_lt_toLex] <;> omega

end Ranked

end Float.Model.UnpackedFloat

namespace Float

open Float.Model

/-- Where a double stands in the order of doubles. -/
def rank (x : Float) : Lex (Int × Lex (Int × Int)) := x.toModel.unpack.rank

theorem isNaN_eq_false_iff {x : Float} : x.isNaN = false ↔ x.toModel.unpack ≠ .notANumber := by
  simp only [Float.isNaN, Float.Model.isNaN, Bool.eq_false_iff, ne_eq, UnpackedFloat.isNaN_iff]

theorem unpack_ne_nan {x : Float} (hx : x.isNaN = false) : x.toModel.unpack ≠ .notANumber :=
  isNaN_eq_false_iff.mp hx

/-- A finite double is a number. -/
theorem isNaN_eq_false_of_isFinite {x : Float} (hx : x.isFinite = true) : x.isNaN = false := by
  refine isNaN_eq_false_iff.mpr fun h => ?_
  simp [Float.isFinite, Float.Model.isFinite, h, UnpackedFloat.isFinite] at hx

section Ranked
variable {x y : Float}

theorem lt_iff_rank (hx : x.isNaN = false) (hy : y.isNaN = false) : x < y ↔ x.rank < y.rank := by
  unfold rank
  rw [← UnpackedFloat.lt_iff_rank (unpack_ne_nan hx) (unpack_ne_nan hy)]
  exact decide_eq_true_iff

theorem le_iff_rank (hx : x.isNaN = false) (hy : y.isNaN = false) : x ≤ y ↔ x.rank ≤ y.rank := by
  unfold rank
  rw [← UnpackedFloat.le_iff_rank (unpack_ne_nan hx) (unpack_ne_nan hy)]
  exact decide_eq_true_iff

theorem beq_iff_rank (hx : x.isNaN = false) (hy : y.isNaN = false) : (x == y) = true ↔ x.rank = y.rank := by
  unfold rank
  rw [← UnpackedFloat.beq_iff_rank (unpack_ne_nan hx) (unpack_ne_nan hy)]
  rfl

/-- Only doubles that are not NaN compare at all; `<`, `≤` and `==` all read the comparison. -/
theorem isNaN_eq_false_of_compare {o : Ordering} (h : x.toModel.unpack.compare y.toModel.unpack = some o) :
    x.isNaN = false ∧ y.isNaN = false := by
  obtain ⟨hx, hy⟩ := UnpackedFloat.ne_nan_of_compare h
  exact ⟨isNaN_eq_false_iff.mpr hx, isNaN_eq_false_iff.mpr hy⟩

theorem isNaN_eq_false_of_lt (h : x < y) : x.isNaN = false ∧ y.isNaN = false := by
  have hc : x.toModel.unpack.compare y.toModel.unpack = some .lt := by
    simpa [UnpackedFloat.lt] using (decide_eq_true_iff.mp h : x.toModel.unpack.lt y.toModel.unpack = true)
  exact isNaN_eq_false_of_compare hc

theorem isNaN_eq_false_of_le (h : x ≤ y) : x.isNaN = false ∧ y.isNaN = false := by
  have hle : (x.toModel.unpack.compare y.toModel.unpack).any (·.isLE) = true := decide_eq_true_iff.mp h
  cases ho : x.toModel.unpack.compare y.toModel.unpack with
  | none => simp [ho] at hle
  | some o => exact isNaN_eq_false_of_compare ho

theorem isNaN_eq_false_of_beq (h : (x == y) = true) : x.isNaN = false ∧ y.isNaN = false := by
  have hb : x.toModel.unpack.beq y.toModel.unpack = true := h
  have hc : x.toModel.unpack.compare y.toModel.unpack = some .eq := by simpa [UnpackedFloat.beq] using hb
  exact isNaN_eq_false_of_compare hc

theorem not_lt_of_isNaN_left (hx : x.isNaN = true) : ¬x < y := fun h => by
  rw [(isNaN_eq_false_of_lt h).1] at hx
  exact Bool.false_ne_true hx

theorem not_lt_of_isNaN_right (hy : y.isNaN = true) : ¬x < y := fun h => by
  rw [(isNaN_eq_false_of_lt h).2] at hy
  exact Bool.false_ne_true hy

theorem not_lt_of_beq (h : (x == y) = true) : ¬x < y := by
  obtain ⟨hx, hy⟩ := isNaN_eq_false_of_beq h
  rw [lt_iff_rank hx hy, (beq_iff_rank hx hy).mp h]
  exact lt_irrefl _

theorem not_lt_of_lt (h : x < y) : ¬y < x := by
  obtain ⟨hx, hy⟩ := isNaN_eq_false_of_lt h
  rw [lt_iff_rank hx hy] at h
  rw [lt_iff_rank hy hx]
  exact not_lt_of_gt h

/-- Two doubles that are not NaN are ordered one way, or equal. -/
theorem lt_or_beq_or_lt (hx : x.isNaN = false) (hy : y.isNaN = false) :
    x < y ∨ (x == y) = true ∨ y < x := by
  rw [lt_iff_rank hx hy, beq_iff_rank hx hy, lt_iff_rank hy hx]
  exact lt_trichotomy x.rank y.rank

theorem le_iff_lt_or_beq (hx : x.isNaN = false) (hy : y.isNaN = false) :
    x ≤ y ↔ x < y ∨ (x == y) = true := by
  rw [le_iff_rank hx hy, lt_iff_rank hx hy, beq_iff_rank hx hy]
  exact le_iff_lt_or_eq

/-- Between numbers, failing `≤` is the strict order the other way. -/
theorem not_le_iff_lt (hx : x.isNaN = false) (hy : y.isNaN = false) : ¬x ≤ y ↔ y < x := by
  rw [le_iff_rank hx hy, lt_iff_rank hy hx]
  exact not_le

/-- Doubles that are equal stand alike below every other. -/
theorem lt_iff_lt_of_beq_left (h : (x == y) = true) (c : Float) : x < c ↔ y < c := by
  obtain ⟨hx, hy⟩ := isNaN_eq_false_of_beq h
  rw [beq_iff_rank hx hy] at h
  cases hc : c.isNaN with
  | true => exact iff_of_false (not_lt_of_isNaN_right hc) (not_lt_of_isNaN_right hc)
  | false => rw [lt_iff_rank hx hc, lt_iff_rank hy hc, h]

/-- Doubles that are equal stand alike above every other. -/
theorem lt_iff_lt_of_beq_right (h : (x == y) = true) (c : Float) : c < x ↔ c < y := by
  obtain ⟨hx, hy⟩ := isNaN_eq_false_of_beq h
  rw [beq_iff_rank hx hy] at h
  cases hc : c.isNaN with
  | true => exact iff_of_false (not_lt_of_isNaN_left hc) (not_lt_of_isNaN_left hc)
  | false => rw [lt_iff_rank hc hx, lt_iff_rank hc hy, h]

/-- Doubles that are equal compare alike with every other. -/
theorem le_iff_le_of_beq (h : (x == y) = true) (c : Float) : c ≤ x ↔ c ≤ y := by
  obtain ⟨hx, hy⟩ := isNaN_eq_false_of_beq h
  rw [beq_iff_rank hx hy] at h
  cases hc : c.isNaN with
  | true =>
    have hnot : ∀ z : Float, ¬c ≤ z := fun z hle => by
      rw [(isNaN_eq_false_of_le hle).1] at hc
      exact Bool.false_ne_true hc
    exact iff_of_false (hnot x) (hnot y)
  | false => rw [le_iff_rank hc hx, le_iff_rank hc hy, h]

end Ranked

end Float
