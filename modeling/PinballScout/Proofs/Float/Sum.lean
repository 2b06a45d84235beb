import PinballScout.Proofs.Float.Round

/-! Sums of integers stay finite. Rounding leaves a mantissa below `2 ^ 53` at most one exponent
    above where the leading bits of the exact value put it, so a sum of two values grows the
    larger exponent by at most two. A value whose exponent exceeds the other's by 55 absorbs it
    unchanged: the other is below a quarter of its last place, however the signs fall. An
    accumulator that adds integers below `2 ^ 64` one at a time therefore never passes exponent
    68, and its quotient by a count below `2 ^ 64` never passes 121, far below the overflow
    at 972. -/

namespace Float.Model.UnpackedFloat

/-- Zero, or a finite value with a mantissa below `2 ^ 53` and an exponent of at most `E`. -/
def Within (E : Int) : UnpackedFloat → Prop
  | zero _ => True
  | finite _ m e _ => m < 2 ^ 53 ∧ e ≤ E
  | _ => False

theorem Within.mono {E E' : Int} {u : UnpackedFloat} (h : u.Within E) (hE : E ≤ E') : u.Within E' := by
  cases u with
  | zero s => trivial
  | finite s m e hm => exact ⟨h.1, h.2.trans hE⟩
  | infinity s => exact False.elim h
  | notANumber => exact False.elim h

theorem Within.ne_nan {E : Int} {u : UnpackedFloat} (h : u.Within E) : u ≠ notANumber := by
  rintro rfl
  exact h

theorem Within.isFinite {E : Int} {u : UnpackedFloat} (h : u.Within E) : u.isFinite = true := by
  cases u with
  | zero s => rfl
  | finite s m e hm => rfl
  | infinity s => exact False.elim h
  | notANumber => exact False.elim h

/-! ### Rounding -/

theorem shiftToTargetExponent_binary64 (m : Nat) (e : Int) (acc : Accuracy) :
    shiftToTargetExponent Format.binary64 m e acc =
      (ExtendedMantissa.ofMantissaAndAccuracy m acc >>> (max (m.log2 + e - 52) (-1074) - e).toNat,
        max e (max (m.log2 + e - 52) (-1074))) := by
  have ht : Format.binary64.targetExponent (totalExponent m e) = max (m.log2 + e - 52) (-1074) := by
    rw [targetExponent_binary64, totalExponent]
    omega
  simp only [shiftToTargetExponent, shiftToExponent, ht]
  congr 1
  omega

/-- The first shift leaves at most 53 bits, at an exponent no lower than the subnormals'. -/
theorem shiftToTargetExponent_bounds (m : Nat) (e : Int) (acc : Accuracy) :
    (shiftToTargetExponent Format.binary64 m e acc).1.mantissa < 2 ^ 53 ∧
      -1074 ≤ (shiftToTargetExponent Format.binary64 m e acc).2 := by
  simp only [shiftToTargetExponent_binary64, shiftRight_mantissa, ofMantissaAndAccuracy_mantissa]
  refine ⟨?_, by omega⟩
  rw [Nat.div_lt_iff_lt_mul (Nat.two_pow_pos _), ← Nat.pow_add]
  calc m < 2 ^ (m.log2 + 1) := Nat.lt_log2_self
    _ ≤ 2 ^ (53 + (max (↑m.log2 + e - 52) (-1074) - e).toNat) :=
      Nat.pow_le_pow_right (by norm_num) (by omega)

/-- A mantissa of at most 53 bits at an exponent in range is not shifted again. -/
theorem shiftToTargetExponent_short {r : Nat} {e : Int} (hr : r < 2 ^ 53) (he : -1074 ≤ e) :
    shiftToTargetExponent Format.binary64 r e .exact = (⟨r, false, false⟩, e) := by
  have hl : r.log2 < 53 := by
    rcases Nat.eq_zero_or_pos r with rfl | hpos
    · simp
    · exact (Nat.log2_lt hpos.ne').mpr hr
  have hk : (max (↑r.log2 + e - 52) (-1074) - e).toNat = 0 := by omega
  rw [shiftToTargetExponent_binary64, hk]
  refine Prod.ext rfl ?_
  show max e (max (↑r.log2 + e - 52) (-1074)) = e
  omega

/-- Rounding gives zero, the first rounded mantissa at the exponent of the first shift, or, when
rounding carries it to `2 ^ 53`, the mantissa `2 ^ 52` one exponent up. -/
theorem roundWithAccuracy_eq (s : Sign) (m : Nat) (e : Int) (acc : Accuracy) :
    roundWithAccuracy Format.binary64 s m e acc =
      if h : (shiftToTargetExponent Format.binary64 m e acc).1.roundedMantissa = 0 then zero s
      else if (shiftToTargetExponent Format.binary64 m e acc).1.roundedMantissa < 2 ^ 53 then
        finite s (shiftToTargetExponent Format.binary64 m e acc).1.roundedMantissa
          (shiftToTargetExponent Format.binary64 m e acc).2 (Nat.pos_of_ne_zero h)
      else finite s (2 ^ 52) ((shiftToTargetExponent Format.binary64 m e acc).2 + 1) (by norm_num) := by
  obtain ⟨hlt, hexp⟩ := shiftToTargetExponent_bounds m e acc
  have hr := roundedMantissa_bounds (shiftToTargetExponent Format.binary64 m e acc).1
  generalize hfirst : shiftToTargetExponent Format.binary64 m e acc = first at *
  rcases first with ⟨em, e₁⟩
  dsimp only at *
  rw [roundWithAccuracy, hfirst]
  dsimp only
  by_cases hz : em.roundedMantissa = 0
  · rw [hz, shiftToTargetExponent_short (by norm_num) hexp]
    rfl
  by_cases hs : em.roundedMantissa < 2 ^ 53
  · rw [shiftToTargetExponent_short hs hexp]
    simp only [hz, hs, reduceDIte, reduceIte]
  · -- the rounded mantissa carried to `2 ^ 53`
    have hc : em.roundedMantissa = 2 ^ 53 := by omega
    rw [hc, shiftToTargetExponent_carry hexp]
    rfl

theorem roundWithAccuracy_within (s : Sign) (m : Nat) (e : Int) (acc : Accuracy) :
    (roundWithAccuracy Format.binary64 s m e acc).Within (max e (max (m.log2 + e - 52) (-1074)) + 1) := by
  have he₁ : (shiftToTargetExponent Format.binary64 m e acc).2 = max e (max (m.log2 + e - 52) (-1074)) := by
    rw [shiftToTargetExponent_binary64]
  rw [roundWithAccuracy_eq]
  split
  · trivial
  · split
    · exact ⟨by assumption, by omega⟩
    · exact ⟨by norm_num, by omega⟩

theorem log2_mul_two_pow_le (m d : Nat) : (m * 2 ^ d).log2 ≤ m.log2 + d := by
  rcases Nat.eq_zero_or_pos m with rfl | hm
  · simp
  · exact (log2_mul_two_pow hm.ne' d).le

/-- Rounding an integer mantissa lands at most one exponent above its target. -/
theorem round_within (s : Sign) (m : Nat) (e : Int) :
    (round Format.binary64 s m e).Within (max (m.log2 + e - 52) (-1074) + 1) := by
  have ht : Format.binary64.targetExponent (totalExponent m e) = max (m.log2 + e - 52) (-1074) := by
    rw [targetExponent_binary64, totalExponent]
    omega
  simp only [round, ht, decreaseExponent, Nat.shiftLeft_eq]
  -- lowering the exponent adds as many bits as it lowers
  have hl := log2_mul_two_pow_le m (e - max (↑m.log2 + e - 52) (-1074)).toNat
  refine (roundWithAccuracy_within s _ _ .exact).mono ?_
  omega

theorem normalize_within (M e : Int) (z : Sign) :
    (normalize Format.binary64 M e z).Within (max (M.natAbs.log2 + e - 52) (-1074) + 1) := by
  unfold normalize
  split
  next hlt =>
    have hM : (-M).toNat = M.natAbs := by
      have := Int.compare_eq_lt.mp hlt
      omega
    rw [hM]
    exact round_within _ _ _
  next => trivial
  next hgt =>
    have hM : M.toNat = M.natAbs := by
      have := Int.compare_eq_gt.mp hgt
      omega
    rw [hM]
    exact round_within _ _ _

/-- A mantissa below `2 ^ n` normalizes to a value within `n - 53` places above its exponent. -/
theorem normalize_within_of_lt {M : Int} {n : Nat} (h : M.natAbs < 2 ^ n) (e : Int) (z : Sign) :
    (normalize Format.binary64 M e z).Within (max (n + e - 53) (-1074) + 1) := by
  rcases Nat.eq_zero_or_pos M.natAbs with h0 | hpos
  · have hM : M = 0 := Int.natAbs_eq_zero.mp h0
    subst hM
    trivial
  · have hl : M.natAbs.log2 < n := (Nat.log2_lt hpos.ne').mpr h
    refine (normalize_within M e z).mono ?_
    omega


/-! ### Sums -/

theorem Sign.apply_natAbs (s : Sign) (x : Int) : (s.apply x).natAbs = x.natAbs := by
  cases s <;> simp [Sign.apply]

theorem Sign.apply_add (s : Sign) (x y : Int) : s.apply x + s.apply y = s.apply (x + y) := by
  cases s
  · show -x + -y = -(x + y)
    omega
  · rfl

theorem Sign.apply_add_neg (s : Sign) (x y : Int) : s.apply x + (-s).apply y = s.apply (x - y) := by
  cases s
  · show -x + y = -(x - y)
    omega
  · show x + -y = x - y
    omega

theorem Sign.eq_neg_of_ne {s t : Sign} (h : t ≠ s) : t = -s := by
  cases s <;> cases t <;> first | exact absurd rfl h | rfl

/-- A positive mantissa with a sign normalizes to the rounding of the mantissa with that sign. -/
theorem normalize_apply (s : Sign) {N : Nat} (hN : 0 < N) (e : Int) (z : Sign) :
    normalize Format.binary64 (s.apply N) e z = round Format.binary64 s N e := by
  cases s with
  | negative =>
    have hc : compare (Sign.negative.apply (N : Int)) 0 = .lt := Int.compare_eq_lt.mpr (by simp [Sign.apply]; omega)
    simp only [normalize, hc]
    congr 1
    simp [Sign.apply]
  | positive =>
    have hc : compare (Sign.positive.apply (N : Int)) 0 = .gt := Int.compare_eq_gt.mpr (by simp [Sign.apply]; omega)
    simp only [normalize, hc]
    congr 1

/-- Two finite values are added exactly at the smaller exponent, then normalized. -/
theorem add_finite (s₁ s₂ : Sign) (m₁ m₂ : Nat) (e₁ e₂ : Int) (h₁ : 0 < m₁) (h₂ : 0 < m₂) :
    add Format.binary64 (finite s₁ m₁ e₁ h₁) (finite s₂ m₂ e₂ h₂) =
      normalize Format.binary64 (s₁.apply ↑(m₁ * 2 ^ (e₁ - min e₁ e₂).toNat) +
        s₂.apply ↑(m₂ * 2 ^ (e₂ - min e₁ e₂).toNat)) (min e₁ e₂) .positive := by
  simp only [add, decreaseExponent, Nat.shiftLeft_eq]

/-- Aligned to the smaller exponent, two mantissas below `2 ^ 53` at exponents of at most `E` sum
to fewer than `2 ^ 54` units of `2 ^ E`. -/
theorem aligned_sum_lt (s₁ s₂ : Sign) {m₁ m₂ : Nat} {e₁ e₂ E : Int} (hm₁ : m₁ < 2 ^ 53) (hm₂ : m₂ < 2 ^ 53)
    (he₁ : e₁ ≤ E) (he₂ : e₂ ≤ E) :
    (s₁.apply ↑(m₁ * 2 ^ (e₁ - min e₁ e₂).toNat) + s₂.apply ↑(m₂ * 2 ^ (e₂ - min e₁ e₂).toNat)).natAbs <
      2 ^ (54 + (E - min e₁ e₂).toNat) := by
  have hpart : ∀ {m : Nat} {d : Int}, m < 2 ^ 53 → d ≤ E →
      m * 2 ^ (d - min e₁ e₂).toNat < 2 ^ 53 * 2 ^ (E - min e₁ e₂).toNat := fun hm hd =>
    Nat.mul_lt_mul_of_lt_of_le hm (Nat.pow_le_pow_right (by norm_num) (by omega)) (Nat.two_pow_pos _)
  have habs := Int.natAbs_add_le (s₁.apply ↑(m₁ * 2 ^ (e₁ - min e₁ e₂).toNat))
    (s₂.apply ↑(m₂ * 2 ^ (e₂ - min e₁ e₂).toNat))
  rw [Sign.apply_natAbs, Sign.apply_natAbs, Int.natAbs_natCast, Int.natAbs_natCast] at habs
  calc _ ≤ _ := habs
    _ < 2 ^ 53 * 2 ^ (E - min e₁ e₂).toNat + 2 ^ 53 * 2 ^ (E - min e₁ e₂).toNat :=
      Nat.add_lt_add (hpart hm₁ he₁) (hpart hm₂ he₂)
    _ = 2 ^ (54 + (E - min e₁ e₂).toNat) := by rw [Nat.pow_add]; ring

/-- Two values within an exponent add to a value within two exponents more. -/
theorem add_within {a b : UnpackedFloat} {E : Int} (ha : a.Within E) (hb : b.Within E) (hE : -1074 ≤ E) :
    (add Format.binary64 a b).Within (E + 2) := by
  cases a with
  | zero s₁ =>
    cases b with
    | zero s₂ =>
      show (if s₁ == s₂ then zero s₁ else zero .positive).Within (E + 2)
      split <;> trivial
    | finite s₂ m₂ e₂ h₂ => exact hb.mono (by omega)
    | infinity s₂ => exact False.elim hb
    | notANumber => exact False.elim hb
  | finite s₁ m₁ e₁ h₁ =>
    cases b with
    | zero s₂ => exact ha.mono (by omega)
    | finite s₂ m₂ e₂ h₂ =>
      obtain ⟨hm₁, he₁⟩ := ha
      obtain ⟨hm₂, he₂⟩ := hb
      rw [add_finite]
      refine (normalize_within_of_lt (aligned_sum_lt s₁ s₂ hm₁ hm₂ he₁ he₂) _ _).mono ?_
      omega
    | infinity s₂ => exact False.elim hb
    | notANumber => exact False.elim hb
  | infinity s₁ => exact False.elim ha
  | notANumber => exact False.elim ha

/-! ### Absorption -/

/-- Shifting an exact mantissa right by `k + 1` keeps its bits from `k + 1` up, takes bit `k` as
the round bit and the bits below it as the sticky bit. -/
theorem shiftRight_exact (N k : Nat) :
    (⟨N, false, false⟩ : ExtendedMantissa) >>> (k + 1) = ⟨N / 2 ^ (k + 1), N / 2 ^ k % 2 != 0, N % 2 ^ k != 0⟩ := by
  induction k with
  | zero => simp [HShiftRight.hShiftRight, Nat.repeat, ExtendedMantissa.shiftRightOne, Nat.mod_one]
  | succ k ih =>
    show ExtendedMantissa.shiftRightOne ((⟨N, false, false⟩ : ExtendedMantissa) >>> (k + 1)) = _
    rw [ih]
    simp only [ExtendedMantissa.shiftRightOne, Nat.div_div_eq_div_mul, ← Nat.pow_succ, ExtendedMantissa.mk.injEq,
      true_and]
    -- the bits below the new round bit are the old round bit and the bits below it
    rw [Nat.mod_pow_succ]
    rcases Nat.mod_two_eq_zero_or_one (N / 2 ^ k) with h | h <;> simp [h]

theorem div_two_pow_of_split {q r k : Nat} (hr : r < 2 ^ (k + 1)) : (q * 2 ^ (k + 1) + r) / 2 ^ (k + 1) = q := by
  rw [Nat.add_comm, Nat.add_mul_div_right _ _ (Nat.two_pow_pos _), Nat.div_eq_of_lt hr, Nat.zero_add]

/-- Dropping `k + 1` low bits that stand below half of the last kept place rounds down. -/
theorem roundedMantissa_shift_down {q r k : Nat} (hr : r < 2 ^ k) :
    ((⟨q * 2 ^ (k + 1) + r, false, false⟩ : ExtendedMantissa) >>> (k + 1)).roundedMantissa = q := by
  have hk : 2 ^ (k + 1) = 2 * 2 ^ k := Nat.pow_succ'
  have hround : (q * 2 ^ (k + 1) + r) / 2 ^ k % 2 = 0 := by
    rw [hk, show q * (2 * 2 ^ k) = 2 * q * 2 ^ k by ring, Nat.add_comm, Nat.add_mul_div_right _ _ (Nat.two_pow_pos _),
      Nat.div_eq_of_lt hr, Nat.zero_add, Nat.mul_mod_right]
  rw [shiftRight_exact, div_two_pow_of_split (by omega), hround]
  cases (q * 2 ^ (k + 1) + r) % 2 ^ k != 0 <;> rfl

/-- Dropping `k + 1` low bits that stand above half of the last kept place rounds up. -/
theorem roundedMantissa_shift_up {q r k : Nat} (hr : 2 ^ k < r) (hr' : r < 2 ^ (k + 1)) :
    ((⟨q * 2 ^ (k + 1) + r, false, false⟩ : ExtendedMantissa) >>> (k + 1)).roundedMantissa = q + 1 := by
  have hk : 2 ^ (k + 1) = 2 * 2 ^ k := Nat.pow_succ'
  have hhalf : r / 2 ^ k = 1 := Nat.div_eq_of_lt_le (by omega) (by omega)
  have hsplit : q * 2 ^ (k + 1) + r = r + 2 * q * 2 ^ k := by rw [hk]; ring
  have hround : (q * 2 ^ (k + 1) + r) / 2 ^ k % 2 = 1 := by
    rw [hsplit, Nat.add_mul_div_right _ _ (Nat.two_pow_pos _), hhalf]
    omega
  have hsticky : (q * 2 ^ (k + 1) + r) % 2 ^ k ≠ 0 := by
    rw [hsplit, Nat.add_mul_mod_self_right]
    have := Nat.div_add_mod r (2 ^ k)
    rw [hhalf] at this
    omega
  have hbit : ((q * 2 ^ (k + 1) + r) % 2 ^ k != 0) = true := bne_iff_ne.mpr hsticky
  rw [shiftRight_exact, div_two_pow_of_split hr', hround, hbit]
  rfl

/-- A mantissa of at least 53 bits is not lowered before rounding. -/
theorem round_of_wide (s : Sign) {N : Nat} (e : Int) (hN : 52 ≤ N.log2) :
    round Format.binary64 s N e = roundWithAccuracy Format.binary64 s N e .exact := by
  have hk : (e - Format.binary64.targetExponent (totalExponent N e)).toNat = 0 := by
    rw [targetExponent_binary64, totalExponent]
    omega
  simp only [round, decreaseExponent, hk, Nat.shiftLeft_zero, Nat.cast_zero, Int.sub_zero]

theorem log2_split {q r k : Nat} (hq : 2 ^ 52 ≤ q) (hq' : q < 2 ^ 53) (hr : r < 2 ^ (k + 1)) :
    (q * 2 ^ (k + 1) + r).log2 = 52 + (k + 1) := by
  rw [Nat.log2_eq_iff (by positivity)]
  have hp : 2 ^ (52 + (k + 1) + 1) = 2 ^ 53 * 2 ^ (k + 1) := by rw [← Nat.pow_add]; congr 1; omega
  constructor
  · calc 2 ^ (52 + (k + 1)) = 2 ^ 52 * 2 ^ (k + 1) := Nat.pow_add _ _ _
      _ ≤ q * 2 ^ (k + 1) := Nat.mul_le_mul_right _ hq
      _ ≤ _ := Nat.le_add_right _ _
  · rw [hp]
    calc q * 2 ^ (k + 1) + r < (q + 1) * 2 ^ (k + 1) := by rw [Nat.succ_mul]; omega
      _ ≤ 2 ^ 53 * 2 ^ (k + 1) := Nat.mul_le_mul_right _ hq'

/-- An exact mantissa `q * 2 ^ (k + 1) + r` with a 53-bit `q` is rounded from the first shift
that drops its `k + 1` low bits. -/
theorem round_split (s : Sign) {q r k : Nat} {e : Int} (hq : 2 ^ 52 ≤ q) (hq' : q < 2 ^ 53)
    (hr : r < 2 ^ (k + 1)) (he : -1074 ≤ e + (k + 1)) :
    round Format.binary64 s (q * 2 ^ (k + 1) + r) e = roundWithAccuracy Format.binary64 s (q * 2 ^ (k + 1) + r) e .exact ∧
      shiftToTargetExponent Format.binary64 (q * 2 ^ (k + 1) + r) e .exact =
        ((⟨q * 2 ^ (k + 1) + r, false, false⟩ : ExtendedMantissa) >>> (k + 1), e + (k + 1)) := by
  have hlog := log2_split hq hq' hr
  refine ⟨round_of_wide s e (by omega), ?_⟩
  rw [shiftToTargetExponent_wide .exact (by omega) (by omega), hlog, Nat.add_sub_cancel_left]
  refine Prod.ext rfl ?_
  show ((52 + (k + 1) : Nat) : Int) + e - 52 = e + (k + 1)
  omega

/-- When the low bits round `q` to `R` below `2 ^ 53`, the value is `R` at exponent `e + (k + 1)`. -/
theorem round_split_eq (s : Sign) {q r k R : Nat} {e : Int} (hq : 2 ^ 52 ≤ q) (hq' : q < 2 ^ 53)
    (hr : r < 2 ^ (k + 1)) (he : -1074 ≤ e + (k + 1))
    (hR : ((⟨q * 2 ^ (k + 1) + r, false, false⟩ : ExtendedMantissa) >>> (k + 1)).roundedMantissa = R)
    (h : 0 < R) (hR' : R < 2 ^ 53) :
    round Format.binary64 s (q * 2 ^ (k + 1) + r) e = finite s R (e + (k + 1)) h := by
  obtain ⟨hround, hshift⟩ := round_split s hq hq' hr he
  rw [hround, roundWithAccuracy_eq, hshift]
  dsimp only
  simp only [hR, Nat.pos_iff_ne_zero.mp h, hR', reduceDIte, reduceIte]

/-- When the low bits carry `q` to `2 ^ 53`, the value is `2 ^ 52` one exponent higher. -/
theorem round_split_carry (s : Sign) {q r k : Nat} {e : Int} (hq : 2 ^ 52 ≤ q) (hq' : q < 2 ^ 53)
    (hr : r < 2 ^ (k + 1)) (he : -1074 ≤ e + (k + 1))
    (hR : ((⟨q * 2 ^ (k + 1) + r, false, false⟩ : ExtendedMantissa) >>> (k + 1)).roundedMantissa = 2 ^ 53) :
    round Format.binary64 s (q * 2 ^ (k + 1) + r) e = finite s (2 ^ 52) (e + (k + 1) + 1) (by norm_num) := by
  obtain ⟨hround, hshift⟩ := round_split s hq hq' hr he
  have h53 : (2 ^ 53 : Nat) ≠ 0 := by norm_num
  rw [hround, roundWithAccuracy_eq, hshift]
  dsimp only
  simp only [hR, h53, Nat.lt_irrefl, reduceDIte, reduceIte]

/-- A value absorbs a nonzero addend 55 or more exponents below it, whatever the signs: the addend
is below a quarter of the value's last place, so the exact sum rounds back to the value. -/
theorem add_absorb {s₁ s₂ : Sign} {m₁ m₂ : Nat} {e₁ e₂ : Int} (h₁ : 0 < m₁) (h₂ : 0 < m₂)
    (hm₁ : 2 ^ 52 ≤ m₁) (hm₁' : m₁ < 2 ^ 53) (hm₂ : m₂ < 2 ^ 53) (he : e₂ + 55 ≤ e₁) (he₂ : -1074 ≤ e₂) :
    add Format.binary64 (finite s₁ m₁ e₁ h₁) (finite s₂ m₂ e₂ h₂) = finite s₁ m₁ e₁ h₁ := by
  -- the value stands `k + 1 ≥ 55` places above the addend
  obtain ⟨k, rfl⟩ : ∃ k : Nat, e₁ = e₂ + (k + 1) := ⟨(e₁ - e₂ - 1).toNat, by omega⟩
  have hk : 2 ^ 53 ≤ 2 ^ k := Nat.pow_le_pow_right (by norm_num) (by omega)
  have hk' : 2 ^ (k + 1) = 2 * 2 ^ k := Nat.pow_succ'
  have hmin : min (e₂ + (k + 1)) e₂ = e₂ := by omega
  have hd : (e₂ + (k + 1) - e₂).toNat = k + 1 := by omega
  rw [add_finite, hmin, hd, Int.sub_self, Int.toNat_zero, Nat.pow_zero, Nat.mul_one]
  by_cases hs : s₂ = s₁
  · -- same signs: the addend falls below the round bit
    rw [hs, Sign.apply_add, ← Nat.cast_add, normalize_apply _ (by positivity)]
    exact round_split_eq s₁ hm₁ hm₁' (by omega) (by omega) (roundedMantissa_shift_down (by omega)) h₁ hm₁'
  · -- opposite signs: the value loses a unit and its low bits round it back
    have hle : m₂ < m₁ * 2 ^ (k + 1) := lt_of_lt_of_le (by omega) (Nat.le_mul_of_pos_left _ h₁)
    rw [Sign.eq_neg_of_ne hs, Sign.apply_add_neg, ← Nat.cast_sub hle.le, normalize_apply _ (by omega)]
    obtain ⟨q, rfl⟩ : ∃ q, m₁ = q + 1 := ⟨m₁ - 1, by omega⟩
    rcases Nat.lt_or_ge (2 ^ 52) (q + 1) with hfull | hpow
    · have hsplit : (q + 1) * 2 ^ (k + 1) - m₂ = q * 2 ^ (k + 1) + (2 ^ (k + 1) - m₂) := by
        rw [Nat.succ_mul]
        omega
      rw [hsplit]
      exact round_split_eq s₁ (by omega) (by omega) (by omega) (by omega)
        (roundedMantissa_shift_up (by omega) (by omega)) h₁ hm₁'
    · -- the mantissa `2 ^ 52` drops to 53 ones one place lower, and rounding carries back
      have hq : q + 1 = 2 ^ 52 := by omega
      obtain ⟨j, rfl⟩ : ∃ j, k = j + 1 := ⟨k - 1, by omega⟩
      have hj : 2 ^ 53 ≤ 2 ^ j := Nat.pow_le_pow_right (by norm_num) (by omega)
      have hj' : 2 ^ (j + 1) = 2 * 2 ^ j := Nat.pow_succ'
      have hsplit : (q + 1) * 2 ^ (j + 1 + 1) - m₂ = (2 ^ 53 - 1) * 2 ^ (j + 1) + (2 ^ (j + 1) - m₂) := by
        rw [hq, hk']
        omega
      rw [hsplit, round_split_carry s₁ (by norm_num) (by norm_num) (by omega) (by omega)
        (by rw [roundedMantissa_shift_up (by omega) (by omega)]; norm_num)]
      congr 1
      · exact hq.symm
      · omega

/-- Adding a canonical value within `E - 54` to a canonical value within `E + 2` stays within
`E + 2`: either both are within `E` and the sum grows by at most two, or the first stands 55
places above the second and absorbs it. -/
theorem add_within_of_absorb {a b : UnpackedFloat} {E : Int} (ha : a.Within (E + 2)) (hca : a.Canonical)
    (hb : b.Within (E - 54)) (hcb : b.Canonical) (hE : -1074 ≤ E) :
    (add Format.binary64 a b).Within (E + 2) := by
  by_cases hsmall : a.Within E
  · exact add_within hsmall (hb.mono (by omega)) hE
  cases a with
  | finite s₁ m₁ e₁ h₁ =>
    have he₁ : E < e₁ := by
      by_contra hle
      exact hsmall ⟨ha.1, by omega⟩
    cases b with
    | finite s₂ m₂ e₂ h₂ =>
      -- above the subnormals the mantissa of `a` is full
      obtain ⟨hm₁, -, hnorm⟩ := hca
      have he₂ : e₂ ≤ E - 54 := hb.2
      rw [add_absorb h₁ h₂ (hnorm.resolve_right (by omega)) hm₁ hb.1 (by omega) hcb.2.1]
      exact ha
    | zero s₂ => exact ha
    | infinity s₂ => exact False.elim hb
    | notANumber => exact False.elim hb
  | zero s₁ => exact absurd trivial hsmall
  | infinity s₁ => exact False.elim ha
  | notANumber => exact False.elim ha

/-! ### Quotients -/

theorem log2_le_log2 {a b : Nat} (h : a ≤ b) : a.log2 ≤ b.log2 := by
  rw [Nat.log2_eq_log_two, Nat.log2_eq_log_two]
  exact Nat.log_mono_right h

/-- A quotient of a finite value by a finite value lands at most one exponent above the
difference of their exponents. -/
theorem div_within {a : UnpackedFloat} {E : Int} (ha : a.Within E) (s : Sign) (m : Nat) (e : Int) (h : 0 < m) :
    (div Format.binary64 a (finite s m e h)).Within (max (E - e) (-1074) + 1) := by
  cases a with
  | zero s₁ => trivial
  | finite s₁ m₁ e₁ h₁ =>
    obtain ⟨hm₁, he₁⟩ := ha
    simp only [div, divCore, Nat.shiftLeft_eq]
    generalize ht : min (e₁ - e) (Format.binary64.targetExponent (totalExponent m₁ e₁ - totalExponent m e)) = t
    -- the quotient has no more bits than the shifted dividend
    have hq := log2_le_log2 (Nat.div_le_self (m₁ * 2 ^ (e₁ - e - t).toNat) m)
    have hl := log2_mul_two_pow_le m₁ (e₁ - e - t).toNat
    have hl₁ : m₁.log2 < 53 := (Nat.log2_lt h₁.ne').mpr hm₁
    have htle : t ≤ e₁ - e := by rw [← ht]; exact min_le_left _ _
    refine (roundWithAccuracy_within _ _ _ _).mono ?_
    omega
  | infinity s₁ => exact False.elim ha
  | notANumber => exact False.elim ha

/-! ### Packing -/

/-- An unpacked finite value has the exponent its exponent field gives, or the subnormals'. -/
theorem unpack_within {b : BitVec Format.binary64.numBits} {E : Int} (hb : (unpackExponent b).toNat ≤ E + 1075)
    (hE : E ≤ 971) : (unpack Format.binary64 b).Within (max E (-1074)) := by
  have hc := unpack_canonical b
  have hbias : (Format.binary64.exponentBias : Int) = 1023 := rfl
  revert hc
  simp only [unpack]
  split_ifs with h₁ h₂ h₃ h₄
  · -- the exponent field of an infinity or a NaN is all ones
    rw [h₁] at hb
    exact absurd hb (by show ¬2047 ≤ E + 1075; omega)
  · rw [h₁] at hb
    exact absurd hb (by show ¬2047 ≤ E + 1075; omega)
  · intro
    trivial
  · intro hc
    have h0 : (unpackExponent b).toNat = 0 := by rw [h₃]; rfl
    simp only [Within, h0, hbias]
    refine ⟨hc.1, ?_⟩
    omega
  · intro hc
    simp only [Within, hbias]
    refine ⟨hc.1, ?_⟩
    omega

/-- Packing a value within an exponent below the overflow keeps its exponent field in range. -/
theorem unpackExponent_pack_le {u : UnpackedFloat} {E : Int} (hu : u.Within E) (hE : -1075 ≤ E) (hE' : E ≤ 970) :
    (unpackExponent (pack Format.binary64 u)).toNat ≤ E + 1075 := by
  cases u with
  | zero s =>
    simp only [pack, packedZero, unpackExponent_packComponents]
    show (0 : Nat) ≤ E + 1075
    omega
  | finite s m e h =>
    obtain ⟨-, he⟩ := hu
    have hbias : (e + Format.binary64.exponentBias + Format.binary64.mantissaBitsWithoutImplicit).toNat =
        (e + 1075).toNat := by
      show (e + ((2 ^ (11 - 1) - 1 : Nat) : Int) + ((52 : Nat) : Int)).toNat = _
      omega
    rw [pack]
    simp only [hbias]
    rw [if_neg (by show ¬2 ^ 11 ≤ (e + 1075).toNat + 1; omega)]
    split
    · rw [unpackExponent_packComponents]
      show (e + 1075).toNat % 2 ^ 11 ≤ E + 1075
      omega
    · rw [unpackExponent_packComponents]
      show (0 : Nat) ≤ E + 1075
      omega
  | infinity s => exact False.elim hu
  | notANumber => exact False.elim hu

/-- A value within an exponent below the overflow survives packing, within the same exponent. -/
theorem unpack_pack_within {u : UnpackedFloat} {E : Int} (hu : u.Within E) (hE : -1074 ≤ E) (hE' : E ≤ 970) :
    (unpack Format.binary64 (pack Format.binary64 u)).Within E := by
  have h := unpack_within (unpackExponent_pack_le hu (by omega) hE') (by omega)
  rwa [max_eq_left hE] at h

theorem Within.neg {E : Int} {u : UnpackedFloat} (h : u.Within E) : u.neg.Within E := by
  cases u with
  | zero s => trivial
  | finite s m e hm => exact h
  | infinity s => exact False.elim h
  | notANumber => exact False.elim h

end Float.Model.UnpackedFloat

namespace Float

open Float.Model UnpackedFloat

theorem unpack_add (x y : Float) : (x + y).toModel.unpack = UnpackedFloat.unpack Format.binary64
    (UnpackedFloat.pack Format.binary64 (UnpackedFloat.add Format.binary64 x.toModel.unpack y.toModel.unpack)) := rfl

theorem unpack_div (x y : Float) : (x / y).toModel.unpack = UnpackedFloat.unpack Format.binary64
    (UnpackedFloat.pack Format.binary64 (UnpackedFloat.div Format.binary64 x.toModel.unpack y.toModel.unpack)) := rfl

/-- An integer below `2 ^ 64` in size converts to a value within exponent 12. -/
theorem ofInt_within {p : Int} (h : p.natAbs < 2 ^ 64) : (Float.ofInt p).toModel.unpack.Within 12 := by
  have hnat : ∀ n : Nat, n < 2 ^ 64 → (Float.ofNat n).toModel.unpack.Within 12 := fun n hn => by
    rcases Nat.eq_zero_or_pos n with rfl | hpos
    · show (UnpackedFloat.zero .positive).Within 12
      trivial
    · obtain ⟨m, e, hm, hu, -, hm', -, he⟩ := ofNat_unpack hpos.ne' hn
      rw [hu]
      exact ⟨hm', he⟩
  cases p with
  | ofNat n => exact hnat n h
  | negSucc n =>
    show (-(Float.ofNat (n + 1))).toModel.unpack.Within 12
    rw [unpack_neg]
    exact (hnat (n + 1) h).neg

/-- A running sum of integers below `2 ^ 64` in size stays within exponent 68: an accumulator
above exponent 66 absorbs every such integer. -/
theorem add_ofInt_within {x : Float} (hx : x.toModel.unpack.Within 68) {p : Int} (hp : p.natAbs < 2 ^ 64) :
    (x + Float.ofInt p).toModel.unpack.Within 68 := by
  rw [unpack_add]
  refine unpack_pack_within ?_ (by norm_num) (by norm_num)
  exact add_within_of_absorb (E := 66) hx (canonical_unpack _) (ofInt_within hp) (canonical_unpack _) (by norm_num)

theorem foldl_add_ofInt_within {α : Type} (f : α → Int) :
    ∀ (l : List α) {x : Float}, (∀ a ∈ l, (f a).natAbs < 2 ^ 64) → x.toModel.unpack.Within 68 →
      (l.foldl (fun acc a => acc + Float.ofInt (f a)) x).toModel.unpack.Within 68
  | [], _, _, hx => hx
  | a :: l, _, hl, hx => by
    rw [List.foldl_cons]
    exact foldl_add_ofInt_within f l (fun b hb => hl b (List.mem_cons_of_mem a hb))
      (add_ofInt_within hx (hl a List.mem_cons_self))

/-- Such a sum divided by a count below `2 ^ 64` stays within exponent 121. -/
theorem div_ofNat_within {x : Float} (hx : x.toModel.unpack.Within 68) {n : Nat} (hn : n ≠ 0) (h : n < 2 ^ 64) :
    (x / Float.ofNat n).toModel.unpack.Within 121 := by
  obtain ⟨m, e, hm, hu, -, -, he, -⟩ := ofNat_unpack hn h
  rw [unpack_div, hu]
  refine unpack_pack_within ((div_within hx _ _ _ _).mono ?_) (by norm_num) (by norm_num)
  omega

end Float
