import PinballScout.Proofs.Float.Sum

/-! Values of the normal range. Zero, and a finite double with a full 53-bit mantissa at an
    exponent of the normal range, survive packing unchanged. Differences, quotients and products
    of such values stay of this kind while their exponents stay in bounds: an exact result other
    than zero rounds to a full mantissa at a known distance below its leading bit, so no step
    falls to zero or among the subnormals. Aligned to a common exponent, full mantissas compare
    as the doubles do, so the sign of the difference of two unequal values says which is the
    larger; the sign of a quotient or a product is the quotient or product of the signs. -/

namespace Float.Model.UnpackedFloat

/-- Zero, or a finite value with a full mantissa at an exponent from `L` to `E`. -/
def Ranged (L E : Int) : UnpackedFloat → Prop
  | zero _ => True
  | finite _ m e _ => 2 ^ 52 ≤ m ∧ m < 2 ^ 53 ∧ L ≤ e ∧ e ≤ E
  | _ => False

section Ranged
variable {L E : Int}

theorem Ranged.mono {L' E' : Int} {u : UnpackedFloat} (h : u.Ranged L E) (hL : L' ≤ L) (hE : E ≤ E') :
    u.Ranged L' E' := by
  cases u with
  | zero s => trivial
  | finite s m e hm => exact ⟨h.1, h.2.1, by have := h.2.2.1; omega, by have := h.2.2.2; omega⟩
  | infinity s => exact False.elim h
  | notANumber => exact False.elim h

theorem Ranged.ne_nan {u : UnpackedFloat} (h : u.Ranged L E) : u ≠ notANumber := by
  rintro rfl
  exact h

theorem Ranged.neg {u : UnpackedFloat} (h : u.Ranged L E) : u.neg.Ranged L E := by
  cases u with
  | zero s => trivial
  | finite s m e hm => exact h
  | infinity s => exact False.elim h
  | notANumber => exact False.elim h

theorem unpack_pack_zero (s : Sign) : unpack Format.binary64 (pack Format.binary64 (zero s)) = zero s := by
  cases s <;> rfl

/-- Zero and full mantissas of the normal range survive packing unchanged. -/
theorem unpack_pack_ranged {u : UnpackedFloat} (h : u.Ranged L E) (hL : -1074 ≤ L) (hE : E ≤ 971) :
    unpack Format.binary64 (pack Format.binary64 u) = u := by
  cases u with
  | zero s => exact unpack_pack_zero s
  | finite s m e hm => exact unpack_pack_normal s hm h.1 h.2.1 (by have := h.2.2.1; omega) (by have := h.2.2.2; omega)
  | infinity s => exact False.elim h
  | notANumber => exact False.elim h

end Ranged

/-! ### Exact results rounded in the normal range -/

/-- A nonzero mantissa of the normal range normalizes to a full mantissa with its sign, from 52 to
51 places below its leading bit. -/
theorem normalize_ranged {M e : Int} (hM : M ≠ 0) (hn : -1022 ≤ M.natAbs.log2 + e) (z : Sign) :
    ∃ s r e' h, normalize Format.binary64 M e z = finite s r e' h ∧ (s = .positive ↔ 0 < M) ∧
      2 ^ 52 ≤ r ∧ r < 2 ^ 53 ∧ M.natAbs.log2 + e - 52 ≤ e' ∧ e' ≤ M.natAbs.log2 + e - 51 := by
  unfold normalize
  split
  next hlt =>
    have hneg := Int.compare_eq_lt.mp hlt
    have hM' : (-M).toNat = M.natAbs := by omega
    rw [hM']
    obtain ⟨r, e', h, hr, h₁, h₂, h₃, h₄⟩ := round_normal .negative (Int.natAbs_ne_zero.mpr hM) (e := e) (by omega)
    exact ⟨_, r, e', h, hr, by simp; omega, h₁, h₂, h₃, h₄⟩
  next heq => exact absurd (Int.compare_eq_eq.mp heq) hM
  next hgt =>
    have hpos := Int.compare_eq_gt.mp hgt
    have hM' : M.toNat = M.natAbs := by omega
    rw [hM']
    obtain ⟨r, e', h, hr, h₁, h₂, h₃, h₄⟩ := round_normal .positive (Int.natAbs_ne_zero.mpr hM) (e := e) (by omega)
    exact ⟨_, r, e', h, hr, by simp; omega, h₁, h₂, h₃, h₄⟩

@[simp] theorem Sign.neg_negative : -Sign.negative = .positive := rfl

@[simp] theorem Sign.neg_positive : -Sign.positive = .negative := rfl

@[simp] theorem Sign.mul_positive (s : Sign) : s * .positive = s := by
  cases s <;> rfl

theorem Sign.div_eq_positive_iff (s t : Sign) : s / t = .positive ↔ (s = .positive ↔ t = .positive) := by
  cases s <;> cases t <;> simp [HDiv.hDiv, Div.div]

theorem Sign.div_eq_negative_iff (s t : Sign) : s / t = .negative ↔ ¬(s = .positive ↔ t = .positive) := by
  cases s <;> cases t <;> simp [HDiv.hDiv, Div.div]

theorem log2_eq_of_full {m : Nat} (h : 2 ^ 52 ≤ m) (h' : m < 2 ^ 53) : m.log2 = 52 :=
  (Nat.log2_eq_iff (by omega)).mpr ⟨h, h'⟩

section Products
variable {s₁ s₂ : Sign} {m₁ m₂ : Nat} {e₁ e₂ : Int} {h₁ : 0 < m₁} {h₂ : 0 < m₂} {L₁ E₁ L₂ E₂ : Int}

/-- The product of two full mantissas has 105 or 106 bits, so it rounds to a full mantissa 52 to
54 places above the sum of the exponents. -/
theorem mul_ranged (ha : (finite s₁ m₁ e₁ h₁).Ranged L₁ E₁) (hb : (finite s₂ m₂ e₂ h₂).Ranged L₂ E₂)
    (hL : -1074 ≤ L₁ + L₂ + 52) :
    ∃ r e h, mul Format.binary64 (finite s₁ m₁ e₁ h₁) (finite s₂ m₂ e₂ h₂) = finite (s₁ * s₂) r e h ∧
      (finite (s₁ * s₂) r e h).Ranged (L₁ + L₂ + 52) (E₁ + E₂ + 54) := by
  obtain ⟨hm₁, hm₁', hL₁, hE₁⟩ := ha
  obtain ⟨hm₂, hm₂', hL₂, hE₂⟩ := hb
  have hp : m₁ * m₂ ≠ 0 := Nat.mul_ne_zero h₁.ne' h₂.ne'
  have hlo : 104 ≤ (m₁ * m₂).log2 := (Nat.le_log2 hp).mpr (by
    calc 2 ^ 104 = 2 ^ 52 * 2 ^ 52 := by norm_num
      _ ≤ m₁ * m₂ := Nat.mul_le_mul hm₁ hm₂)
  have hhi : (m₁ * m₂).log2 < 106 := (Nat.log2_lt hp).mpr (by
    calc m₁ * m₂ < 2 ^ 53 * 2 ^ 53 := Nat.mul_lt_mul'' hm₁' hm₂'
      _ = 2 ^ 106 := by norm_num)
  obtain ⟨r, e, h, hr, hr₁, hr₂, he, he'⟩ := roundWithAccuracy_wide (s₁ * s₂) (m := m₁ * m₂) (e := e₁ + e₂) .exact
    (by omega) (by omega)
  exact ⟨r, e, h, hr, hr₁, hr₂, by omega, by omega⟩

/-- The quotient of two full mantissas is first taken 53 places down, where it has 53 or 54 bits,
so it rounds to a full mantissa 53 to 51 places below the difference of the exponents. -/
theorem div_ranged (ha : (finite s₁ m₁ e₁ h₁).Ranged L₁ E₁) (hb : (finite s₂ m₂ e₂ h₂).Ranged L₂ E₂)
    (hL : -1074 ≤ L₁ - E₂ - 53) :
    ∃ r e h, div Format.binary64 (finite s₁ m₁ e₁ h₁) (finite s₂ m₂ e₂ h₂) = finite (s₁ / s₂) r e h ∧
      (finite (s₁ / s₂) r e h).Ranged (L₁ - E₂ - 53) (E₁ - L₂ - 51) := by
  obtain ⟨hm₁, hm₁', hL₁, hE₁⟩ := ha
  obtain ⟨hm₂, hm₂', hL₂, hE₂⟩ := hb
  have ht : min (e₁ - e₂) (Format.binary64.targetExponent (totalExponent m₁ e₁ - totalExponent m₂ e₂)) =
      e₁ - e₂ - 53 := by
    rw [targetExponent_binary64, totalExponent, totalExponent, log2_eq_of_full hm₁ hm₁', log2_eq_of_full hm₂ hm₂']
    omega
  have hk : (e₁ - e₂ - (e₁ - e₂ - 53)).toNat = 53 := by omega
  simp only [div, divCore, Nat.shiftLeft_eq, ht, hk]
  -- the shifted dividend lies between `2 ^ 52` and `2 ^ 54` times the divisor
  have hq : 2 ^ 52 ≤ m₁ * 2 ^ 53 / m₂ := (Nat.le_div_iff_mul_le h₂).mpr (by
    calc 2 ^ 52 * m₂ ≤ 2 ^ 52 * 2 ^ 53 := Nat.mul_le_mul_left _ hm₂'.le
      _ ≤ m₁ * 2 ^ 53 := Nat.mul_le_mul_right _ hm₁)
  have hq' : m₁ * 2 ^ 53 / m₂ < 2 ^ 54 := (Nat.div_lt_iff_lt_mul h₂).mpr (by
    calc m₁ * 2 ^ 53 < 2 ^ 53 * 2 ^ 53 := Nat.mul_lt_mul_of_pos_right hm₁' (Nat.two_pow_pos _)
      _ = 2 ^ 54 * 2 ^ 52 := by norm_num
      _ ≤ 2 ^ 54 * m₂ := Nat.mul_le_mul_left _ hm₂)
  have hqpos : m₁ * 2 ^ 53 / m₂ ≠ 0 := by omega
  have hlo : 52 ≤ (m₁ * 2 ^ 53 / m₂).log2 := (Nat.le_log2 hqpos).mpr hq
  have hhi : (m₁ * 2 ^ 53 / m₂).log2 < 54 := (Nat.log2_lt hqpos).mpr hq'
  obtain ⟨r, e, h, hr, hr₁, hr₂, he, he'⟩ := roundWithAccuracy_wide (s₁ / s₂) (m := m₁ * 2 ^ 53 / m₂)
    (e := e₁ - e₂ - 53) (accuracyOfFraction (m₁ * 2 ^ 53 % m₂) m₂) hlo (by omega)
  exact ⟨r, e, h, hr, hr₁, hr₂, by omega, by omega⟩

end Products

/-! ### Differences -/

/-- Aligned to a common exponent, a full mantissa at a lower exponent stays below any full
mantissa at a higher one. -/
theorem aligned_lt_of_lt {m₁ m₂ : Nat} {e₁ e₂ μ : Int} (hm₁ : m₁ < 2 ^ 53) (hm₂ : 2 ^ 52 ≤ m₂) (hμ : μ ≤ e₁)
    (he : e₁ < e₂) : m₁ * 2 ^ (e₁ - μ).toNat < m₂ * 2 ^ (e₂ - μ).toNat :=
  calc m₁ * 2 ^ (e₁ - μ).toNat < 2 ^ 53 * 2 ^ (e₁ - μ).toNat := Nat.mul_lt_mul_of_pos_right hm₁ (Nat.two_pow_pos _)
    _ = 2 ^ 52 * 2 ^ ((e₁ - μ).toNat + 1) := by rw [Nat.pow_succ]; ring
    _ ≤ m₂ * 2 ^ ((e₁ - μ).toNat + 1) := Nat.mul_le_mul_right _ hm₂
    _ ≤ m₂ * 2 ^ (e₂ - μ).toNat := Nat.mul_le_mul_left _ (Nat.pow_le_pow_right (by norm_num) (by omega))

/-- Aligned to a common exponent, full mantissas compare as their exponents and then their
mantissas do. -/
theorem aligned_lt_iff {m₁ m₂ : Nat} {e₁ e₂ μ : Int} (hm₁ : 2 ^ 52 ≤ m₁) (hm₁' : m₁ < 2 ^ 53) (hm₂ : 2 ^ 52 ≤ m₂)
    (hm₂' : m₂ < 2 ^ 53) (hμ₁ : μ ≤ e₁) (hμ₂ : μ ≤ e₂) :
    m₁ * 2 ^ (e₁ - μ).toNat < m₂ * 2 ^ (e₂ - μ).toNat ↔ e₁ < e₂ ∨ e₁ = e₂ ∧ m₁ < m₂ := by
  rcases lt_trichotomy e₁ e₂ with he | rfl | he
  · exact iff_of_true (aligned_lt_of_lt hm₁' hm₂ hμ₁ he) (.inl he)
  · simp only [lt_irrefl, true_and, false_or]
    exact Nat.mul_lt_mul_right (Nat.two_pow_pos _)
  · refine iff_of_false (Nat.not_lt.mpr (aligned_lt_of_lt hm₂' hm₁ hμ₂ he).le) ?_
    omega

/-- Aligned to a common exponent, signed full mantissas are ordered as the doubles are. -/
theorem apply_aligned_lt_iff {s₁ s₂ : Sign} {m₁ m₂ : Nat} {e₁ e₂ μ : Int} {h₁ : 0 < m₁} {h₂ : 0 < m₂}
    (ha : (finite s₁ m₁ e₁ h₁).Ranged μ E) (hb : (finite s₂ m₂ e₂ h₂).Ranged μ E) :
    s₁.apply ((m₁ * 2 ^ (e₁ - μ).toNat : Nat) : Int) < s₂.apply ((m₂ * 2 ^ (e₂ - μ).toNat : Nat) : Int) ↔
      (finite s₁ m₁ e₁ h₁).rank < (finite s₂ m₂ e₂ h₂).rank := by
  obtain ⟨hm₁, hm₁', hμ₁, -⟩ := ha
  obtain ⟨hm₂, hm₂', hμ₂, -⟩ := hb
  have hlt := aligned_lt_iff hm₁ hm₁' hm₂ hm₂' hμ₁ hμ₂
  have hgt := aligned_lt_iff hm₂ hm₂' hm₁ hm₁' hμ₂ hμ₁
  have hp₁ : 0 < m₁ * 2 ^ (e₁ - μ).toNat := Nat.mul_pos h₁ (Nat.two_pow_pos _)
  have hp₂ : 0 < m₂ * 2 ^ (e₂ - μ).toNat := Nat.mul_pos h₂ (Nat.two_pow_pos _)
  generalize m₁ * 2 ^ (e₁ - μ).toNat = A₁ at *
  generalize m₂ * 2 ^ (e₂ - μ).toNat = A₂ at *
  cases s₁ <;> cases s₂ <;> simp [Sign.apply, rank, Prod.Lex.toLex_lt_toLex]
  case negative.negative => simpa only [eq_comm] using hgt
  case negative.positive => omega
  case positive.positive => exact hlt

theorem sub_finite (s₁ s₂ : Sign) (m₁ m₂ : Nat) (e₁ e₂ : Int) (h₁ : 0 < m₁) (h₂ : 0 < m₂) :
    sub Format.binary64 (finite s₁ m₁ e₁ h₁) (finite s₂ m₂ e₂ h₂) =
      normalize Format.binary64 (s₁.apply ↑(m₁ * 2 ^ (e₁ - min e₁ e₂).toNat) -
        s₂.apply ↑(m₂ * 2 ^ (e₂ - min e₁ e₂).toNat)) (min e₁ e₂) .positive := by
  simp only [sub, decreaseExponent, Nat.shiftLeft_eq]

theorem Sign.apply_sub (s₁ s₂ : Sign) (x y : Int) : s₁.apply x - s₂.apply y = s₁.apply x + (-s₂).apply y := by
  cases s₂
  · show s₁.apply x - -y = s₁.apply x + y
    omega
  · show s₁.apply x - y = s₁.apply x + -y
    omega

section Differences
variable {L E : Int}

/-- The difference of two unequal values of the normal range has a full mantissa, at most two
exponents above theirs and 52 below, and is positive exactly when the first value is the larger. -/
theorem sub_ranged {a b : UnpackedFloat} (ha : a.Ranged L E) (hb : b.Ranged L E) (hL : -1022 ≤ L)
    (hab : a.beq b = false) :
    ∃ s r e h, sub Format.binary64 a b = finite s r e h ∧ (finite s r e h).Ranged (L - 52) (E + 2) ∧
      (s = .positive ↔ b.rank < a.rank) := by
  have hne : a.rank ≠ b.rank := fun h => by
    rw [(beq_iff_rank ha.ne_nan hb.ne_nan).mpr h] at hab
    exact Bool.noConfusion hab
  rcases a with s₁ | _ | s₁ | ⟨s₁, m₁, e₁, h₁⟩ <;> rcases b with s₂ | _ | s₂ | ⟨s₂, m₂, e₂, h₂⟩
  all_goals first | exact False.elim ha | exact False.elim hb | skip
  case zero.zero => exact absurd rfl hne
  case zero.finite =>
    -- from zero, the difference is the second value negated
    refine ⟨-s₂, m₂, e₂, h₂, rfl, hb.mono (by omega) (by omega), ?_⟩
    cases s₂ <;> simp [rank, Prod.Lex.toLex_lt_toLex]
  case finite.zero =>
    refine ⟨s₁, m₁, e₁, h₁, rfl, ha.mono (by omega) (by omega), ?_⟩
    cases s₁ <;> simp [rank, Prod.Lex.toLex_lt_toLex]
  case finite.finite =>
    obtain ⟨hm₁, hm₁', hL₁, hE₁⟩ := ha
    obtain ⟨hm₂, hm₂', hL₂, hE₂⟩ := hb
    have ha' : (finite s₁ m₁ e₁ h₁).Ranged (min e₁ e₂) E := ⟨hm₁, hm₁', min_le_left _ _, hE₁⟩
    have hb' : (finite s₂ m₂ e₂ h₂).Ranged (min e₁ e₂) E := ⟨hm₂, hm₂', min_le_right _ _, hE₂⟩
    have hlt := apply_aligned_lt_iff ha' hb'
    have hgt := apply_aligned_lt_iff hb' ha'
    -- unequal values differ once aligned, in one direction or the other
    have hM : s₁.apply ↑(m₁ * 2 ^ (e₁ - min e₁ e₂).toNat) - s₂.apply ↑(m₂ * 2 ^ (e₂ - min e₁ e₂).toNat) ≠ 0 := by
      intro h0
      rcases lt_trichotomy (finite s₁ m₁ e₁ h₁).rank (finite s₂ m₂ e₂ h₂).rank with h | h | h
      · have := hlt.mpr h
        omega
      · exact hne h
      · have := hgt.mpr h
        omega
    have hbound := aligned_sum_lt s₁ (-s₂) hm₁' hm₂' hE₁ hE₂
    rw [← Sign.apply_sub] at hbound
    have hlog := (Nat.log2_lt (Int.natAbs_ne_zero.mpr hM)).mpr hbound
    obtain ⟨s, r, e, h, hr, hs, hr₁, hr₂, he, he'⟩ := normalize_ranged hM (e := min e₁ e₂) (by omega) .positive
    rw [sub_finite, hr]
    exact ⟨s, r, e, h, rfl, ⟨hr₁, hr₂, by omega, by omega⟩, hs.trans (Int.sub_pos.trans hgt)⟩

end Differences

end Float.Model.UnpackedFloat

namespace Float

open Float.Model UnpackedFloat

theorem unpack_sub (x y : Float) : (x - y).toModel.unpack = UnpackedFloat.unpack Format.binary64
    (UnpackedFloat.pack Format.binary64 (UnpackedFloat.sub Format.binary64 x.toModel.unpack y.toModel.unpack)) := rfl

theorem unpack_mul (x y : Float) : (x * y).toModel.unpack = UnpackedFloat.unpack Format.binary64
    (UnpackedFloat.pack Format.binary64 (UnpackedFloat.mul Format.binary64 x.toModel.unpack y.toModel.unpack)) := rfl

section Ranged
variable {L E : Int} {x y : Float}

theorem isNaN_of_ranged (hx : x.toModel.unpack.Ranged L E) : x.isNaN = false :=
  isNaN_eq_false_iff.mpr hx.ne_nan

/-- A double of the normal range other than zero is finite, with a full mantissa. -/
theorem unpack_eq_finite_of_ranged (hx : x.toModel.unpack.Ranged L E) (hz : (x == 0.0) = false) :
    ∃ s m e h, x.toModel.unpack = .finite s m e h ∧ (UnpackedFloat.finite s m e h).Ranged L E := by
  have hbeq : x.toModel.unpack.beq (.zero .positive) = false := hz
  cases hu : x.toModel.unpack with
  | finite s m e h => exact ⟨s, m, e, h, rfl, hu ▸ hx⟩
  | zero s =>
    rw [hu] at hbeq
    cases s <;> exact absurd hbeq (by decide)
  | infinity s =>
    rw [hu] at hx
    exact False.elim hx
  | notANumber =>
    rw [hu] at hx
    exact False.elim hx

/-- The difference of two unequal doubles of the normal range is finite, with a full mantissa,
and positive exactly when the first is the larger. -/
theorem sub_ranged (hx : x.toModel.unpack.Ranged L E) (hy : y.toModel.unpack.Ranged L E) (hL : -1022 ≤ L)
    (hE : E ≤ 969) (hxy : (x == y) = false) :
    ∃ s r e h, (x - y).toModel.unpack = .finite s r e h ∧ (UnpackedFloat.finite s r e h).Ranged (L - 52) (E + 2) ∧
      (s = .positive ↔ y < x) := by
  obtain ⟨s, r, e, h, hs, hr, hpos⟩ := UnpackedFloat.sub_ranged hx hy hL hxy
  refine ⟨s, r, e, h, ?_, hr, hpos.trans (lt_iff_rank (isNaN_of_ranged hy) (isNaN_of_ranged hx)).symm⟩
  rw [unpack_sub, hs, unpack_pack_ranged hr (by omega) (by omega)]

end Ranged

section Products
variable {x y : Float} {s₁ s₂ : Sign} {m₁ m₂ : Nat} {e₁ e₂ : Int} {h₁ : 0 < m₁} {h₂ : 0 < m₂} {L₁ E₁ L₂ E₂ : Int}

/-- The quotient of two finite doubles of the normal range, when it cannot fall below it. -/
theorem div_ranged (hx : x.toModel.unpack = .finite s₁ m₁ e₁ h₁) (hy : y.toModel.unpack = .finite s₂ m₂ e₂ h₂)
    (hxr : (UnpackedFloat.finite s₁ m₁ e₁ h₁).Ranged L₁ E₁) (hyr : (UnpackedFloat.finite s₂ m₂ e₂ h₂).Ranged L₂ E₂)
    (hL : -1074 ≤ L₁ - E₂ - 53) (hE : E₁ - L₂ - 51 ≤ 971) :
    ∃ r e h, (x / y).toModel.unpack = .finite (s₁ / s₂) r e h ∧
      (UnpackedFloat.finite (s₁ / s₂) r e h).Ranged (L₁ - E₂ - 53) (E₁ - L₂ - 51) := by
  obtain ⟨r, e, h, hd, hr⟩ := UnpackedFloat.div_ranged hxr hyr hL
  refine ⟨r, e, h, ?_, hr⟩
  rw [unpack_div, hx, hy, hd, unpack_pack_ranged hr hL hE]

/-- The product of two finite doubles of the normal range, when it cannot leave it. -/
theorem mul_ranged (hx : x.toModel.unpack = .finite s₁ m₁ e₁ h₁) (hy : y.toModel.unpack = .finite s₂ m₂ e₂ h₂)
    (hxr : (UnpackedFloat.finite s₁ m₁ e₁ h₁).Ranged L₁ E₁) (hyr : (UnpackedFloat.finite s₂ m₂ e₂ h₂).Ranged L₂ E₂)
    (hL : -1074 ≤ L₁ + L₂ + 52) (hE : E₁ + E₂ + 54 ≤ 971) :
    ∃ r e h, (x * y).toModel.unpack = .finite (s₁ * s₂) r e h ∧
      (UnpackedFloat.finite (s₁ * s₂) r e h).Ranged (L₁ + L₂ + 52) (E₁ + E₂ + 54) := by
  obtain ⟨r, e, h, hd, hr⟩ := UnpackedFloat.mul_ranged hxr hyr hL
  refine ⟨r, e, h, ?_, hr⟩
  rw [unpack_mul, hx, hy, hd, unpack_pack_ranged hr hL hE]

end Products

/-! ### Comparisons with zero -/

theorem isNaN_zero : (0.0 : Float).isNaN = false := rfl

theorem zero_beq_zero : ((0.0 : Float) == 0.0) = true := rfl

/-- A finite double is above zero exactly when its sign is positive. -/
theorem zero_lt_iff_sign {x : Float} {s : Sign} {m : Nat} {e : Int} {h : 0 < m}
    (hx : x.toModel.unpack = .finite s m e h) : 0.0 < x ↔ s = .positive := by
  have hnan : x.isNaN = false := isNaN_eq_false_iff.mpr (by rw [hx]; exact nofun)
  rw [lt_iff_rank rfl hnan]
  show (UnpackedFloat.zero .positive).rank < x.toModel.unpack.rank ↔ _
  rw [hx]
  cases s <;> simp [UnpackedFloat.rank, Prod.Lex.toLex_lt_toLex]

/-- A finite double is below zero exactly when its sign is negative. -/
theorem lt_zero_iff_sign {x : Float} {s : Sign} {m : Nat} {e : Int} {h : 0 < m}
    (hx : x.toModel.unpack = .finite s m e h) : x < 0.0 ↔ s = .negative := by
  have hnan : x.isNaN = false := isNaN_eq_false_iff.mpr (by rw [hx]; exact nofun)
  rw [lt_iff_rank hnan rfl]
  show x.toModel.unpack.rank < (UnpackedFloat.zero .positive).rank ↔ _
  rw [hx]
  cases s <;> simp [UnpackedFloat.rank, Prod.Lex.toLex_lt_toLex]

theorem le_iff_not_lt {x y : Float} (hx : x.isNaN = false) (hy : y.isNaN = false) : x ≤ y ↔ ¬y < x := by
  rw [le_iff_rank hx hy, lt_iff_rank hy hx, not_lt]

theorem beq_comm_of {x y : Float} (hx : x.isNaN = false) (hy : y.isNaN = false) : (x == y) = (y == x) := by
  rw [Bool.eq_iff_iff, beq_iff_rank hx hy, beq_iff_rank hy hx, eq_comm]

theorem beq_eq_false_of_lt {x y : Float} (h : x < y) : (x == y) = false ∧ (y == x) = false := by
  obtain ⟨hx, hy⟩ := isNaN_eq_false_of_lt h
  have hr := (lt_iff_rank hx hy).mp h
  constructor <;> rw [Bool.eq_false_iff] <;> intro he
  · exact hr.ne ((beq_iff_rank hx hy).mp he)
  · exact hr.ne ((beq_iff_rank hy hx).mp he).symm

theorem zero_le_iff_not_lt {x : Float} (hx : x.isNaN = false) : 0.0 ≤ x ↔ ¬x < 0.0 :=
  le_iff_not_lt rfl hx

theorem zero_le_of_beq_zero {x : Float} (h : (x == 0.0) = true) : 0.0 ≤ x := by
  have hx := (isNaN_eq_false_of_beq h).1
  exact (le_iff_lt_or_beq rfl hx).mpr (.inr (by rw [beq_comm_of rfl hx]; exact h))

theorem not_zero_lt_of_beq_zero {x : Float} (h : (x == 0.0) = true) : ¬0.0 < x := fun h' =>
  not_lt_of_beq zero_beq_zero ((lt_iff_lt_of_beq_right h 0.0).mp h')

/-- A number other than zero is at least zero exactly when it is above it. -/
theorem zero_le_iff_lt {x : Float} (hx : x.isNaN = false) (hz : (x == 0.0) = false) : 0.0 ≤ x ↔ 0.0 < x := by
  rw [le_iff_lt_or_beq rfl hx, beq_comm_of rfl hx, hz]
  simp

end Float
