import PinballScout.Proofs.Float.Sign

/-! Rounding to doubles, for the values a program computes from integers. A mantissa of at least
    53 bits in the normal range rounds to a full 53-bit mantissa at its target exponent, or at
    the next exponent when rounding carries; such a value survives packing. Hence a positive
    integer below `2 ^ 64` converts to a finite positive double on both paths the conversion
    takes: exactly below `2 ^ 53`, and through the scaled product above. Sums with a finite value
    and quotients by a nonzero finite value are never NaN when their first operand is not. -/

namespace Float.Model.UnpackedFloat

/-! ### Shifting and rounding -/

theorem shiftRight_mantissa (k : Nat) (em : ExtendedMantissa) : (em >>> k).mantissa = em.mantissa / 2 ^ k := by
  induction k generalizing em with
  | zero => simp [HShiftRight.hShiftRight, Nat.repeat]
  | succ k ih =>
    show (ExtendedMantissa.shiftRightOne (em >>> k)).mantissa = _
    simp only [ExtendedMantissa.shiftRightOne, ih, Nat.div_div_eq_div_mul, Nat.pow_succ]

theorem ofMantissaAndAccuracy_mantissa (m : Nat) (acc : Accuracy) :
    (ExtendedMantissa.ofMantissaAndAccuracy m acc).mantissa = m := by
  rcases acc with _ | (_ | _ | _) <;> rfl

theorem roundedMantissa_bounds (em : ExtendedMantissa) :
    em.mantissa ≤ em.roundedMantissa ∧ em.roundedMantissa ≤ em.mantissa + 1 := by
  rcases em with ⟨m, (_ | _), (_ | _)⟩ <;>
    simp [ExtendedMantissa.roundedMantissa, ExtendedMantissa.accuracy, Accuracy.roundToNearestEven]
  all_goals omega

theorem targetExponent_binary64 (t : Int) : Format.binary64.targetExponent t = max (t - 53) (-1074) := rfl

/-- Shifting to the target exponent when the mantissa is long enough drops its low bits. -/
theorem shiftToTargetExponent_wide {m : Nat} {e : Int} (acc : Accuracy) (hm : 52 ≤ m.log2)
    (he : -1074 ≤ m.log2 + e - 52) :
    shiftToTargetExponent Format.binary64 m e acc =
      (ExtendedMantissa.ofMantissaAndAccuracy m acc >>> (m.log2 - 52), m.log2 + e - 52) := by
  have ht : Format.binary64.targetExponent (totalExponent m e) = m.log2 + e - 52 := by
    rw [targetExponent_binary64, totalExponent]
    omega
  simp only [shiftToTargetExponent, shiftToExponent, ht]
  have hk : (↑m.log2 + e - 52 - e).toNat = m.log2 - 52 := by omega
  rw [hk]
  congr 1
  omega

/-- A full mantissa at an exponent of the normal range needs no shifting. -/
theorem shiftToTargetExponent_full {r : Nat} {e : Int} (hr : 2 ^ 52 ≤ r) (hr' : r < 2 ^ 53) (he : -1074 ≤ e) :
    shiftToTargetExponent Format.binary64 r e .exact = (⟨r, false, false⟩, e) := by
  have hl : r.log2 = 52 := (Nat.log2_eq_iff (by omega)).mpr ⟨hr, hr'⟩
  have := shiftToTargetExponent_wide (m := r) (e := e) .exact (by omega) (by omega)
  rw [this, hl]
  simp only [Nat.sub_self]
  congr 1
  omega

/-- A mantissa that rounded up to 54 bits shifts once more. -/
theorem shiftToTargetExponent_carry {e : Int} (he : -1074 ≤ e) :
    shiftToTargetExponent Format.binary64 (2 ^ 53) e .exact = (⟨2 ^ 52, false, false⟩, e + 1) := by
  have hl : (2 ^ 53 : Nat).log2 = 53 := Nat.log2_two_pow
  have := shiftToTargetExponent_wide (m := 2 ^ 53) (e := e) .exact (by omega) (by omega)
  rw [this, hl]
  refine Prod.ext ?_ ?_
  · rfl
  · show ((53 : Nat) : Int) + e - 52 = e + 1
    omega


/-- The bits of a long mantissa after dropping all but the leading 53. -/
theorem div_two_pow_bounds {m : Nat} (hm : 52 ≤ m.log2) :
    2 ^ 52 ≤ m / 2 ^ (m.log2 - 52) ∧ m / 2 ^ (m.log2 - 52) < 2 ^ 53 := by
  have hm0 : m ≠ 0 := by
    rintro rfl
    simp at hm
  have hsplit : ∀ k, 2 ^ (k + (m.log2 - 52)) = 2 ^ k * 2 ^ (m.log2 - 52) := fun k => Nat.pow_add 2 k _
  constructor
  · rw [Nat.le_div_iff_mul_le (Nat.two_pow_pos _), ← hsplit]
    calc 2 ^ (52 + (m.log2 - 52)) = 2 ^ m.log2 := by congr 1; omega
      _ ≤ m := Nat.log2_self_le hm0
  · rw [Nat.div_lt_iff_lt_mul (Nat.two_pow_pos _), ← hsplit]
    calc m < 2 ^ (m.log2 + 1) := Nat.lt_log2_self
      _ = 2 ^ (53 + (m.log2 - 52)) := by congr 1; omega

/-- A mantissa of at least 53 bits in the normal range rounds to a full mantissa at its target
exponent, or at the next one when rounding carries. -/
theorem roundWithAccuracy_wide (s : Sign) {m : Nat} {e : Int} (acc : Accuracy) (hm : 52 ≤ m.log2)
    (he : -1074 ≤ m.log2 + e - 52) :
    ∃ r e' h, roundWithAccuracy Format.binary64 s m e acc = finite s r e' h ∧ 2 ^ 52 ≤ r ∧ r < 2 ^ 53 ∧
      m.log2 + e - 52 ≤ e' ∧ e' ≤ m.log2 + e - 51 := by
  obtain ⟨hlo, hhi⟩ := div_two_pow_bounds hm
  have hmant : (ExtendedMantissa.ofMantissaAndAccuracy m acc >>> (m.log2 - 52)).mantissa = m / 2 ^ (m.log2 - 52) := by
    rw [shiftRight_mantissa, ofMantissaAndAccuracy_mantissa]
  obtain ⟨h₁, h₂⟩ := roundedMantissa_bounds (ExtendedMantissa.ofMantissaAndAccuracy m acc >>> (m.log2 - 52))
  rw [hmant] at h₁ h₂
  unfold roundWithAccuracy
  rw [shiftToTargetExponent_wide acc hm he]
  dsimp only
  by_cases hc : (ExtendedMantissa.ofMantissaAndAccuracy m acc >>> (m.log2 - 52)).roundedMantissa < 2 ^ 53
  · rw [shiftToTargetExponent_full (by omega) hc he]
    dsimp only
    rw [dif_neg (by omega)]
    exact ⟨_, _, _, rfl, by omega, hc, le_refl _, by omega⟩
  · have hcarry : (ExtendedMantissa.ofMantissaAndAccuracy m acc >>> (m.log2 - 52)).roundedMantissa = 2 ^ 53 := by
      omega
    rw [hcarry, shiftToTargetExponent_carry he]
    dsimp only
    rw [dif_neg (by norm_num)]
    exact ⟨_, _, _, rfl, le_refl _, by norm_num, by omega, by omega⟩


theorem log2_mul_two_pow {m : Nat} (hm : m ≠ 0) (d : Nat) : (m * 2 ^ d).log2 = m.log2 + d := by
  rw [Nat.log2_eq_iff (Nat.mul_ne_zero hm (Nat.two_pow_pos d).ne')]
  constructor
  · rw [Nat.pow_add]
    exact Nat.mul_le_mul_right _ (Nat.log2_self_le hm)
  · rw [Nat.add_right_comm, Nat.pow_add]
    exact Nat.mul_lt_mul_of_pos_right Nat.lt_log2_self (Nat.two_pow_pos d)

/-- A positive integer mantissa in the normal range rounds to a full mantissa at its target
exponent, or at the next one when rounding carries. -/
theorem round_normal (s : Sign) {m : Nat} {e : Int} (hm : m ≠ 0) (he : -1074 ≤ m.log2 + e - 52) :
    ∃ r e' h, round Format.binary64 s m e = finite s r e' h ∧ 2 ^ 52 ≤ r ∧ r < 2 ^ 53 ∧
      m.log2 + e - 52 ≤ e' ∧ e' ≤ m.log2 + e - 51 := by
  have ht : Format.binary64.targetExponent (totalExponent m e) = m.log2 + e - 52 := by
    rw [targetExponent_binary64, totalExponent]
    omega
  -- the exponent is first lowered so that the mantissa has at least 53 bits
  have hl := log2_mul_two_pow hm (e - (m.log2 + e - 52)).toNat
  simp only [round, ht, decreaseExponent, Nat.shiftLeft_eq]
  have := roundWithAccuracy_wide s (m := m * 2 ^ (e - (m.log2 + e - 52)).toNat)
    (e := e - ((e - (m.log2 + e - 52)).toNat : Int)) .exact (by omega) (by omega)
  rw [hl] at this
  obtain ⟨r, e', h, hr, h₁, h₂, h₃, h₄⟩ := this
  exact ⟨r, e', h, hr, h₁, h₂, by omega, by omega⟩


/-- A full mantissa at an exponent of the normal range survives packing and unpacking. -/
theorem unpack_pack_normal (s : Sign) {m : Nat} {e : Int} (h : 0 < m) (hlo : 2 ^ 52 ≤ m) (hhi : m < 2 ^ 53)
    (he : -1074 ≤ e) (he' : e ≤ 971) :
    unpack Format.binary64 (pack Format.binary64 (finite s m e h)) = finite s m e h := by
  have hlog : m.log2 = 52 := (Nat.log2_eq_iff (by omega)).mpr ⟨hlo, hhi⟩
  have hbias : (e + Format.binary64.exponentBias + Format.binary64.mantissaBitsWithoutImplicit).toNat =
      (e + 1075).toNat := by
    show (e + ((2 ^ (11 - 1) - 1 : Nat) : Int) + ((52 : Nat) : Int)).toNat = _
    omega
  rw [pack]
  simp only [hlog, hbias]
  rw [if_neg (by show ¬2 ^ 11 ≤ (e + 1075).toNat + 1; omega), if_pos (show 52 + 1 = Format.binary64.mantissaBits from rfl), unpack]
  simp only [unpackMantissa_packComponents, unpackExponent_packComponents, unpackSign_packComponents,
    Sign.ofBitVec_toBitVec]
  have hexp : (BitVec.ofNat 11 (e + 1075).toNat).toNat = (e + 1075).toNat := by
    rw [BitVec.toNat_ofNat]
    omega
  have hne1 : BitVec.ofNat 11 (e + 1075).toNat ≠ -1#11 := fun heq => by
    have := congrArg BitVec.toNat heq
    rw [hexp] at this
    simp at this
    omega
  have hne0 : BitVec.ofNat 11 (e + 1075).toNat ≠ 0#11 := fun heq => by
    have := congrArg BitVec.toNat heq
    rw [hexp] at this
    simp at this
    omega
  rw [if_neg hne1, if_neg hne0]
  have hmant : (1#1 ++ BitVec.ofNat 52 m).toNat = m := by
    rw [BitVec.toNat_append, ← Nat.shiftLeft_add_eq_or_of_lt (BitVec.ofNat 52 m).isLt, BitVec.toNat_ofNat,
      Nat.shiftLeft_eq]
    simp
    omega
  have hb : ((Format.binary64.exponentBias : Nat) : Int) = 1023 := rfl
  simp only [hmant, hexp, hb]
  congr 1
  omega


/-! ### Conversions -/

theorem ofUInt64_toUInt64 {n : Nat} (hn : n ≠ 0) (h : n < 2 ^ 64) :
    ofUInt64 Format.binary64 n.toUInt64 = round Format.binary64 .positive n 0 := by
  have hnat : n.toUInt64.toNat = n := by
    rw [Nat.toUInt64_eq]
    exact UInt64.toNat_ofNat_of_lt' h
  have hc : compare (n : Int) 0 = .gt := Int.compare_eq_gt.mpr (by omega)
  simp only [ofUInt64, ofNat, ofInt, normalize, hnat, hc, Int.toNat_natCast]

/-- The product of a full mantissa by one is itself again, perhaps with a carry. -/
theorem mul_one_normal {r : Nat} {e : Int} (h : 0 < r) (hlo : 2 ^ 52 ≤ r) (hhi : r < 2 ^ 53) (he : -1074 ≤ e) :
    ∃ r' e' h', mul Format.binary64 (finite .positive r e h) (finite .positive (2 ^ 52) (-52) (by norm_num)) =
      finite .positive r' e' h' ∧ 2 ^ 52 ≤ r' ∧ r' < 2 ^ 53 ∧ e ≤ e' ∧ e' ≤ e + 1 := by
  have hl : (r * 2 ^ 52).log2 = 104 := by
    rw [log2_mul_two_pow (by omega), (Nat.log2_eq_iff (by omega)).mpr ⟨hlo, hhi⟩]
  obtain ⟨r', e', h', hr, h₁, h₂, h₃, h₄⟩ := roundWithAccuracy_wide (.positive * .positive) (m := r * 2 ^ 52)
    (e := e + -52) .exact (by omega) (by omega)
  rw [hl] at h₃ h₄
  exact ⟨r', e', h', hr, h₁, h₂, by omega, by omega⟩

/-! ### Operations that give a number -/

theorem roundWithAccuracy_ne_nan (spec : Format) (s : Sign) (m : Nat) (e : Int) (acc : Accuracy) :
    roundWithAccuracy spec s m e acc ≠ notANumber := by
  unfold roundWithAccuracy
  cases shiftToTargetExponent spec m e acc with
  | mk em₁ e₁ =>
    cases shiftToTargetExponent spec em₁.roundedMantissa e₁ .exact with
    | mk em₂ e₂ =>
      dsimp only
      split <;> simp

theorem normalize_ne_nan (spec : Format) (M e : Int) (z : Sign) : normalize spec M e z ≠ notANumber := by
  unfold normalize round
  split <;> first | exact roundWithAccuracy_ne_nan _ _ _ _ _ | simp

/-- A number plus a finite value is a number: only opposite infinities add to NaN. -/
theorem add_ne_nan (spec : Format) {a b : UnpackedFloat} (ha : a ≠ notANumber) (hb : b.isFinite = true) :
    add spec a b ≠ notANumber := by
  cases b with
  | notANumber => simp [isFinite] at hb
  | infinity _ => simp [isFinite] at hb
  | zero s₂ =>
    rcases a with (_ | _) | _ | (_ | _) | ⟨(_ | _), m₁, e₁, h₁⟩ <;> cases s₂ <;>
      first | exact absurd rfl ha | simp [add]
  | finite s₂ m₂ e₂ h₂ =>
    rcases a with (_ | _) | _ | (_ | _) | ⟨(_ | _), m₁, e₁, h₁⟩ <;>
      first | exact absurd rfl ha | exact normalize_ne_nan _ _ _ _ | simp [add]

/-- The difference of two finite values is a number. -/
theorem sub_ne_nan (spec : Format) {a b : UnpackedFloat} (ha : a.isFinite = true) (hb : b.isFinite = true) :
    sub spec a b ≠ notANumber := by
  cases a with
  | zero s₁ =>
    cases b with
    | zero s₂ =>
      show (if s₁ == -s₂ then zero s₁ else zero .positive) ≠ notANumber
      split <;> simp
    | finite s₂ m₂ e₂ h₂ => simp [sub]
    | infinity s₂ => simp [isFinite] at hb
    | notANumber => simp [isFinite] at hb
  | finite s₁ m₁ e₁ h₁ =>
    cases b with
    | zero s₂ => simp [sub]
    | finite s₂ m₂ e₂ h₂ => exact normalize_ne_nan _ _ _ _
    | infinity s₂ => simp [isFinite] at hb
    | notANumber => simp [isFinite] at hb
  | infinity s₁ => simp [isFinite] at ha
  | notANumber => simp [isFinite] at ha

/-- A number times a nonzero finite value is a number. -/
theorem mul_finite_ne_nan (spec : Format) {a : UnpackedFloat} (ha : a ≠ notANumber) (s : Sign) (m : Nat) (e : Int)
    (h : 0 < m) : mul spec a (finite s m e h) ≠ notANumber := by
  rcases a with (_ | _) | _ | (_ | _) | ⟨(_ | _), m₁, e₁, h₁⟩
  all_goals first | exact absurd rfl ha | exact roundWithAccuracy_ne_nan _ _ _ _ _ | simp [mul]

/-- A number divided by a nonzero finite value is a number. -/
theorem div_finite_ne_nan (spec : Format) {a : UnpackedFloat} (ha : a ≠ notANumber) (s : Sign) (m : Nat) (e : Int)
    (h : 0 < m) : div spec a (finite s m e h) ≠ notANumber := by
  rcases a with (_ | _) | _ | (_ | _) | ⟨(_ | _), m₁, e₁, h₁⟩
  all_goals first | exact absurd rfl ha | exact roundWithAccuracy_ne_nan _ _ _ _ _ | simp [div]

end Float.Model.UnpackedFloat

namespace Float

open Float.Model

/-- The power of ten the conversion multiplies by, `10 ^ 0`, is one. -/
theorem powersOfTen_zero_unpack :
    Float.exactlyRepresentablePowersOfTen[0].toModel.unpack = .finite .positive (2 ^ 52) (-52) (by norm_num) := by
  rfl

theorem ofNat_small_unpack {n : Nat} (hn : n ≠ 0) (h : n < 2 ^ 53) :
    (Float.ofNat n).toModel.unpack = UnpackedFloat.unpack Format.binary64 (UnpackedFloat.pack Format.binary64
      (UnpackedFloat.mul Format.binary64
        (UnpackedFloat.unpack Format.binary64 (UnpackedFloat.pack Format.binary64 (UnpackedFloat.round Format.binary64 .positive n 0)))
        (.finite .positive (2 ^ 52) (-52) (by norm_num)))) := by
  unfold Float.ofNat
  show (Float.ofScientific n false 0).toModel.unpack = _
  unfold Float.ofScientific
  rw [dif_pos ⟨h, by norm_num⟩]
  show UnpackedFloat.unpack _ (UnpackedFloat.pack _ (UnpackedFloat.mul _ (UnpackedFloat.unpack _
    (UnpackedFloat.pack _ (UnpackedFloat.ofUInt64 _ n.toUInt64))) Float.exactlyRepresentablePowersOfTen[0].toModel.unpack)) = _
  rw [UnpackedFloat.ofUInt64_toUInt64 hn (by omega), powersOfTen_zero_unpack]

theorem ofNat_large_unpack {n : Nat} (hn : n ≠ 0) (h : 2 ^ 53 ≤ n) :
    (Float.ofNat n).toModel.unpack = UnpackedFloat.unpack Format.binary64 (UnpackedFloat.pack Format.binary64
      (UnpackedFloat.roundWithAccuracy Format.binary64 .positive (n * 2 ^ 53) (-53) .exact)) := by
  unfold Float.ofNat
  show (Float.ofScientific n false 0).toModel.unpack = _
  unfold Float.ofScientific
  rw [dif_neg (by omega)]
  show UnpackedFloat.unpack _ (UnpackedFloat.pack _ (UnpackedFloat.ofScientific _ n 0)) = _
  simp only [UnpackedFloat.ofScientific, hn, UnpackedFloat.mul, Nat.shiftLeft_eq]
  rw [dif_neg not_false, if_neg (by norm_num), if_neg (by omega), if_pos (le_refl _)]
  simp only [Int.toNat_zero, pow_zero, mul_one, add_zero]
  rfl

/-- A positive integer below `2 ^ 64` converts to a finite positive double with a full mantissa
and an exponent from -52 to 12. -/
theorem ofNat_unpack {n : Nat} (hn : n ≠ 0) (h : n < 2 ^ 64) :
    ∃ m e hm, (Float.ofNat n).toModel.unpack = .finite .positive m e hm ∧ 2 ^ 52 ≤ m ∧ m < 2 ^ 53 ∧
      -52 ≤ e ∧ e ≤ 12 := by
  have hl : n.log2 < 64 := (Nat.log2_lt hn).mpr h
  by_cases hs : n < 2 ^ 53
  · -- converted exactly, then multiplied by one
    have hl' : n.log2 < 53 := (Nat.log2_lt hn).mpr hs
    obtain ⟨r, e₁, h₁, hr, hr₁, hr₂, he₁, he₁'⟩ := UnpackedFloat.round_normal .positive hn (e := 0) (by omega)
    obtain ⟨r', e', h', hm, hm₁, hm₂, he', he''⟩ := UnpackedFloat.mul_one_normal (e := e₁) h₁ hr₁ hr₂ (by omega)
    rw [ofNat_small_unpack hn hs, hr, UnpackedFloat.unpack_pack_normal _ h₁ hr₁ hr₂ (by omega) (by omega), hm,
      UnpackedFloat.unpack_pack_normal _ h' hm₁ hm₂ (by omega) (by omega)]
    exact ⟨r', e', h', rfl, hm₁, hm₂, by omega, by omega⟩
  · -- rounded from the integer scaled by `2 ^ 53`
    have hl' : 53 ≤ n.log2 := (Nat.le_log2 hn).mpr (by omega)
    have hlog : (n * 2 ^ 53).log2 = n.log2 + 53 := UnpackedFloat.log2_mul_two_pow hn 53
    obtain ⟨r, e', h', hr, hr₁, hr₂, he, he'⟩ := UnpackedFloat.roundWithAccuracy_wide .positive
      (m := n * 2 ^ 53) (e := -53) .exact (by omega) (by rw [hlog]; omega)
    rw [hlog] at he he'
    rw [ofNat_large_unpack hn (by omega), hr, UnpackedFloat.unpack_pack_normal _ h' hr₁ hr₂ (by omega) (by omega)]
    exact ⟨r, e', h', rfl, hr₁, hr₂, by omega, by omega⟩

theorem isFinite_ofNat {n : Nat} (h : n < 2 ^ 64) : (Float.ofNat n).isFinite = true := by
  rcases Nat.eq_zero_or_pos n with rfl | hn
  · rfl
  · obtain ⟨m, e, hm, hu, -⟩ := ofNat_unpack hn.ne' h
    simp [Float.isFinite, Float.Model.isFinite, hu, UnpackedFloat.isFinite]

theorem isFinite_neg (x : Float) : (-x).isFinite = x.isFinite := by
  simp only [Float.isFinite, Float.Model.isFinite, unpack_neg]
  cases x.toModel.unpack <;> rfl

theorem isFinite_ofInt {p : Int} (h : p.natAbs < 2 ^ 64) : (Float.ofInt p).isFinite = true := by
  cases p with
  | ofNat n => exact isFinite_ofNat h
  | negSucc n =>
    show (-(Float.ofNat (n + 1))).isFinite = true
    rw [isFinite_neg]
    exact isFinite_ofNat h

theorem isNaN_ofNat (n : Nat) : (Float.ofNat n).isNaN = false := by
  by_cases hs : n < 2 ^ 53
  · rcases Nat.eq_zero_or_pos n with rfl | hn
    · rfl
    · obtain ⟨m, e, hm, hu, -⟩ := ofNat_unpack hn.ne' (by omega)
      simp [Float.isNaN, Float.Model.isNaN, hu, UnpackedFloat.isNaN]
  · rw [isNaN_eq_false_iff, ofNat_large_unpack (by omega) (by omega)]
    exact UnpackedFloat.unpack_pack_ne_nan (UnpackedFloat.roundWithAccuracy_ne_nan _ _ _ _ _)

theorem isNaN_add {x y : Float} (hx : x.isNaN = false) (hy : y.isFinite = true) : (x + y).isNaN = false := by
  rw [isNaN_eq_false_iff]
  exact UnpackedFloat.unpack_pack_ne_nan (UnpackedFloat.add_ne_nan _ (unpack_ne_nan hx) hy)

theorem isNaN_sub {x y : Float} (hx : x.isFinite = true) (hy : y.isFinite = true) : (x - y).isNaN = false := by
  rw [isNaN_eq_false_iff]
  exact UnpackedFloat.unpack_pack_ne_nan (UnpackedFloat.sub_ne_nan _ hx hy)

theorem isNaN_mul {x y : Float} (hx : x.isNaN = false) {s : UnpackedFloat.Sign} {m : Nat} {e : Int} {h : 0 < m}
    (hy : y.toModel.unpack = .finite s m e h) : (x * y).isNaN = false := by
  rw [isNaN_eq_false_iff]
  show UnpackedFloat.unpack _ (UnpackedFloat.pack _ (UnpackedFloat.mul _ x.toModel.unpack y.toModel.unpack)) ≠ _
  rw [hy]
  exact UnpackedFloat.unpack_pack_ne_nan (UnpackedFloat.mul_finite_ne_nan _ (unpack_ne_nan hx) s m e h)

/-- A finite double other than zero unpacks to a finite value. -/
theorem unpack_eq_finite {x : Float} (hx : x.isFinite = true) (hz : (x == 0.0) = false) :
    ∃ s m e h, x.toModel.unpack = .finite s m e h := by
  have hfin : x.toModel.unpack.isFinite = true := hx
  have hbeq : x.toModel.unpack.beq (.zero .positive) = false := hz
  cases hu : x.toModel.unpack with
  | finite s m e h => exact ⟨s, m, e, h, rfl⟩
  | zero s =>
    rw [hu] at hbeq
    cases s <;> exact absurd hbeq (by decide)
  | infinity s =>
    rw [hu] at hfin
    cases s <;> exact absurd hfin (by decide)
  | notANumber =>
    rw [hu] at hfin
    exact absurd hfin (by decide)

theorem isNaN_div {x y : Float} (hx : x.isNaN = false) {s : UnpackedFloat.Sign} {m : Nat} {e : Int} {h : 0 < m}
    (hy : y.toModel.unpack = .finite s m e h) : (x / y).isNaN = false := by
  rw [isNaN_eq_false_iff]
  show UnpackedFloat.unpack _ (UnpackedFloat.pack _ (UnpackedFloat.div _ x.toModel.unpack y.toModel.unpack)) ≠ _
  rw [hy]
  exact UnpackedFloat.unpack_pack_ne_nan (UnpackedFloat.div_finite_ne_nan _ (unpack_ne_nan hx) s m e h)

end Float
