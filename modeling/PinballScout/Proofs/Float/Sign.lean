import PinballScout.Proofs.Float.Order

/-! Negation of doubles. Negating flips the sign bit and nothing else, so it commutes with
    packing and unpacking; a NaN stays the one NaN. Rounding never looks at the sign, so a
    quotient or a product with a negated operand is the negated result. A difference taken the
    other way round is the negated difference whenever the two operands are not equal: unpacked
    doubles are canonical, so two of them that differ are different numbers and their exact
    difference is not zero. -/

namespace Float.Model.UnpackedFloat

theorem Sign.neg_neg' (s : Sign) : -(-s) = s := by
  cases s <;> rfl

theorem Sign.neg_div' (s₁ s₂ : Sign) : -s₁ / s₂ = -(s₁ / s₂) := by
  cases s₁ <;> cases s₂ <;> rfl

theorem Sign.neg_mul' (s₁ s₂ : Sign) : -s₁ * s₂ = -(s₁ * s₂) := by
  cases s₁ <;> cases s₂ <;> rfl

theorem isNaN_neg (a : UnpackedFloat) : a.neg.isNaN = a.isNaN := by
  cases a <;> rfl

/-! ### Packing -/

/-- The same bits with the sign bit flipped. -/
def flipSign (b : BitVec Format.binary64.numBits) : BitVec Format.binary64.numBits :=
  packComponents Format.binary64 (-Sign.ofBitVec (unpackSign b)) (unpackExponent b) (unpackMantissa b)

theorem pack_neg {u : UnpackedFloat} (hu : u ≠ notANumber) :
    pack Format.binary64 u.neg = flipSign (pack Format.binary64 u) := by
  cases u with
  | notANumber => exact absurd rfl hu
  | infinity s => simp [neg, pack, flipSign, packedInfinity]
  | zero s => simp [neg, pack, flipSign, packedZero]
  | finite s m e hm =>
    -- every branch of packing reads the mantissa and exponent only
    simp only [neg, pack]
    split_ifs <;> simp [flipSign, packedInfinity]

theorem unpack_flipSign (b : BitVec Format.binary64.numBits) :
    unpack Format.binary64 (flipSign b) = (unpack Format.binary64 b).neg := by
  simp only [unpack, flipSign, unpackMantissa_packComponents, unpackExponent_packComponents,
    unpackSign_packComponents, Sign.ofBitVec_toBitVec]
  split_ifs <;> simp [neg]

/-- Only NaN packs to the NaN pattern. -/
theorem pack_ne_packedNaN {u : UnpackedFloat} (hu : u ≠ notANumber) :
    pack Format.binary64 u ≠ packedNaN Format.binary64 := by
  intro h
  -- Negating `u` would flip the sign of the NaN pattern, which no valid packing has.
  have hvalid : Format.binary64.Valid (pack Format.binary64 u.neg) := valid_pack
  rw [pack_neg hu, h] at hvalid
  have hnan := hvalid.eq_packedNaN (by simp [flipSign, packedNaN]) (by simp [flipSign, packedNaN])
  have hsign := congrArg unpackSign hnan
  simp only [flipSign, packedNaN, unpackSign_packComponents] at hsign
  exact absurd hsign (by decide)

theorem unpack_pack_ne_nan {u : UnpackedFloat} (hu : u ≠ notANumber) :
    unpack Format.binary64 (pack Format.binary64 u) ≠ notANumber := by
  rw [Ne, unpack_eq_notANumber_iff_of_valid valid_pack]
  exact pack_ne_packedNaN hu

/-! ### Rounding -/

theorem roundWithAccuracy_neg (spec : Format) (s : Sign) (m : Nat) (e : Int) (acc : Accuracy) :
    roundWithAccuracy spec (-s) m e acc = (roundWithAccuracy spec s m e acc).neg := by
  unfold roundWithAccuracy
  cases shiftToTargetExponent spec m e acc with
  | mk em₁ e₁ =>
    cases shiftToTargetExponent spec em₁.roundedMantissa e₁ .exact with
    | mk em₂ e₂ =>
      dsimp only
      split <;> rfl

theorem round_neg (spec : Format) (s : Sign) (m : Nat) (e : Int) :
    round spec (-s) m e = (round spec s m e).neg := by
  simp only [round]
  exact roundWithAccuracy_neg _ _ _ _ _

/-- A nonzero mantissa normalizes to the negation of its opposite. -/
theorem normalize_neg (spec : Format) {M : Int} (hM : M ≠ 0) (e : Int) (z z' : Sign) :
    normalize spec (-M) e z = (normalize spec M e z').neg := by
  rcases lt_or_gt_of_ne hM with h | h
  · have hpos : compare (-M) 0 = .gt := Int.compare_eq_gt.mpr (by omega)
    have hneg : compare M 0 = .lt := Int.compare_eq_lt.mpr h
    simp only [normalize, hpos, hneg, ← round_neg]
    rfl
  · have hpos : compare M 0 = .gt := Int.compare_eq_gt.mpr h
    have hneg : compare (-M) 0 = .lt := Int.compare_eq_lt.mpr (by omega)
    simp only [normalize, hpos, hneg, ← round_neg, neg_neg]
    rfl

theorem div_neg_left (spec : Format) (a b : UnpackedFloat) : div spec a.neg b = (div spec a b).neg := by
  rcases a with (_ | _) | _ | (_ | _) | ⟨(_ | _), m₁, e₁, h₁⟩ <;>
    rcases b with (_ | _) | _ | (_ | _) | ⟨(_ | _), m₂, e₂, h₂⟩ <;>
    first | rfl | simp only [div, neg, Sign.neg_div', roundWithAccuracy_neg]

theorem mul_neg_left (spec : Format) (a b : UnpackedFloat) : mul spec a.neg b = (mul spec a b).neg := by
  rcases a with (_ | _) | _ | (_ | _) | ⟨(_ | _), m₁, e₁, h₁⟩ <;>
    rcases b with (_ | _) | _ | (_ | _) | ⟨(_ | _), m₂, e₂, h₂⟩ <;>
    first | rfl | simp only [mul, neg, Sign.neg_mul', roundWithAccuracy_neg]

/-! ### Canonical values and subtraction -/

/-- The shape of an unpacked double: a finite value has a mantissa of at most 53 bits, an
exponent no lower than that of the subnormals, and a full mantissa unless it is subnormal. -/
def Canonical : UnpackedFloat → Prop
  | .finite _ m e _ => m < 2 ^ 53 ∧ -1074 ≤ e ∧ (2 ^ 52 ≤ m ∨ e = -1074)
  | _ => True

theorem unpack_canonical (b : BitVec Format.binary64.numBits) : (unpack Format.binary64 b).Canonical := by
  have hm := (unpackMantissa b).isLt
  simp only [unpack]
  split_ifs with h₁ h₂ h₃ h₄
  all_goals try trivial
  · -- subnormal: the exponent field is zero
    have h0 : (unpackExponent b).toNat = 0 := by rw [h₃]; rfl
    have hb : (Format.binary64.exponentBias : Int) = 1023 := rfl
    simp only [Canonical, h0, hb]
    change (unpackMantissa b).toNat < 2 ^ 52 at hm
    omega
  · -- normal: the implicit bit is set
    have hpos : (unpackExponent b).toNat ≠ 0 := fun h => h₃ (BitVec.eq_of_toNat_eq h)
    change (unpackMantissa b).toNat < 2 ^ 52 at hm
    have hv : (1#1 ++ unpackMantissa b).toNat = 2 ^ 52 + (unpackMantissa b).toNat := by
      rw [BitVec.toNat_append, ← Nat.shiftLeft_add_eq_or_of_lt hm]
      rfl
    have hb : (Format.binary64.exponentBias : Int) = 1023 := rfl
    simp only [Canonical, hv, hb]
    omega

/-- Two canonical finite values agree once aligned to the smaller exponent only when they have
the same sign, mantissa and exponent. -/
theorem aligned_eq_of_canonical {s₁ s₂ : Sign} {m₁ m₂ : Nat} {e₁ e₂ : Int} {h₁ : 0 < m₁} {h₂ : 0 < m₂}
    (ha : (finite s₁ m₁ e₁ h₁).Canonical) (hb : (finite s₂ m₂ e₂ h₂).Canonical)
    (h : s₁.apply ((decreaseExponent m₁ e₁ (min e₁ e₂)).1 : Int) =
      s₂.apply ((decreaseExponent m₂ e₂ (min e₁ e₂)).1 : Int)) :
    s₁ = s₂ ∧ m₁ = m₂ ∧ e₁ = e₂ := by
  simp only [Canonical] at ha hb
  simp only [decreaseExponent, Nat.shiftLeft_eq] at h
  -- a shifted full mantissa has at least 54 bits, more than any canonical mantissa
  have big : ∀ {m : Nat} {k : Nat}, 2 ^ 52 ≤ m → k ≠ 0 → 2 ^ 53 ≤ m * 2 ^ k := fun hm hk => by
    have := Nat.mul_le_mul hm (Nat.le_self_pow hk 2)
    omega
  have hp₁ : (0 : Int) < m₁ * 2 ^ (e₁ - min e₁ e₂).toNat := by positivity
  have hp₂ : (0 : Int) < m₂ * 2 ^ (e₂ - min e₁ e₂).toNat := by positivity
  have hs : s₁ = s₂ := by
    cases s₁ <;> cases s₂ <;> simp [Sign.apply] at h ⊢ <;> omega
  subst hs
  have hm : m₁ * 2 ^ (e₁ - min e₁ e₂).toNat = m₂ * 2 ^ (e₂ - min e₁ e₂).toNat := by
    cases s₁ <;> simp [Sign.apply] at h <;> exact_mod_cast h
  rcases le_total e₁ e₂ with he | he
  · have hk : (e₁ - min e₁ e₂).toNat = 0 := by omega
    by_cases hk' : (e₂ - min e₁ e₂).toNat = 0
    · simp only [hk, hk', pow_zero, mul_one] at hm
      exact ⟨rfl, hm, by omega⟩
    · have := big (hb.2.2.resolve_right (by omega)) hk'
      simp only [hk, pow_zero, mul_one] at hm
      omega
  · have hk : (e₂ - min e₁ e₂).toNat = 0 := by omega
    by_cases hk' : (e₁ - min e₁ e₂).toNat = 0
    · simp only [hk, hk', pow_zero, mul_one] at hm
      exact ⟨rfl, hm, by omega⟩
    · have := big (ha.2.2.resolve_right (by omega)) hk'
      simp only [hk, pow_zero, mul_one] at hm
      omega

/-- Subtraction the other way round is the negated difference for canonical values that are not
equal; equal values subtract to positive zero both ways. -/
theorem sub_swap {a b : UnpackedFloat} (ha : a.Canonical) (hb : b.Canonical) (hna : a ≠ notANumber)
    (hnb : b ≠ notANumber) (hab : a.beq b = false) :
    sub Format.binary64 b a = (sub Format.binary64 a b).neg := by
  rcases a with s₁ | _ | s₁ | ⟨s₁, m₁, e₁, h₁⟩ <;> rcases b with s₂ | _ | s₂ | ⟨s₂, m₂, e₂, h₂⟩
  all_goals first | exact absurd rfl hna | exact absurd rfl hnb | skip
  case finite.finite =>
    show normalize _ (s₂.apply (decreaseExponent m₂ e₂ (min e₂ e₁)).1 -
        s₁.apply (decreaseExponent m₁ e₁ (min e₂ e₁)).1) (min e₂ e₁) .positive =
      (normalize _ (s₁.apply (decreaseExponent m₁ e₁ (min e₁ e₂)).1 -
        s₂.apply (decreaseExponent m₂ e₂ (min e₁ e₂)).1) (min e₁ e₂) .positive).neg
    have hM : s₁.apply ((decreaseExponent m₁ e₁ (min e₁ e₂)).1 : Int) -
        s₂.apply ((decreaseExponent m₂ e₂ (min e₁ e₂)).1 : Int) ≠ 0 := by
      intro h
      obtain ⟨rfl, rfl, rfl⟩ := aligned_eq_of_canonical ha hb (by omega)
      rw [(beq_iff_rank hna hna).mpr rfl] at hab
      exact Bool.noConfusion hab
    rw [min_comm e₂ e₁, ← normalize_neg _ hM, neg_sub]
  -- the remaining cases involve an infinity or a zero and are read off directly
  all_goals cases s₁ <;> cases s₂ <;> first | rfl | simp_all [UnpackedFloat.beq, UnpackedFloat.compare]

end Float.Model.UnpackedFloat

namespace Float.Model

open UnpackedFloat

/-- Negating a packed value packs the negated value. -/
theorem neg_pack (u : UnpackedFloat) : (pack u).neg = pack u.neg := by
  have key : UnpackedFloat.pack Format.binary64
      (UnpackedFloat.unpack Format.binary64 (UnpackedFloat.pack Format.binary64 u)).neg =
      UnpackedFloat.pack Format.binary64 u.neg := by
    by_cases hu : u = notANumber
    · subst hu
      simp [UnpackedFloat.neg, UnpackedFloat.pack]
    · rw [pack_neg (unpack_pack_ne_nan hu), pack_unpack_of_valid valid_pack, pack_neg hu]
  simp only [Float.Model.neg, Float.Model.pack, Float.Model.unpack, UInt64.toBitVec_ofBitVec, key]

theorem canonical_unpack (a : Float.Model) : a.unpack.Canonical :=
  unpack_canonical _

/-- Negation flips the sign of the unpacked value, and leaves NaN alone. -/
theorem unpack_neg (a : Float.Model) : a.neg.unpack = a.unpack.neg := by
  simp only [Float.Model.neg, Float.Model.pack, Float.Model.unpack, UInt64.toBitVec_ofBitVec]
  by_cases ha : UnpackedFloat.unpack Format.binary64 a.toBits.toBitVec = .notANumber
  · rw [ha]
    simp [UnpackedFloat.neg, UnpackedFloat.pack]
  · rw [pack_neg ha, pack_unpack_of_valid a.valid, unpack_flipSign]

end Float.Model

namespace Float

open Float.Model

theorem neg_ofModel_pack (u : UnpackedFloat) : -(Float.ofModel (pack u)) = Float.ofModel (pack u.neg) := by
  show Float.ofModel (pack u).neg = _
  rw [neg_pack]

theorem unpack_neg (x : Float) : (-x).toModel.unpack = x.toModel.unpack.neg :=
  Float.Model.unpack_neg x.toModel

/-- Doubles are equal when they unpack alike. -/
theorem eq_of_unpack_eq {x y : Float} (h : x.toModel.unpack = y.toModel.unpack) : x = y := by
  rcases x with ⟨⟨⟨bx⟩, hx⟩⟩
  rcases y with ⟨⟨⟨by'⟩, hy⟩⟩
  have := (UnpackedFloat.unpack_inj_of_valid hx hy).mp h
  subst this
  rfl

theorem neg_neg (x : Float) : -(-x) = x :=
  eq_of_unpack_eq (by rw [unpack_neg, unpack_neg]; cases x.toModel.unpack <;> simp [UnpackedFloat.neg, UnpackedFloat.Sign.neg_neg'])

theorem isNaN_neg (x : Float) : (-x).isNaN = x.isNaN := by
  simp only [Float.isNaN, Float.Model.isNaN]
  rw [Float.unpack_neg, UnpackedFloat.isNaN_neg]

theorem neg_div_left (x y : Float) : -x / y = -(x / y) := by
  show Float.ofModel (pack (UnpackedFloat.div _ (-x).toModel.unpack y.toModel.unpack)) =
    -(Float.ofModel (pack (UnpackedFloat.div _ x.toModel.unpack y.toModel.unpack)))
  rw [unpack_neg, UnpackedFloat.div_neg_left, neg_ofModel_pack]

theorem neg_mul_left (x y : Float) : -x * y = -(x * y) := by
  show Float.ofModel (pack (UnpackedFloat.mul _ (-x).toModel.unpack y.toModel.unpack)) =
    -(Float.ofModel (pack (UnpackedFloat.mul _ x.toModel.unpack y.toModel.unpack)))
  rw [unpack_neg, UnpackedFloat.mul_neg_left, neg_ofModel_pack]

/-- The difference of two doubles that are not equal, taken the other way round, is negated. -/
theorem sub_swap {x y : Float} (hx : x.isNaN = false) (hy : y.isNaN = false) (h : (x == y) = false) :
    y - x = -(x - y) := by
  show Float.ofModel (pack (UnpackedFloat.sub _ y.toModel.unpack x.toModel.unpack)) =
    -(Float.ofModel (pack (UnpackedFloat.sub _ x.toModel.unpack y.toModel.unpack)))
  rw [neg_ofModel_pack, UnpackedFloat.sub_swap x.toModel.canonical_unpack y.toModel.canonical_unpack
    (unpack_ne_nan hx) (unpack_ne_nan hy) h]

/-- Negation reverses the order. -/
theorem neg_lt_neg_iff {x y : Float} : -x < -y ↔ y < x := by
  cases hx : x.isNaN with
  | true => exact iff_of_false (not_lt_of_isNaN_left (by rwa [isNaN_neg])) (not_lt_of_isNaN_right hx)
  | false =>
    cases hy : y.isNaN with
    | true => exact iff_of_false (not_lt_of_isNaN_right (by rwa [isNaN_neg])) (not_lt_of_isNaN_left hy)
    | false =>
      rw [lt_iff_rank (by rwa [isNaN_neg]) (by rwa [isNaN_neg]), lt_iff_rank hy hx]
      unfold rank
      rw [unpack_neg, unpack_neg]
      exact UnpackedFloat.rank_neg_lt_iff

end Float
