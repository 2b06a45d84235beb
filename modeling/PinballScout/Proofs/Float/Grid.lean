import PinballScout.Proofs.Float.Normal

/-! Sums of integers on a grid. A value is on the grid of `2 ^ G` when it is a whole multiple of
    it. Rounding an exact mantissa on the grid keeps it there: above the grid every exponent is
    a multiple of it, and below it the bits that rounding drops are zero. Integers and their sums
    are therefore on the grid of `2 ^ -52`, and a sum on that grid other than zero is at least
    `2 ^ -52`, far above the subnormals, so it has a full mantissa. A running sum of integers
    below `2 ^ 64` in size is thus zero or a full mantissa at an exponent from -104 to 68, and
    its quotient by a count below `2 ^ 64` one at an exponent from -169 to 69. -/

namespace Float.Model.UnpackedFloat

/-! ### Rounding on a grid -/

/-- Zero, or a finite value that is a whole multiple of `2 ^ G`. -/
def OnGrid (G : Int) : UnpackedFloat → Prop
  | zero _ => True
  | finite _ m e _ => 2 ^ (G - e).toNat ∣ m
  | _ => False

/-- Shifting an exact mantissa right by `k` bits that are all zero loses nothing. -/
theorem shiftRight_of_dvd {N : Nat} : ∀ {k : Nat}, 2 ^ k ∣ N →
    (⟨N, false, false⟩ : ExtendedMantissa) >>> k = ⟨N / 2 ^ k, false, false⟩
  | 0, _ => by simp [HShiftRight.hShiftRight, Nat.repeat]
  | k + 1, h => by
    obtain ⟨c, rfl⟩ := h
    have hk : 2 ^ (k + 1) = 2 ^ k * 2 := Nat.pow_succ 2 k
    rw [shiftRight_exact]
    simp [hk, Nat.mul_assoc, Nat.mul_div_cancel_left _ (Nat.two_pow_pos k), Nat.mul_mod_right]

theorem roundedMantissa_exact (N : Nat) : (⟨N, false, false⟩ : ExtendedMantissa).roundedMantissa = N := rfl

/-- Rounding an exact mantissa on the grid of `2 ^ G` gives a value on that grid: above the grid
every exponent is a multiple of it, and below it the dropped bits are zero. -/
theorem roundWithAccuracy_onGrid (s : Sign) {m : Nat} {e G : Int} (h : 2 ^ (G - e).toNat ∣ m) :
    (roundWithAccuracy Format.binary64 s m e .exact).OnGrid G := by
  have hexact : ExtendedMantissa.ofMantissaAndAccuracy m .exact = ⟨m, false, false⟩ := rfl
  obtain ⟨hlt, -⟩ := shiftToTargetExponent_bounds m e .exact
  rw [roundWithAccuracy_eq]
  rw [shiftToTargetExponent_binary64, hexact] at hlt ⊢
  dsimp only at hlt ⊢
  by_cases hGE : G ≤ max e (max (↑m.log2 + e - 52) (-1074))
  · -- every exponent from the grid's up is a multiple of it
    have h0 : (G - max e (max (↑m.log2 + e - 52) (-1074))).toNat = 0 := by omega
    have h1 : (G - (max e (max (↑m.log2 + e - 52) (-1074)) + 1)).toNat = 0 := by omega
    split_ifs <;> simp [OnGrid, h0, h1]
  · -- below the grid the shift drops only zero bits
    have hkdvd : 2 ^ (max (↑m.log2 + e - 52) (-1074) - e).toNat ∣ m :=
      (Nat.pow_dvd_pow 2 (by omega)).trans h
    rw [shiftRight_of_dvd hkdvd] at hlt ⊢
    rw [roundedMantissa_exact]
    dsimp only at hlt
    split_ifs
    · trivial
    · show 2 ^ (G - max e (max (↑m.log2 + e - 52) (-1074))).toNat ∣ m / 2 ^ (max (↑m.log2 + e - 52) (-1074) - e).toNat
      refine Nat.dvd_div_of_mul_dvd ?_
      rw [← Nat.pow_add]
      exact (Nat.pow_dvd_pow 2 (by omega)).trans h

/-- A mantissa on a grid, shifted to a lower exponent, is on the grid at that exponent. -/
theorem dvd_aligned {m : Nat} {d μ G : Int} (h : 2 ^ (G - d).toNat ∣ m) (hμ : μ ≤ d) :
    2 ^ (G - μ).toNat ∣ m * 2 ^ (d - μ).toNat := by
  refine (Nat.pow_dvd_pow 2 (by omega)).trans (?_ : 2 ^ ((G - d).toNat + (d - μ).toNat) ∣ _)
  rw [Nat.pow_add]
  exact Nat.mul_dvd_mul_right h _

theorem round_onGrid (s : Sign) {m : Nat} {e G : Int} (h : 2 ^ (G - e).toNat ∣ m) :
    (round Format.binary64 s m e).OnGrid G := by
  simp only [round, decreaseExponent, Nat.shiftLeft_eq]
  apply roundWithAccuracy_onGrid
  -- lowering the exponent appends as many zero bits
  generalize (e - Format.binary64.targetExponent (totalExponent m e)).toNat = d
  have hd := dvd_aligned h (show e - (d : Int) ≤ e by omega)
  rwa [show (e - (e - (d : Int))).toNat = d by omega] at hd

theorem normalize_onGrid {M e G : Int} (h : 2 ^ (G - e).toNat ∣ M.natAbs) (z : Sign) :
    (normalize Format.binary64 M e z).OnGrid G := by
  unfold normalize
  split
  next hlt =>
    have hM : (-M).toNat = M.natAbs := by
      have := Int.compare_eq_lt.mp hlt
      omega
    rw [hM]
    exact round_onGrid _ h
  next => trivial
  next hgt =>
    have hM : M.toNat = M.natAbs := by
      have := Int.compare_eq_gt.mp hgt
      omega
    rw [hM]
    exact round_onGrid _ h

theorem dvd_apply {k A : Nat} (s : Sign) (h : 2 ^ k ∣ A) : ((2 ^ k : Nat) : Int) ∣ s.apply (A : Int) := by
  cases s
  · exact (Int.natCast_dvd_natCast.mpr h).neg_right
  · exact Int.natCast_dvd_natCast.mpr h

/-- Aligned to the smaller exponent, the exact sum of two finite values on a grid is on it. -/
theorem aligned_sum_dvd {s₁ s₂ : Sign} {m₁ m₂ : Nat} {e₁ e₂ G : Int} {h₁ : 0 < m₁} {h₂ : 0 < m₂}
    (ha : (finite s₁ m₁ e₁ h₁).OnGrid G) (hb : (finite s₂ m₂ e₂ h₂).OnGrid G) :
    2 ^ (G - min e₁ e₂).toNat ∣ (s₁.apply ↑(m₁ * 2 ^ (e₁ - min e₁ e₂).toNat) +
      s₂.apply ↑(m₂ * 2 ^ (e₂ - min e₁ e₂).toNat)).natAbs :=
  Int.natCast_dvd.mp (dvd_add (dvd_apply s₁ (dvd_aligned ha (min_le_left _ _)))
    (dvd_apply s₂ (dvd_aligned hb (min_le_right _ _))))

/-- Sums of values on a grid stay on it: the exact sum is, and rounding keeps it there. -/
theorem add_onGrid {a b : UnpackedFloat} {G : Int} (ha : a.OnGrid G) (hb : b.OnGrid G) :
    (add Format.binary64 a b).OnGrid G := by
  cases a with
  | zero s₁ =>
    cases b with
    | zero s₂ =>
      show (if s₁ == s₂ then zero s₁ else zero .positive).OnGrid G
      split <;> trivial
    | finite s₂ m₂ e₂ h₂ => exact hb
    | infinity s₂ => exact False.elim hb
    | notANumber => exact False.elim hb
  | finite s₁ m₁ e₁ h₁ =>
    cases b with
    | zero s₂ => exact ha
    | finite s₂ m₂ e₂ h₂ =>
      rw [add_finite]
      exact normalize_onGrid (aligned_sum_dvd ha hb) _
    | infinity s₂ => exact False.elim hb
    | notANumber => exact False.elim hb
  | infinity s₁ => exact False.elim ha
  | notANumber => exact False.elim ha

/-! ### Full mantissas on a grid -/

/-- A nonzero multiple of `2 ^ (G - e)` has its leading bit at `G - e` or above. -/
theorem le_log2_of_dvd {N : Nat} {e G : Int} (hN : N ≠ 0) (h : 2 ^ (G - e).toNat ∣ N) : G ≤ N.log2 + e := by
  have hle : 2 ^ (G - e).toNat ≤ N := Nat.le_of_dvd (Nat.pos_of_ne_zero hN) h
  have := (Nat.le_log2 hN).mpr hle
  omega

theorem Ranged.onGrid {u : UnpackedFloat} {L E G : Int} (h : u.Ranged L E) (hG : G ≤ L) : u.OnGrid G := by
  cases u with
  | zero s => trivial
  | finite s m e hm =>
    have hk : (G - e).toNat = 0 := by have := h.2.2.1; omega
    show 2 ^ (G - e).toNat ∣ m
    rw [hk, Nat.pow_zero]
    exact Nat.one_dvd m
  | infinity s => exact False.elim h
  | notANumber => exact False.elim h

/-- A full mantissa on a grid stands at most 52 places below it. -/
theorem ranged_of_full {s : Sign} {m : Nat} {e G E : Int} {h : 0 < m} (hm : 2 ^ 52 ≤ m) (hm' : m < 2 ^ 53)
    (hg : (finite s m e h).OnGrid G) (hw : (finite s m e h).Within E) : (finite s m e h).Ranged (G - 52) E := by
  have hlog := le_log2_of_dvd h.ne' hg
  rw [log2_eq_of_full hm hm'] at hlog
  exact ⟨hm, hm', by omega, hw.2⟩

/-- A canonical value on a grid of the normal range has a full mantissa. -/
theorem ranged_of_onGrid {u : UnpackedFloat} {G E : Int} (hc : u.Canonical) (hg : u.OnGrid G) (hw : u.Within E)
    (hG : -1022 ≤ G) : u.Ranged (G - 52) E := by
  cases u with
  | zero s => trivial
  | finite s m e hm =>
    obtain ⟨hm₁, -, hfull⟩ := hc
    have hlog := le_log2_of_dvd hm.ne' hg
    -- a subnormal mantissa is too short to reach the grid
    have hm₂ : 2 ^ 52 ≤ m := hfull.elim id fun he => (Nat.le_log2 hm.ne').mp (by omega)
    exact ranged_of_full hm₂ hm₁ hg hw
  | infinity s => exact False.elim hg
  | notANumber => exact False.elim hg

/-- The sum of two values on a grid of the normal range, when it does not overflow, has a full
mantissa: its exact value is a nonzero multiple of the grid, so it rounds above the subnormals. -/
theorem add_ranged {a b : UnpackedFloat} {G L E L' E' E'' : Int} (ha : a.Ranged L E) (hb : b.Ranged L' E')
    (hga : a.OnGrid G) (hgb : b.OnGrid G) (hG : -1022 ≤ G) (hw : (add Format.binary64 a b).Within E'') :
    (add Format.binary64 a b).Ranged (G - 52) E'' := by
  cases a with
  | zero s₁ =>
    cases b with
    | zero s₂ =>
      show (if s₁ == s₂ then zero s₁ else zero .positive).Ranged _ _
      split <;> trivial
    | finite s₂ m₂ e₂ h₂ => exact ranged_of_full hb.1 hb.2.1 hgb hw
    | infinity s₂ => exact False.elim hb
    | notANumber => exact False.elim hb
  | finite s₁ m₁ e₁ h₁ =>
    cases b with
    | zero s₂ => exact ranged_of_full ha.1 ha.2.1 hga hw
    | finite s₂ m₂ e₂ h₂ =>
      rw [add_finite] at hw ⊢
      have hdvd := aligned_sum_dvd hga hgb
      by_cases hM : s₁.apply ↑(m₁ * 2 ^ (e₁ - min e₁ e₂).toNat) + s₂.apply ↑(m₂ * 2 ^ (e₂ - min e₁ e₂).toNat) = 0
      · rw [hM]
        trivial
      · have hlog := le_log2_of_dvd (Int.natAbs_ne_zero.mpr hM) hdvd
        obtain ⟨s, r, e, h, hr, -, hr₁, hr₂, he, -⟩ := normalize_ranged hM (e := min e₁ e₂) (by omega) .positive
        rw [hr] at hw ⊢
        exact ⟨hr₁, hr₂, by omega, hw.2⟩
    | infinity s₂ => exact False.elim hb
    | notANumber => exact False.elim hb
  | infinity s₁ => exact False.elim ha
  | notANumber => exact False.elim ha

end Float.Model.UnpackedFloat

namespace Float

open Float.Model UnpackedFloat

/-! ### Running sums of integers -/

/-- An integer below `2 ^ 64` in size converts to zero or a full mantissa at an exponent from -52
to 12. -/
theorem ofInt_ranged {p : Int} (h : p.natAbs < 2 ^ 64) : (Float.ofInt p).toModel.unpack.Ranged (-52) 12 := by
  have hnat : ∀ n : Nat, n < 2 ^ 64 → (Float.ofNat n).toModel.unpack.Ranged (-52) 12 := fun n hn => by
    rcases Nat.eq_zero_or_pos n with rfl | hpos
    · show (UnpackedFloat.zero .positive).Ranged (-52) 12
      trivial
    · obtain ⟨m, e, hm, hu, hm₁, hm₂, he, he'⟩ := ofNat_unpack hpos.ne' hn
      rw [hu]
      exact ⟨hm₁, hm₂, he, he'⟩
  cases p with
  | ofNat n => exact hnat n h
  | negSucc n =>
    show (-(Float.ofNat (n + 1))).toModel.unpack.Ranged (-52) 12
    rw [unpack_neg]
    exact (hnat (n + 1) h).neg

/-- Adding an integer below `2 ^ 64` to a running sum on the grid of units `2 ^ -52` stays on it:
the exact sum is on the grid, and is not rounded. -/
theorem add_ofInt_onGrid {x : Float} (hx : x.toModel.unpack.Within 68) (hg : x.toModel.unpack.OnGrid (-52)) {p : Int}
    (hp : p.natAbs < 2 ^ 64) : (x + Float.ofInt p).toModel.unpack.OnGrid (-52) := by
  have hw := add_within_of_absorb (E := 66) hx (canonical_unpack _) (ofInt_within hp) (canonical_unpack _) (by norm_num)
  have hb := ofInt_ranged hp
  have hr := add_ranged (ranged_of_onGrid (canonical_unpack _) hg hx (by norm_num)) hb hg (hb.onGrid le_rfl)
    (by norm_num) hw
  rw [unpack_add, unpack_pack_ranged hr (by norm_num) (by norm_num)]
  exact add_onGrid hg (hb.onGrid le_rfl)

theorem foldl_add_ofInt_onGrid {α : Type} (f : α → Int) :
    ∀ (l : List α) {x : Float}, (∀ a ∈ l, (f a).natAbs < 2 ^ 64) → x.toModel.unpack.Within 68 →
      x.toModel.unpack.OnGrid (-52) → (l.foldl (fun acc a => acc + Float.ofInt (f a)) x).toModel.unpack.OnGrid (-52)
  | [], _, _, _, hg => hg
  | a :: l, _, hl, hx, hg => by
    rw [List.foldl_cons]
    have ha := hl a List.mem_cons_self
    exact foldl_add_ofInt_onGrid f l (fun b hb => hl b (List.mem_cons_of_mem a hb)) (add_ofInt_within hx ha)
      (add_ofInt_onGrid hx hg ha)

/-- A running sum from zero of integers below `2 ^ 64` in size is zero or has a full mantissa at an
exponent from -104 to 68. -/
theorem sum_ofInt_ranged {α : Type} (f : α → Int) {l : List α} (hl : ∀ a ∈ l, (f a).natAbs < 2 ^ 64) :
    (l.foldl (fun acc a => acc + Float.ofInt (f a)) 0.0).toModel.unpack.Ranged (-104) 68 := by
  have hzero : (0.0 : Float).toModel.unpack = .zero .positive := rfl
  have hw := foldl_add_ofInt_within f l hl (by rw [hzero]; trivial)
  have hg := foldl_add_ofInt_onGrid f l hl (by rw [hzero]; trivial) (by rw [hzero]; trivial)
  exact ranged_of_onGrid (canonical_unpack _) hg hw (by norm_num)

/-- Such a sum divided by a positive count below `2 ^ 64` is zero or has a full mantissa at an
exponent from -169 to 69. -/
theorem div_ofNat_ranged {x : Float} (hx : x.toModel.unpack.Ranged (-104) 68) {n : Nat} (hn : n ≠ 0) (h : n < 2 ^ 64) :
    (x / Float.ofNat n).toModel.unpack.Ranged (-169) 69 := by
  obtain ⟨m, e, hm, hu, hm₁, hm₂, he, he'⟩ := ofNat_unpack hn h
  cases hxu : x.toModel.unpack with
  | zero s =>
    have hdiv : UnpackedFloat.div Format.binary64 (.zero s) (.finite .positive m e hm) = .zero (s / .positive) := rfl
    rw [unpack_div, hxu, hu, hdiv, unpack_pack_zero]
    trivial
  | finite s m' e' h' =>
    rw [hxu] at hx
    obtain ⟨r, e'', h'', hd, hr⟩ := div_ranged hxu hu hx ⟨hm₁, hm₂, he, he'⟩ (by norm_num) (by norm_num)
    rw [hd]
    exact hr.mono (by norm_num) (by norm_num)
  | infinity s =>
    rw [hxu] at hx
    exact False.elim hx
  | notANumber =>
    rw [hxu] at hx
    exact False.elim hx

end Float
