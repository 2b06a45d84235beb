import PinballScout.Proofs.MatchupRows

/-! Nearest-rank percentiles. For `n` scores the median's rank is `(n + 1) / 2` and the ninetieth
    percentile's `9 (n + 1) / 10`, both rounded down; for every `n ≥ 1` these already lie in
    `1 … n`, so the clamp of `Percentile.rank` never moves them. On 64-bit counts the product
    `num · (n + 1)` can pass the word bound: below it `Percentile.wordRank` is the exact rank, past
    it the arithmetic overflows. The score at a rank of the sorted
    scores is the score with fewer smaller scores than the rank and at least as many not larger,
    so an aggregate is fixed by the multiset of its scores, and its two percentiles lie between the
    smallest and the largest score, the median below the ninetieth percentile. -/

namespace PinballScout

/-! ### Ranks -/

theorem Percentile.rank_of_pos (p : Percentile) {n : Nat} (hn : 0 < n) :
    p.rank n = some (p.ratio.1 * (n + 1) / p.ratio.2) := by
  cases p <;> simp only [Percentile.rank, Percentile.ratio, Nat.pos_iff_ne_zero.mp hn, ↓reduceIte,
    Option.some.injEq] <;> omega

theorem Percentile.rank_bounds {p : Percentile} {n r : Nat} (h : p.rank n = some r) : 1 ≤ r ∧ r ≤ n := by
  unfold Percentile.rank at h
  split at h
  · cases h
  · cases h
    omega

/-! ### Ranks on 64-bit counts -/

theorem Word.checked_of_lt {operation : String} {v : Nat} (h : v < wordLimit) :
    Word.checked operation v = .ok v := if_pos h

theorem Word.checked_of_le {operation : String} {v : Nat} (h : wordLimit ≤ v) :
    Word.checked operation v = .error ("attempt to " ++ operation ++ " with overflow") :=
  if_neg (Nat.not_lt.mpr h)

theorem Percentile.one_le_num (p : Percentile) : 1 ≤ p.ratio.1 := by
  cases p <;> decide

/-- While the product fits in a word, so does `n + 1`, and the word computation is the exact one. -/
theorem Percentile.wordRank_of_fits (p : Percentile) {n : Nat} (h : p.ratio.1 * (n + 1) < wordLimit) :
    p.wordRank n = .ok (p.rank n) := by
  have hsucc : n + 1 < wordLimit := lt_of_le_of_lt (Nat.le_mul_of_pos_left _ p.one_le_num) h
  by_cases hn : n = 0
  · simp only [Percentile.wordRank, Percentile.rank, hn, ↓reduceIte]
    rfl
  · simp only [Percentile.wordRank, Percentile.rank, hn, ↓reduceIte, Word.checked_of_lt hsucc, bind,
      Except.bind]
    rw [Word.checked_of_lt h]
    rfl

/-- A product past the word bound overflows: at the multiplication, or already at `n + 1` when `n`
is the largest word. -/
theorem Percentile.wordRank_of_overflow (p : Percentile) {n : Nat} (hn : n ≠ 0)
    (h : wordLimit ≤ p.ratio.1 * (n + 1)) :
    p.wordRank n = .error (if n + 1 < wordLimit then "attempt to multiply with overflow"
      else "attempt to add with overflow") := by
  by_cases hsucc : n + 1 < wordLimit
  · simp only [Percentile.wordRank, hn, hsucc, ↓reduceIte, Word.checked_of_lt hsucc, bind, Except.bind]
    rw [Word.checked_of_le h]
    rfl
  · simp only [Percentile.wordRank, hn, hsucc, ↓reduceIte, Word.checked_of_le (Nat.le_of_not_lt hsucc)]
    rfl

/-- On 64-bit counts the rank of a percentile among `n ≥ 1` values is `num · (n + 1) / den`
rounded down, exactly when that product fits in a word; past it the arithmetic overflows and the
program stops. The exact value lies in `1 … n`, so the clamp of `rank` never moves it, and selecting
from `n` values reads the value at that rank. -/
theorem Percentile.wordRank_nearest (p : Percentile) (n : Nat) (hn : 1 ≤ n) :
    (p.wordRank n = .ok (some (p.ratio.1 * (n + 1) / p.ratio.2)) ↔
      p.ratio.1 * (n + 1) < wordLimit) ∧
    (wordLimit ≤ p.ratio.1 * (n + 1) →
      p.wordRank n = .error (if n + 1 < wordLimit then "attempt to multiply with overflow"
        else "attempt to add with overflow")) ∧
    p.rank n = some (p.ratio.1 * (n + 1) / p.ratio.2) ∧
    1 ≤ p.ratio.1 * (n + 1) / p.ratio.2 ∧ p.ratio.1 * (n + 1) / p.ratio.2 ≤ n ∧
    ∀ xs : List Score, xs.length = n →
      ∃ v, p.select xs = some v ∧ xs[p.ratio.1 * (n + 1) / p.ratio.2 - 1]? = some v := by
  have hrank := p.rank_of_pos hn
  obtain ⟨hlo, hhi⟩ := Percentile.rank_bounds hrank
  refine ⟨⟨fun h => ?_, fun h => by rw [p.wordRank_of_fits h, hrank]⟩,
    p.wordRank_of_overflow (by omega), hrank, hlo, hhi, fun xs hlen => ?_⟩
  · -- a result at all means the product fit
    by_contra hover
    rw [p.wordRank_of_overflow (by omega) (Nat.le_of_not_lt hover)] at h
    cases h
  · subst hlen
    refine ⟨_, ?_, List.getElem?_eq_getElem (by omega)⟩
    simp [Percentile.select, hrank]

/-- Among `10 ^ 19` values the product `9 · (n + 1)` of the ninetieth percentile passes `2 ^ 64`:
its rank overflows. -/
theorem Percentile.wordRank_p90_overflows :
    1 ≤ 10000000000000000000 ∧
      Percentile.p90.wordRank 10000000000000000000 = .error "attempt to multiply with overflow" := by
  have h := (Percentile.wordRank_nearest .p90 10000000000000000000 (by decide)).2.1 (by decide)
  rw [if_pos (by decide)] at h
  exact ⟨by decide, h⟩

/-! ### Counting in a sorted list -/

section Sorted
variable {α : Type} [LinearOrder α]

theorem countP_lt_getElem_le : ∀ {l : List α}, l.Pairwise (· ≤ ·) →
    ∀ (n : Nat) (hn : n < l.length), l.countP (· < l[n]) ≤ n
  | [], _, n, hn => absurd hn (Nat.not_lt_zero n)
  | x :: xs, h, 0, _ => by
    -- nothing after the head is below it
    have hrest : xs.countP (· < x) = 0 :=
      List.countP_eq_zero.mpr fun a ha => by simpa using List.rel_of_pairwise_cons h ha
    simp [hrest]
  | x :: xs, h, m + 1, hn => by
    have ih := countP_lt_getElem_le h.of_cons m (Nat.lt_of_succ_lt_succ hn)
    simp only [List.getElem_cons_succ, List.countP_cons]
    split <;> omega

theorem succ_le_countP_le_getElem : ∀ {l : List α}, l.Pairwise (· ≤ ·) →
    ∀ (n : Nat) (hn : n < l.length), n + 1 ≤ l.countP (· ≤ l[n])
  | [], _, n, hn => absurd hn (Nat.not_lt_zero n)
  | x :: xs, _, 0, _ => by simp
  | x :: xs, h, m + 1, hn => by
    have hm : m < xs.length := Nat.lt_of_succ_lt_succ hn
    have ih := succ_le_countP_le_getElem h.of_cons m hm
    -- the head is at most every later score
    have hx : x ≤ xs[m] := List.rel_of_pairwise_cons h (List.getElem_mem hm)
    simp only [List.getElem_cons_succ, List.countP_cons, hx, decide_true, ↓reduceIte]
    omega

end Sorted

/-! ### The score at a rank -/

/-- `v` is the `r`-th smallest of the scores `xs`, counting from one: one of the scores, with
fewer than `r` scores below it and at least `r` scores at or below it. -/
def IsRankth (xs : List Score) (r : Nat) (v : Score) : Prop :=
  v ∈ xs ∧ xs.countP (· < v) < r ∧ r ≤ xs.countP (· ≤ v)

instance (xs : List Score) (r : Nat) (v : Score) : Decidable (IsRankth xs r v) :=
  inferInstanceAs (Decidable (_ ∧ _ ∧ _))

/-- A higher rank never holds a smaller score. -/
theorem IsRankth.le_of_le {xs : List Score} {r r' : Nat} {v w : Score} (hv : IsRankth xs r v)
    (hw : IsRankth xs r' w) (hr : r ≤ r') : v ≤ w := by
  by_contra hlt
  have hwv : w < v := lt_of_not_ge hlt
  -- every score at or below `w` is below `v`
  have hcount : xs.countP (· ≤ w) ≤ xs.countP (· < v) :=
    List.countP_mono_left fun x _ hx => by
      simp only [decide_eq_true_eq] at hx ⊢
      exact lt_of_le_of_lt hx hwv
  have := hv.2.1
  have := hw.2.2
  omega

/-- The score a percentile selects from the sorted scores is the one at the percentile's rank. -/
theorem Percentile.select_isRankth (p : Percentile) {xs : List Score} {v : Score}
    (h : p.select (xs.mergeSort fun a b => decide (a ≤ b)) = some v) :
    ∃ r, p.rank xs.length = some r ∧ IsRankth xs r v := by
  unfold Percentile.select at h
  rw [List.length_mergeSort] at h
  obtain ⟨r, hr, hget⟩ := Option.bind_eq_some_iff.mp h
  obtain ⟨hi, rfl⟩ := List.getElem?_eq_some_iff.mp hget
  have hbounds := Percentile.rank_bounds hr
  have hperm := List.mergeSort_perm xs fun a b => decide (a ≤ b)
  have hsorted := pairwise_mergeSort_le xs
  refine ⟨r, hr, hperm.subset (List.getElem_mem hi), ?_, ?_⟩
  · rw [← hperm.countP_eq]
    have := countP_lt_getElem_le hsorted (r - 1) hi
    omega
  · rw [← hperm.countP_eq]
    have := succ_le_countP_le_getElem hsorted (r - 1) hi
    omega

/-! ### Aggregates -/

theorem AggregateStat.games_ofScores {xs : List Score} {s : AggregateStat}
    (h : AggregateStat.ofScores xs = some s) : s.games = xs.length := by
  unfold AggregateStat.ofScores at h
  dsimp only at h
  split at h
  · cases h
    exact List.length_mergeSort _
  · cases h

/-- Each percentile of an aggregate is the score at the percentile's rank. -/
theorem AggregateStat.value_isRankth {xs : List Score} {s : AggregateStat}
    (h : AggregateStat.ofScores xs = some s) (p : Percentile) :
    IsRankth xs (p.ratio.1 * (xs.length + 1) / p.ratio.2) (s.value p) := by
  have hsel := AggregateStat.ofScores_value xs p
  rw [h, Option.map_some] at hsel
  obtain ⟨r, hr, hrank⟩ := p.select_isRankth hsel.symm
  have hpos : 0 < xs.length := List.length_pos_of_mem hrank.1
  rw [p.rank_of_pos hpos, Option.some.injEq] at hr
  exact hr ▸ hrank

/-- Aggregating scores has no result exactly for no scores. Otherwise it counts the games and
takes the median and the ninetieth percentile by nearest rank, `(n + 1) / 2` and
`9 (n + 1) / 10` rounded down, among the `n` scores; the result is the same for the scores in
any order, and lies between the smallest and the largest score with the median not above the
ninetieth percentile. -/
theorem ofScores_nearest_rank (xs : List Score) :
    (AggregateStat.ofScores xs = none ↔ xs = []) ∧
    (∀ ys, ys.Perm xs → AggregateStat.ofScores ys = AggregateStat.ofScores xs) ∧
    ∀ s, AggregateStat.ofScores xs = some s →
      s.games = xs.length ∧ IsRankth xs ((xs.length + 1) / 2) s.p50 ∧
      IsRankth xs (9 * (xs.length + 1) / 10) s.p90 ∧
      ∃ lo hi, xs.min? = some lo ∧ xs.max? = some hi ∧ lo ≤ s.p50 ∧ s.p50 ≤ s.p90 ∧ s.p90 ≤ hi := by
  refine ⟨⟨fun h => ?_, fun h => h ▸ AggregateStat.ofScores_nil⟩,
    fun ys hys => AggregateStat.ofScores_perm hys, fun s hs => ?_⟩
  · by_contra hne
    have hsome := AggregateStat.ofScores_isSome hne
    rw [h] at hsome
    exact absurd hsome (by simp)
  · have h50 : IsRankth xs ((xs.length + 1) / 2) s.p50 := by
      simpa [Percentile.ratio, AggregateStat.value] using AggregateStat.value_isRankth hs .p50
    have h90 : IsRankth xs (9 * (xs.length + 1) / 10) s.p90 := by
      simpa [Percentile.ratio, AggregateStat.value] using AggregateStat.value_isRankth hs .p90
    obtain ⟨lo, hlo⟩ := Option.isSome_iff_exists.mp (List.isSome_min?_of_mem h50.1)
    obtain ⟨hi, hhi⟩ := Option.isSome_iff_exists.mp (List.isSome_max?_of_mem h90.1)
    refine ⟨AggregateStat.games_ofScores hs, h50, h90, lo, hi, hlo, hhi, ?_, h50.le_of_le h90 (by omega), ?_⟩
    · exact (List.min?_eq_some_iff.mp hlo).2 _ h50.1
    · exact (List.max?_eq_some_iff.mp hhi).2 _ h90.1

/-- Six scores: the median is the third smallest and the ninetieth percentile the sixth. -/
theorem ofScores_six_scores :
    AggregateStat.ofScores [500, 200, 400, 250, 350, 300] = some ⟨6, 300, 500⟩ ∧
      IsRankth [500, 200, 400, 250, 350, 300] 3 300 ∧ IsRankth [500, 200, 400, 250, 350, 300] 6 500 := by
  have hs : AggregateStat.ofScores [500, 200, 400, 250, 350, 300] = some ⟨6, 300, 500⟩ := by
    rw [AggregateStat.ofScores, mergeSort_eq_bounded]
    decide
  obtain ⟨-, h50, h90, -⟩ := (ofScores_nearest_rank [500, 200, 400, 250, 350, 300]).2.2 _ hs
  exact ⟨hs, h50, h90⟩

end PinballScout
