import Mathlib.Data.String.Basic
import Mathlib.Data.List.Sort
import PinballScout.Store.Aggregate

/-! Grouping reads its rows as a multiset. The distinct keys of a list depend only on which keys
    occur, the values of one key are permuted when the rows are, and a sorted permutation is unique,
    so `groups`, `buildMachineStats` and `buildBaseline` answer the same for rows in any order. A
    grouped table is looked up through the scores of the key alone. Merge sort also has a form
    with bounded recursion, equal to it, in which sorts of fixed lists evaluate. -/

namespace PinballScout

/-! ### Sorting by a key

Every comparator the program sorts with says whether the place of one element in a linear order,
its key, is at most the other's. Such a comparator is a total preorder, so merge sort by it sorts
by the key, strictly when no two elements share a key. -/

section Keyed
variable {α β : Type} [LinearOrder β] (key : α → β) {le : α → α → Bool}

theorem trans_of_key (hle : ∀ a b, le a b = true ↔ key a ≤ key b) (a b c : α) (hab : le a b = true)
    (hbc : le b c = true) : le a c = true :=
  (hle a c).mpr (((hle a b).mp hab).trans ((hle b c).mp hbc))

theorem total_of_key (hle : ∀ a b, le a b = true ↔ key a ≤ key b) (a b : α) : (le a b || le b a) = true := by
  rw [Bool.or_eq_true, hle, hle]
  exact le_total (key a) (key b)

theorem pairwise_mergeSort_of_key (hle : ∀ a b, le a b = true ↔ key a ≤ key b) (l : List α) :
    (l.mergeSort le).Pairwise fun a b => key a ≤ key b :=
  (List.pairwise_mergeSort (trans_of_key key hle) (total_of_key key hle) l).imp fun hab => (hle _ _).mp hab

/-- Elements with distinct keys sort into strictly increasing key order. -/
theorem pairwise_lt_mergeSort_of_key (hle : ∀ a b, le a b = true ↔ key a ≤ key b) {l : List α}
    (hkeys : (l.map key).Nodup) : (l.mergeSort le).Pairwise fun a b => key a < key b :=
  (pairwise_mergeSort_of_key key hle l).imp₂ (fun _ _ hab hne => lt_of_le_of_ne hab hne)
    (List.pairwise_map.mp (((List.mergeSort_perm l le).map key).nodup_iff.mpr hkeys))

theorem pairwise_mergeSort_byKey (l : List α) :
    (l.mergeSort fun a b => decide (key a ≤ key b)).Pairwise fun a b => key a ≤ key b :=
  pairwise_mergeSort_of_key key (fun _ _ => decide_eq_true_iff) l

end Keyed

theorem pairwise_mergeSort_le {α : Type} [LinearOrder α] (xs : List α) :
    (xs.mergeSort fun a b => decide (a ≤ b)).Pairwise (· ≤ ·) :=
  pairwise_mergeSort_byKey id xs

/-- Sorting by `≤` forgets the order of its input. -/
theorem mergeSort_eq_of_perm {α : Type} [LinearOrder α] {xs ys : List α} (h : xs.Perm ys) :
    xs.mergeSort (fun a b => decide (a ≤ b)) = ys.mergeSort (fun a b => decide (a ≤ b)) :=
  List.Perm.eq_of_pairwise (fun _ _ _ _ hab hba => le_antisymm hab hba) (pairwise_mergeSort_le xs)
    (pairwise_mergeSort_le ys) ((List.mergeSort_perm _ _).trans (h.trans (List.mergeSort_perm _ _).symm))

/-! ### Sorting by a bounded recursion -/

section Bounded
variable {α : Type} (le : α → α → Bool)

/-- Merging with the recursion bounded by a count, which `decide` can run. -/
def boundedMerge : Nat → List α → List α → List α
  | 0, xs, ys => xs ++ ys
  | _ + 1, [], ys => ys
  | _ + 1, xs, [] => xs
  | n + 1, x :: xs, y :: ys =>
    if le x y then x :: boundedMerge n xs (y :: ys) else y :: boundedMerge n (x :: xs) ys

/-- Merge sort with the recursion bounded by a count, which `decide` can run. -/
def boundedMergeSort : Nat → List α → List α
  | 0, xs => xs
  | _ + 1, [] => []
  | _ + 1, [x] => [x]
  | n + 1, x :: y :: xs =>
    let half := (xs.length + 3) / 2
    boundedMerge le (xs.length + 2) (boundedMergeSort n ((x :: y :: xs).take half))
      (boundedMergeSort n ((x :: y :: xs).drop half))

theorem boundedMerge_eq (n : Nat) (xs ys : List α) (h : xs.length + ys.length ≤ n) :
    boundedMerge le n xs ys = xs.merge ys le := by
  induction n generalizing xs ys with
  | zero =>
    obtain ⟨rfl, rfl⟩ : xs = [] ∧ ys = [] := by
      constructor <;> apply List.eq_nil_of_length_eq_zero <;> omega
    simp [boundedMerge]
  | succ n ih =>
    match xs, ys with
    | [], ys => simp [boundedMerge]
    | x :: xs, [] => simp [boundedMerge]
    | x :: xs, y :: ys =>
      simp only [List.length_cons] at h
      rw [boundedMerge, List.cons_merge_cons]
      split
      · rw [ih xs (y :: ys) (by simp; omega)]
      · rw [ih (x :: xs) ys (by simp; omega)]

theorem boundedMergeSort_eq (n : Nat) (xs : List α) (h : xs.length ≤ n) :
    boundedMergeSort le n xs = xs.mergeSort le := by
  induction n generalizing xs with
  | zero =>
    rw [List.eq_nil_of_length_eq_zero (Nat.le_zero.mp h)]
    simp [boundedMergeSort]
  | succ n ih =>
    match xs with
    | [] => simp [boundedMergeSort]
    | [x] => simp [boundedMergeSort]
    | x :: y :: xs =>
      simp only [List.length_cons] at h
      rw [boundedMergeSort, List.mergeSort]
      simp only [List.MergeSort.Internal.splitInTwo_fst, List.MergeSort.Internal.splitInTwo_snd, List.length_cons]
      rw [ih _ (by simp; omega), ih _ (by simp; omega), boundedMerge_eq]
      simp [List.length_mergeSort]
      omega

/-- Merge sort run by a bounded recursion, so that `decide` can evaluate a sort of a fixed list. -/
theorem mergeSort_eq_bounded (xs : List α) : xs.mergeSort le = boundedMergeSort le xs.length xs :=
  (boundedMergeSort_eq le _ xs le_rfl).symm

end Bounded

/-! ### Distinct keys -/

@[simp] theorem mem_distinctSorted {x : String} {xs : List String} :
    x ∈ distinctSorted xs ↔ x ∈ xs := by
  simp [distinctSorted]

theorem eraseDups_of_nodup {α : Type} [BEq α] [LawfulBEq α] : ∀ {l : List α}, l.Nodup → l.eraseDups = l
  | [], _ => rfl
  | a :: as, h => by
    obtain ⟨ha, hs⟩ := List.nodup_cons.mp h
    rw [List.eraseDups_cons, List.filter_eq_self.mpr fun b hb => ?_, eraseDups_of_nodup hs]
    simpa using fun hba : b = a => ha (hba ▸ hb)

/-- A list in strictly increasing order is its own list of distinct keys. -/
theorem distinctSorted_of_sorted {xs : List String} (h : xs.Pairwise (· < ·)) :
    distinctSorted xs = xs := by
  rw [distinctSorted, eraseDups_of_nodup (h.imp ne_of_lt), List.mergeSort_of_pairwise]
  exact h.imp fun hab => by simpa using le_of_lt hab

/-- The distinct keys of a list depend only on which keys occur in it. -/
theorem distinctSorted_congr {xs ys : List String} (h : ∀ x, x ∈ xs ↔ x ∈ ys) :
    distinctSorted xs = distinctSorted ys :=
  (distinctSorted_sorted xs).eq_of_mem_iff (distinctSorted_sorted ys) fun x => by simpa using h x

@[simp] theorem mem_distinctKeys {α : Type} {rows : List (String × α)} {key : String} :
    key ∈ distinctKeys rows ↔ ∃ a, (key, a) ∈ rows := by
  simp [distinctKeys]

theorem distinctKeys_perm {α : Type} {rows rows' : List (String × α)} (h : rows.Perm rows') :
    distinctKeys rows = distinctKeys rows' :=
  distinctSorted_congr fun _ => (h.map _).mem_iff

theorem valuesOf_perm {α : Type} {rows rows' : List (String × α)} (h : rows.Perm rows')
    (key : String) : (valuesOf rows key).Perm (valuesOf rows' key) :=
  (h.filter _).map _

theorem valuesOf_eq_nil {α : Type} {rows : List (String × α)} {key : String}
    (h : key ∉ distinctKeys rows) : valuesOf rows key = [] := by
  simp only [mem_distinctKeys, not_exists] at h
  simp only [valuesOf, List.map_eq_nil_iff, List.filter_eq_nil_iff, beq_iff_eq]
  rintro ⟨k, a⟩ hmem rfl
  exact h a hmem

/-! ### Tables by key -/

section Tables
variable {α : Type} {entries : List (String × α)}

/-- With distinct keys, keeping the last entry of each key keeps every entry. -/
theorem mem_lastPerKey (hkeys : (entries.map (·.1)).Nodup) {e : String × α} :
    e ∈ lastPerKey entries ↔ e ∈ entries := by
  obtain ⟨k, v⟩ := e
  simp only [lastPerKey, List.mem_filterMap, mem_distinctSorted, Option.map_eq_some_iff]
  constructor
  · rintro ⟨k', -, ⟨k'', v'⟩, hfind, heq⟩
    simp only [Prod.mk.injEq] at heq
    obtain ⟨rfl, rfl⟩ := heq
    -- the entry found carries the key it was looked up by
    have hkey : k'' = k' := by simpa using List.find?_some hfind
    subst hkey
    exact List.mem_reverse.mp (List.mem_of_find?_eq_some hfind)
  · intro he
    have hfound : (entries.reverse.find? fun x => x.1 == k).isSome :=
      List.find?_isSome.mpr ⟨(k, v), List.mem_reverse.mpr he, beq_self_eq_true k⟩
    obtain ⟨p, hp⟩ := Option.isSome_iff_exists.mp hfound
    have hpkey : p.1 = k := by simpa using List.find?_some hp
    have hsame : p = (k, v) :=
      List.inj_on_of_nodup_map hkeys (List.mem_reverse.mp (List.mem_of_find?_eq_some hp)) he hpkey
    exact ⟨k, List.mem_map_of_mem he, p, hp, by rw [hsame]⟩

/-- With distinct keys, keeping the last entry of each key in key order sorts the entries by key. -/
theorem lastPerKey_of_nodup (hkeys : (entries.map (·.1)).Nodup) :
    lastPerKey entries = entries.mergeSort fun a b => decide (a.1 ≤ b.1) := by
  have hascending := lastPerKey_ascending entries
  have hnodup : (lastPerKey entries).Nodup := List.Nodup.of_map (fun e : String × α => e.1) (hascending.imp ne_of_lt)
  have hperm : (lastPerKey entries).Perm (entries.mergeSort fun a b => decide (a.1 ≤ b.1)) :=
    (List.perm_ext_iff_of_nodup hnodup ((List.mergeSort_perm _ _).nodup_iff.mpr (hkeys.of_map _))).mpr
      fun e => by rw [mem_lastPerKey hkeys, List.mem_mergeSort]
  -- both lists are in key order, and with distinct keys an order of keys fixes the list
  refine hperm.eq_of_pairwise (fun a b ha hb hab hba => ?_) ((List.pairwise_map.mp hascending).imp le_of_lt)
    (pairwise_mergeSort_byKey (·.1) entries)
  exact List.inj_on_of_nodup_map hkeys ((mem_lastPerKey hkeys).mp ha) (List.mem_mergeSort.mp hb) (le_antisymm hab hba)
end Tables

/-! ### Aggregates -/

theorem Percentile.select_eq_none_iff (p : Percentile) (sorted : List Score) :
    p.select sorted = none ↔ sorted = [] := by
  cases sorted with
  | nil => simp [Percentile.select, Percentile.rank]
  | cons a rest =>
    simp only [Percentile.select, Percentile.rank, List.length_cons, Nat.add_one_ne_zero,
      ↓reduceIte, reduceCtorEq, iff_false]
    -- the rank lies between one and the length, so the value exists
    rw [Option.bind_some, List.getElem?_eq_none_iff, List.length_cons]
    omega

theorem AggregateStat.ofScores_perm {xs ys : List Score} (h : xs.Perm ys) :
    AggregateStat.ofScores xs = AggregateStat.ofScores ys := by
  simp only [AggregateStat.ofScores, mergeSort_eq_of_perm h]

/-- An aggregate read at one percentile is that percentile of the sorted scores. -/
theorem AggregateStat.ofScores_value (xs : List Score) (p : Percentile) :
    (AggregateStat.ofScores xs).map (·.value p) = p.select (xs.mergeSort fun a b => decide (a ≤ b)) := by
  unfold AggregateStat.ofScores
  generalize xs.mergeSort (fun a b => decide (a ≤ b)) = sorted
  by_cases hs : sorted = []
  · subst hs
    simp [Percentile.select, Percentile.rank]
  · obtain ⟨a, ha⟩ := Option.ne_none_iff_exists'.mp
      (mt (Percentile.select_eq_none_iff .p50 sorted).mp hs)
    obtain ⟨b, hb⟩ := Option.ne_none_iff_exists'.mp
      (mt (Percentile.select_eq_none_iff .p90 sorted).mp hs)
    cases p <;> simp [ha, hb, AggregateStat.value]

theorem AggregateStat.ofScores_nil : AggregateStat.ofScores [] = none := by
  simp [AggregateStat.ofScores, Percentile.select, Percentile.rank]

/-! ### Order-independence -/

theorem groups_perm {rows rows' : List (String × Score)} (h : rows.Perm rows') :
    groups rows = groups rows' := by
  simp only [groups, distinctKeys_perm h]
  congr 1
  funext key
  rw [AggregateStat.ofScores_perm (valuesOf_perm h key)]

theorem buildMachineStats_perm {rows rows' : List ScoreRow} (h : rows.Perm rows') (limit : Nat) :
    buildMachineStats rows limit = buildMachineStats rows' limit := by
  have hk := h.map fun r => (r.machineKey, r)
  simp only [buildMachineStats, distinctKeys_perm hk]
  congr 2
  funext key
  rw [AggregateStat.ofScores_perm ((valuesOf_perm hk key).map _),
    groups_perm ((valuesOf_perm hk key).map _)]

theorem buildBaseline_perm {rows rows' : List (String × Score)} (h : rows.Perm rows')
    (p : Percentile) : buildBaseline rows p = buildBaseline rows' p := by
  simp only [buildBaseline, groups_perm h]

/-! ### Looking up a grouped table -/

/-- A table built key by key holds, at each key that occurs, that key's own entry. -/
theorem lookup_filterMap {β : Type} (f : String → Option β) (m : String) :
    ∀ keys : List String,
      (keys.filterMap fun k => (f k).map (k, ·)).lookup m = if m ∈ keys then f m else none
  | [] => by simp
  | k :: ks => by
    have ih := lookup_filterMap f m ks
    by_cases hk : m = k
    · subst hk
      cases hf : f m with
      | none => simp [hf, ih]
      | some b => simp [hf]
    · cases hf : f k <;> simp [List.lookup_cons, beq_false_of_ne hk, hf, ih, hk]

theorem lookup_groups (rows : List (String × Score)) (m : String) :
    (groups rows).lookup m = AggregateStat.ofScores (valuesOf rows m) := by
  rw [groups, lookup_filterMap]
  split
  · rfl
  · rename_i hm
    rw [valuesOf_eq_nil hm, AggregateStat.ofScores_nil]

theorem lookup_map_snd {β γ : Type} (f : β → γ) (m : String) :
    ∀ l : List (String × β), (l.map fun e => (e.1, f e.2)).lookup m = (l.lookup m).map f
  | [] => rfl
  | (k, b) :: l => by
    by_cases hk : m = k
    · subst hk
      simp
    · simp [List.lookup_cons, beq_false_of_ne hk, lookup_map_snd f m l]

/-- The baseline at a machine is the percentile of that machine's scores. -/
theorem lookup_buildBaseline (rows : List (String × Score)) (p : Percentile) (m : String) :
    (buildBaseline rows p).lookup m =
      p.select ((valuesOf rows m).mergeSort fun a b => decide (a ≤ b)) := by
  have h := lookup_map_snd (fun s : AggregateStat => s.value p) m (groups rows)
  simp only [buildBaseline] at h ⊢
  rw [h, lookup_groups, AggregateStat.ofScores_value]

end PinballScout
