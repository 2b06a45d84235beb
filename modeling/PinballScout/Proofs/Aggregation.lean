import Mathlib.Algebra.BigOperators.Group.List.Lemmas
import Mathlib.Algebra.Order.BigOperators.Group.List
import PinballScout.Proofs.NearestRank

/-! Per-machine aggregates of score rows. A table built key by key from the distinct keys holds
    exactly those keys, once each, since every key that occurs has scores. So the per-machine
    aggregates name each machine with a row once; each aggregates that machine's scores, and its
    likely players are picked from the per-player aggregates of the machine's rows. The players'
    games add up to the machine's, so the likely players' games never exceed the machine's and
    reach them once every player fits. The aggregates stand most games first, then by machine key,
    strictly, because no key repeats. -/

namespace PinballScout

/-- The score rows on one machine, in row order. -/
def rowsOn (rows : List ScoreRow) (machine : String) : List ScoreRow :=
  rows.filter (·.machineKey == machine)

/-! ### Tables built key by key -/

/-- A table built from some keys, where every key has an entry, has exactly those keys. -/
theorem map_filterMap_keys {β γ : Type} (f : String → Option β) (g : String → β → γ) (key : γ → String)
    (hg : ∀ k b, key (g k b) = k) :
    ∀ {keys : List String}, (∀ k ∈ keys, (f k).isSome) → (keys.filterMap fun k => (f k).map (g k)).map key = keys
  | [], _ => rfl
  | k :: ks, h => by
    obtain ⟨b, hb⟩ := Option.isSome_iff_exists.mp (h k List.mem_cons_self)
    have ih := map_filterMap_keys f g key hg fun k' hk' => h k' (List.mem_cons_of_mem k hk')
    simp [hb, hg, ih]

theorem ofScores_valuesOf_isSome {rows : List (String × Score)} {key : String} (h : key ∈ distinctKeys rows) :
    (AggregateStat.ofScores (valuesOf rows key)).isSome := by
  obtain ⟨a, ha⟩ := mem_distinctKeys.mp h
  exact AggregateStat.ofScores_isSome (List.ne_nil_of_mem (mem_valuesOf.mpr ha))

theorem groups_keys (rows : List (String × Score)) : (groups rows).map (·.1) = distinctKeys rows :=
  map_filterMap_keys _ (fun k s => (k, s)) _ (fun _ _ => rfl) fun _ hk => ofScores_valuesOf_isSome hk

theorem nodup_distinctSorted (xs : List String) : (distinctSorted xs).Nodup :=
  (distinctSorted_sorted xs).imp ne_of_lt

theorem distinctSorted_perm_dedup (xs : List String) : (distinctSorted xs).Perm xs.dedup :=
  (List.perm_ext_iff_of_nodup (nodup_distinctSorted xs) (List.nodup_dedup xs)).mpr
    fun x => by simp [List.mem_dedup]

theorem length_valuesOf {α : Type} (rows : List (String × α)) (key : String) :
    (valuesOf rows key).length = (rows.map (·.1)).count key := by
  simp [valuesOf, List.count_eq_countP, List.countP_eq_length_filter, List.filter_map, Function.comp_def]

/-- Counting the rows of each distinct key counts every row once. -/
theorem sum_length_valuesOf {α : Type} (rows : List (String × α)) :
    ((distinctKeys rows).map fun k => (valuesOf rows k).length).sum = rows.length := by
  simp only [length_valuesOf, distinctKeys]
  rw [((distinctSorted_perm_dedup _).map _).sum_eq, List.sum_map_count_dedup_eq_length, List.length_map]

/-- The games of the groups add up to the number of rows. -/
theorem sum_games_groups (rows : List (String × Score)) : ((groups rows).map (·.2.games)).sum = rows.length := by
  have hgames : (groups rows).map (·.2.games) = ((groups rows).map (·.1)).map fun k => (valuesOf rows k).length := by
    rw [List.map_map]
    exact List.map_congr_left fun e he => AggregateStat.games_ofScores (ofScores_of_mem_groups he)
  rw [hgames, groups_keys, sum_length_valuesOf]

theorem length_groups (rows : List (String × Score)) : (groups rows).length = (rows.map (·.1)).dedup.length := by
  rw [← List.length_map (f := (·.1)), groups_keys, distinctKeys, (distinctSorted_perm_dedup _).length_eq]

theorem nodup_groups_keys (rows : List (String × Score)) : ((groups rows).map (·.1)).Nodup := by
  rw [groups_keys]
  exact nodup_distinctSorted _

/-! ### Likely players -/

section Likely
variable {β : Type} (f : LikelyPlayer → β) (perPlayer : List (String × AggregateStat)) (limit : Nat)

theorem map_likely (l : List (String × AggregateStat)) :
    (l.map fun (name, s) => (⟨name, s.games, s.p50⟩ : LikelyPlayer)).map f =
      l.map fun e => f ⟨e.1, e.2.games, e.2.p50⟩ := by
  simp only [List.map_map]
  rfl

/-- The likely players are some of the per-player aggregates. -/
theorem map_selectLikely_subperm :
    ((selectLikely perPlayer limit).map f).Subperm (perPlayer.map fun e => f ⟨e.1, e.2.games, e.2.p50⟩) := by
  rw [← map_likely]
  exact ((List.take_sublist _ _).map f).subperm.trans ((List.mergeSort_perm _ _).map f).subperm

theorem names_selectLikely_subperm :
    ((selectLikely perPlayer limit).map (·.name)).Subperm (perPlayer.map (·.1)) :=
  map_selectLikely_subperm (·.name) perPlayer limit

/-- With room for every player, the likely players are all the per-player aggregates. -/
theorem map_selectLikely_perm (h : perPlayer.length ≤ limit) :
    ((selectLikely perPlayer limit).map f).Perm (perPlayer.map fun e => f ⟨e.1, e.2.games, e.2.p50⟩) := by
  rw [← map_likely, selectLikely, List.take_of_length_le (by simpa [List.length_mergeSort] using h)]
  exact (List.mergeSort_perm _ _).map f

end Likely

theorem sum_le_of_subperm {l l' : List Nat} (h : l.Subperm l') : l.sum ≤ l'.sum := by
  obtain ⟨m, hm, hsub⟩ := h
  rw [← hm.sum_eq]
  exact hsub.sum_le_sum fun _ _ => Nat.zero_le _

theorem nodup_of_subperm {α : Type} {l l' : List α} (h : l.Subperm l') (hd : l'.Nodup) : l.Nodup := by
  obtain ⟨m, hm, hsub⟩ := h
  exact hm.nodup_iff.mp (hd.sublist hsub)

/-! ### One aggregate per machine -/

theorem valuesOf_keyed (rows : List ScoreRow) (machine : String) :
    valuesOf (rows.map fun r => (r.machineKey, r)) machine = rowsOn rows machine := by
  simp [valuesOf, rowsOn, List.filter_map, Function.comp_def]

/-- What one machine's aggregate is made of: the machine's scores, and the likely players of the
per-player aggregates of its rows. -/
theorem of_mem_buildMachineStats {rows : List ScoreRow} {limit : Nat} {s : MachineStats}
    (h : s ∈ buildMachineStats rows limit) :
    AggregateStat.ofScores ((rowsOn rows s.machineKey).map (·.score)) = some s.stat ∧
      s.likelyPlayers = selectLikely (groups ((rowsOn rows s.machineKey).map fun r => (r.player, r.score))) limit := by
  obtain ⟨key, -, hkey⟩ := List.mem_filterMap.mp (List.mem_mergeSort.mp h)
  obtain ⟨stat, hstat, rfl⟩ := Option.map_eq_some_iff.mp hkey
  rw [valuesOf_keyed] at hstat ⊢
  exact ⟨hstat, rfl⟩

theorem buildMachineStats_keys_perm (rows : List ScoreRow) (limit : Nat) :
    ((buildMachineStats rows limit).map (·.machineKey)).Perm (distinctKeys (rows.map fun r => (r.machineKey, r))) := by
  refine ((List.mergeSort_perm _ _).map _).trans (List.Perm.of_eq ?_)
  refine map_filterMap_keys _ _ MachineStats.machineKey (fun _ _ => rfl) fun k hk => ?_
  obtain ⟨r, hr⟩ := mem_distinctKeys.mp hk
  exact AggregateStat.ofScores_isSome
    (List.ne_nil_of_mem (List.mem_map_of_mem (f := (·.score)) (mem_valuesOf.mpr hr)))

theorem nodup_keys_buildMachineStats (rows : List ScoreRow) (limit : Nat) :
    ((buildMachineStats rows limit).map (·.machineKey)).Nodup :=
  (buildMachineStats_keys_perm rows limit).nodup_iff.mpr (nodup_distinctSorted _)

/-! ### Order -/

namespace MachineStats

theorem before_iff (a b : MachineStats) :
    before a b = true ↔ b.stat.games < a.stat.games ∨ a.stat.games = b.stat.games ∧ a.machineKey ≤ b.machineKey := by
  simp [before]

/-- The place of an aggregate in the order of `before`: more games, then the smaller machine key
first. -/
def rank (a : MachineStats) : ℕᵒᵈ ×ₗ String :=
  toLex (OrderDual.toDual a.stat.games, a.machineKey)

theorem before_iff_rank (a b : MachineStats) : before a b = true ↔ a.rank ≤ b.rank := by
  simp [before, rank, Prod.Lex.toLex_le_toLex]

end MachineStats

/-- The aggregates stand most games first, then by machine key, with no two in the same place. -/
theorem buildMachineStats_sorted (rows : List ScoreRow) (limit : Nat) :
    (buildMachineStats rows limit).Pairwise fun a b =>
      b.stat.games < a.stat.games ∨ a.stat.games = b.stat.games ∧ a.machineKey < b.machineKey := by
  have hsorted : (buildMachineStats rows limit).Pairwise fun a b => MachineStats.before a b = true :=
    List.pairwise_mergeSort (trans_of_key _ MachineStats.before_iff_rank)
      (total_of_key _ MachineStats.before_iff_rank) _
  have hdistinct := List.pairwise_map.mp (nodup_keys_buildMachineStats rows limit)
  refine (hsorted.and hdistinct).imp fun {a b} ⟨hab, hne⟩ => ?_
  rcases (MachineStats.before_iff a b).mp hab with hlt | ⟨heq, hle⟩
  · exact .inl hlt
  · exact .inr ⟨heq, lt_of_le_of_ne hle hne⟩

/-! ### The likely players of a machine -/

section Machine
variable {rows : List ScoreRow} {limit : Nat} {s : MachineStats}

theorem games_of_mem_buildMachineStats (h : s ∈ buildMachineStats rows limit) :
    s.stat.games = (rowsOn rows s.machineKey).length := by
  rw [AggregateStat.games_ofScores (of_mem_buildMachineStats h).1, List.length_map]

theorem likely_played (h : s ∈ buildMachineStats rows limit) :
    ∀ p ∈ s.likelyPlayers, ∃ r ∈ rowsOn rows s.machineKey, r.player = p.name := by
  intro p hp
  rw [(of_mem_buildMachineStats h).2] at hp
  have hname : p.name ∈ (groups ((rowsOn rows s.machineKey).map fun r => (r.player, r.score))).map (·.1) :=
    (names_selectLikely_subperm _ limit).subset (List.mem_map_of_mem hp)
  rw [groups_keys] at hname
  obtain ⟨score, hmem⟩ := mem_distinctKeys.mp hname
  obtain ⟨r, hr, hpair⟩ := List.mem_map.mp hmem
  exact ⟨r, hr, (Prod.mk.inj hpair).1⟩

theorem nodup_likely_names (h : s ∈ buildMachineStats rows limit) : (s.likelyPlayers.map (·.name)).Nodup := by
  rw [(of_mem_buildMachineStats h).2]
  exact nodup_of_subperm (names_selectLikely_subperm _ limit) (nodup_groups_keys _)

theorem sum_likely_games_le (h : s ∈ buildMachineStats rows limit) :
    (s.likelyPlayers.map (·.games)).sum ≤ s.stat.games := by
  rw [games_of_mem_buildMachineStats h, (of_mem_buildMachineStats h).2]
  calc ((selectLikely _ limit).map (·.games)).sum
      ≤ ((groups ((rowsOn rows s.machineKey).map fun r => (r.player, r.score))).map (·.2.games)).sum :=
        sum_le_of_subperm (map_selectLikely_subperm (·.games) _ limit)
    _ = (rowsOn rows s.machineKey).length := by rw [sum_games_groups, List.length_map]

theorem sum_likely_games_eq (h : s ∈ buildMachineStats rows limit)
    (hroom : ((rowsOn rows s.machineKey).map (·.player)).dedup.length ≤ limit) :
    (s.likelyPlayers.map (·.games)).sum = s.stat.games := by
  have hlen : (groups ((rowsOn rows s.machineKey).map fun r => (r.player, r.score))).length ≤ limit := by
    simpa [length_groups, List.map_map, Function.comp_def] using hroom
  rw [games_of_mem_buildMachineStats h, (of_mem_buildMachineStats h).2,
    (map_selectLikely_perm (·.games) _ limit hlen).sum_eq, sum_games_groups, List.length_map]

end Machine

/-- Score rows aggregate to one entry per machine with a row, most games first and then by machine
key. Each entry aggregates the machine's scores, and its likely players are picked from the
per-player aggregates of the machine's rows: players with rows there, each once, whose games add
up to at most the machine's, and exactly to them when every player fits. Rows in any order give
the same aggregates. -/
theorem machine_aggregates (rows : List ScoreRow) (limit : Nat) :
    ((buildMachineStats rows limit).map (·.machineKey)).Nodup ∧
    (∀ m, m ∈ (buildMachineStats rows limit).map (·.machineKey) ↔ ∃ r ∈ rows, r.machineKey = m) ∧
    (buildMachineStats rows limit).Pairwise (fun a b => b.stat.games < a.stat.games ∨
      a.stat.games = b.stat.games ∧ a.machineKey < b.machineKey) ∧
    (∀ s ∈ buildMachineStats rows limit,
      AggregateStat.ofScores ((rowsOn rows s.machineKey).map (·.score)) = some s.stat ∧
      s.likelyPlayers = selectLikely (groups ((rowsOn rows s.machineKey).map fun r => (r.player, r.score))) limit ∧
      (∀ p ∈ s.likelyPlayers, ∃ r ∈ rowsOn rows s.machineKey, r.player = p.name) ∧
      (s.likelyPlayers.map (·.name)).Nodup ∧
      (s.likelyPlayers.map (·.games)).sum ≤ s.stat.games ∧
      (((rowsOn rows s.machineKey).map (·.player)).dedup.length ≤ limit →
        (s.likelyPlayers.map (·.games)).sum = s.stat.games)) ∧
    ∀ rows', rows'.Perm rows → buildMachineStats rows' limit = buildMachineStats rows limit := by
  refine ⟨nodup_keys_buildMachineStats rows limit, fun m => mem_keys_buildMachineStats,
    buildMachineStats_sorted rows limit, fun s hs => ?_, fun rows' h => buildMachineStats_perm h limit⟩
  obtain ⟨hstat, hlikely⟩ := of_mem_buildMachineStats hs
  exact ⟨hstat, hlikely, likely_played hs, nodup_likely_names hs, sum_likely_games_le hs,
    sum_likely_games_eq hs⟩

/-- Five rows on three machines by two players. -/
def sampleRows : List ScoreRow :=
  [⟨"TAF", "Alice", 500⟩, ⟨"TAF", "Bob", 400⟩, ⟨"TZ", "Alice", 100⟩, ⟨"TAF", "Bob", 350⟩, ⟨"MM", "Alice", 600⟩]

/-- With two likely players per machine, every player fits, so each machine's likely players
account for all of its games. -/
theorem machine_aggregates_sample :
    (buildMachineStats sampleRows 2).map (·.machineKey) = ["TAF", "MM", "TZ"] ∧
      ∀ s ∈ buildMachineStats sampleRows 2, (s.likelyPlayers.map (·.games)).sum = s.stat.games := by
  have hkeys : (buildMachineStats sampleRows 2).map (·.machineKey) = ["TAF", "MM", "TZ"] := by
    simp only [sampleRows, buildMachineStats, distinctKeys, distinctSorted, selectLikely, groups,
      AggregateStat.ofScores, mergeSort_eq_bounded]
    decide +kernel
  refine ⟨hkeys, fun s hs => ((machine_aggregates sampleRows 2).2.2.2.1 s hs).2.2.2.2.2 ?_⟩
  have hk : s.machineKey ∈ ["TAF", "MM", "TZ"] := hkeys ▸ List.mem_map_of_mem hs
  simp only [List.mem_cons, List.not_mem_nil, or_false] at hk
  rcases hk with h | h | h <;> rw [h] <;> decide

end PinballScout
