import PinballScout.Proofs.VenueView

/-! Grouped aggregates and likely players. Grouping keyed scores gives one aggregate per distinct
    key, in increasing key order, each the aggregate of that key's scores; since every key that
    occurs has a score, no group is empty and the games of the groups count every row once.
    Per-player aggregates list the same groups best median first, and no two stand in the same
    place because no name repeats; a baseline holds each group's percentile under its key.

    Likely players are the first players of a sort by volume. The order by volume reads every
    field of a likely player, so two players in the same place are equal: the sort of a
    permutation is the same list, duplicates included, and the players left out stand after every
    player kept. -/

namespace PinballScout

/-! ### Groups -/

/-- An aggregate counts at least one game. -/
theorem AggregateStat.games_pos {xs : List Score} {s : AggregateStat} (h : AggregateStat.ofScores xs = some s) :
    0 < s.games := by
  rw [AggregateStat.games_ofScores h, List.length_pos_iff]
  rintro rfl
  rw [AggregateStat.ofScores_nil] at h
  cases h

theorem groups_keys_sorted (rows : List (String × Score)) : ((groups rows).map (·.1)).Pairwise (· < ·) := by
  rw [groups_keys]
  exact distinctSorted_sorted _

theorem mem_groups_keys {rows : List (String × Score)} {k : String} :
    k ∈ (groups rows).map (·.1) ↔ ∃ v, (k, v) ∈ rows := by
  rw [groups_keys, mem_distinctKeys]

theorem games_pos_of_mem_groups {rows : List (String × Score)} {e : String × AggregateStat} (h : e ∈ groups rows) :
    0 < e.2.games :=
  AggregateStat.games_pos (ofScores_of_mem_groups h)

/-! ### Per-player aggregates and baselines -/

/-- Per-player aggregates are the groups, each read as a name and its aggregate. -/
theorem buildPlayerStats_perm_groups (rows : List (String × Score)) :
    ((buildPlayerStats rows).map fun ps => (ps.name, ps.stat)).Perm (groups rows) := by
  rw [buildPlayerStats]
  refine ((List.mergeSort_perm _ _).map _).trans (List.Perm.of_eq ?_)
  rw [List.map_map]
  exact List.map_id' _

/-- Per-player aggregates stand best median first, then most games, then by name, and no two in
the same place, since their names are distinct. -/
theorem buildPlayerStats_strict (rows : List (String × Score)) :
    (buildPlayerStats rows).Pairwise fun a b => b.stat.p50 < a.stat.p50 ∨ a.stat.p50 = b.stat.p50 ∧
      (b.stat.games < a.stat.games ∨ a.stat.games = b.stat.games ∧ a.name < b.name) := by
  have hdistinct := List.pairwise_map.mp (nodup_names_buildPlayerStats rows)
  refine ((buildPlayerStats_sorted rows).and hdistinct).imp fun {a b} ⟨hab, hne⟩ => ?_
  rcases (PlayerStats.before_iff a b).mp hab with hp | ⟨hp, hg | ⟨hg, hn⟩⟩
  · exact .inl hp
  · exact .inr ⟨hp, .inl hg⟩
  · exact .inr ⟨hp, .inr ⟨hg, lt_of_le_of_ne hn hne⟩⟩

theorem buildBaseline_keys (rows : List (String × Score)) (p : Percentile) :
    (buildBaseline rows p).map (·.1) = (groups rows).map (·.1) := by
  simp only [buildBaseline, List.map_map]
  rfl

/-- A baseline holds, under each key, the percentile of that key's group. -/
theorem lookup_buildBaseline_of_mem {rows : List (String × Score)} {k : String} {s : AggregateStat}
    (h : (k, s) ∈ groups rows) (p : Percentile) : (buildBaseline rows p).lookup k = some (s.value p) := by
  have hmap := lookup_map_snd (fun s : AggregateStat => s.value p) k (groups rows)
  simp only [buildBaseline] at hmap ⊢
  rw [hmap, lookup_groups, ofScores_of_mem_groups h, Option.map_some]

/-- Keyed scores group into one aggregate per distinct key, in increasing key order, each the
aggregate of the scores paired with that key: none is empty, together they count every row once,
and rows in any order group alike. Per-player aggregates are exactly these groups, best median
first, then most games, then by name, strictly; a baseline holds each group's percentile under its
key. -/
theorem grouped_aggregates (rows : List (String × Score)) :
    ((groups rows).map (·.1)).Pairwise (· < ·) ∧
    (∀ k, k ∈ (groups rows).map (·.1) ↔ ∃ v, (k, v) ∈ rows) ∧
    (∀ k s, (k, s) ∈ groups rows ↔ AggregateStat.ofScores (valuesOf rows k) = some s) ∧
    (∀ e ∈ groups rows, 0 < e.2.games) ∧
    ((groups rows).map (·.2.games)).sum = rows.length ∧
    (∀ rows', rows'.Perm rows → groups rows' = groups rows) ∧
    ((buildPlayerStats rows).map fun ps => (ps.name, ps.stat)).Perm (groups rows) ∧
    (buildPlayerStats rows).Pairwise (fun a b => b.stat.p50 < a.stat.p50 ∨ a.stat.p50 = b.stat.p50 ∧
      (b.stat.games < a.stat.games ∨ a.stat.games = b.stat.games ∧ a.name < b.name)) ∧
    ∀ p, (buildBaseline rows p).map (·.1) = (groups rows).map (·.1) ∧
      ∀ k s, (k, s) ∈ groups rows → (buildBaseline rows p).lookup k = some (s.value p) :=
  ⟨groups_keys_sorted rows, fun _ => mem_groups_keys, fun _ _ => mem_groups_iff,
    fun _ he => games_pos_of_mem_groups he, sum_games_groups rows, fun _ h => groups_perm h,
    buildPlayerStats_perm_groups rows, buildPlayerStats_strict rows,
    fun p => ⟨buildBaseline_keys rows p, fun _ _ h => lookup_buildBaseline_of_mem h p⟩⟩

/-- Five rows on two machines. -/
def sampleKeyedRows : List (String × Score) := [("TZ", 100), ("TAF", 500), ("TAF", 350), ("TZ", 150), ("TAF", 400)]

/-- The rows regrouped after a reordering give the same two groups. -/
theorem grouped_aggregates_reordered :
    [("TAF", 400), ("TZ", 150), ("TAF", 500), ("TZ", 100), ("TAF", 350)].Perm sampleKeyedRows ∧
      groups [("TAF", 400), ("TZ", 150), ("TAF", 500), ("TZ", 100), ("TAF", 350)] =
        [("TAF", ⟨3, 400, 500⟩), ("TZ", ⟨2, 100, 150⟩)] := by
  have hperm : [("TAF", 400), ("TZ", 150), ("TAF", 500), ("TZ", 100), ("TAF", 350)].Perm sampleKeyedRows := by
    decide
  have hgroups : groups sampleKeyedRows = [("TAF", ⟨3, 400, 500⟩), ("TZ", ⟨2, 100, 150⟩)] := by
    simp only [sampleKeyedRows, groups, distinctKeys, distinctSorted, AggregateStat.ofScores,
      mergeSort_eq_bounded]
    decide +kernel
  exact ⟨hperm, ((grouped_aggregates sampleKeyedRows).2.2.2.2.2.1 _ hperm).trans hgroups⟩

/-! ### The order by volume -/

namespace LikelyPlayer

/-- The place of a player in the order of `before`: more games, then the higher median, then the
smaller name first. -/
def rank (a : LikelyPlayer) : ℕᵒᵈ ×ₗ Scoreᵒᵈ ×ₗ String :=
  toLex (OrderDual.toDual a.games, toLex (OrderDual.toDual a.p50, a.name))

theorem before_iff_rank (a b : LikelyPlayer) : before a b = true ↔ a.rank ≤ b.rank := by
  simp [before, rank, Prod.Lex.toLex_le_toLex]

/-- The place of a player fixes every field of it. -/
theorem rank_injective : Function.Injective rank := by
  rintro ⟨name, games, p50⟩ ⟨name', games', p50'⟩ h
  simp only [rank, toLex_inj, Prod.mk.injEq, OrderDual.toDual_inj] at h
  obtain ⟨rfl, rfl, rfl⟩ := h
  rfl

/-- Two players that each may stand before the other are the same player. -/
theorem eq_of_before (a b : LikelyPlayer) (hab : before a b = true) (hba : before b a = true) : a = b :=
  rank_injective (le_antisymm ((before_iff_rank a b).mp hab) ((before_iff_rank b a).mp hba))

end LikelyPlayer

/-! ### Selecting likely players -/

section Select
variable (perPlayer : List (String × AggregateStat)) (limit : Nat)

/-- The candidates of per-player aggregates, sorted by volume: the likely players are its first
`limit`. -/
def byVolume : List LikelyPlayer :=
  (perPlayer.map fun (name, s) => (⟨name, s.games, s.p50⟩ : LikelyPlayer)).mergeSort LikelyPlayer.before

theorem byVolume_sorted : (byVolume perPlayer).Pairwise fun a b => LikelyPlayer.before a b = true :=
  List.pairwise_mergeSort (trans_of_key _ LikelyPlayer.before_iff_rank) (total_of_key _ LikelyPlayer.before_iff_rank) _

theorem byVolume_perm :
    (byVolume perPlayer).Perm (perPlayer.map fun e => (⟨e.1, e.2.games, e.2.p50⟩ : LikelyPlayer)) :=
  List.mergeSort_perm _ _

theorem selectLikely_eq_take : selectLikely perPlayer limit = (byVolume perPlayer).take limit := rfl

theorem length_selectLikely : (selectLikely perPlayer limit).length = min limit perPlayer.length := by
  rw [selectLikely_eq_take, List.length_take, (byVolume_perm perPlayer).length_eq, List.length_map]

theorem selectLikely_sorted : (selectLikely perPlayer limit).Pairwise fun a b => LikelyPlayer.before a b = true :=
  (byVolume_sorted perPlayer).sublist (List.take_sublist _ _)

/-- The players left out of the selection stand after every player kept. -/
theorem before_of_mem_drop {p q : LikelyPlayer} (hp : p ∈ selectLikely perPlayer limit)
    (hq : q ∈ (byVolume perPlayer).drop limit) : LikelyPlayer.before p q = true := by
  have hsorted := byVolume_sorted perPlayer
  rw [← List.take_append_drop limit (byVolume perPlayer), List.pairwise_append] at hsorted
  exact hsorted.2.2 p hp q hq

/-- Per-player aggregates in any order, repeated names included, give the same likely players:
the sort by volume of a permutation is the same list. -/
theorem selectLikely_perm {perPlayer perPlayer' : List (String × AggregateStat)} (h : perPlayer'.Perm perPlayer)
    (limit : Nat) : selectLikely perPlayer' limit = selectLikely perPlayer limit := by
  have hsame : byVolume perPlayer' = byVolume perPlayer :=
    List.Perm.eq_of_pairwise (fun a b _ _ hab hba => LikelyPlayer.eq_of_before a b hab hba)
      (byVolume_sorted perPlayer') (byVolume_sorted perPlayer)
      ((byVolume_perm perPlayer').trans ((h.map _).trans (byVolume_perm perPlayer).symm))
  rw [selectLikely_eq_take, selectLikely_eq_take, hsame]

end Select

/-- Of `n` per-player aggregates, `min limit n` likely players are kept, sorted by volume (most
games, then the higher median, then the smaller name), and each stands before every candidate left
out; per-player aggregates in any order, repeated names included, give the same likely players. -/
theorem likely_players_by_volume (perPlayer : List (String × AggregateStat)) (limit : Nat) :
    (selectLikely perPlayer limit).length = min limit perPlayer.length ∧
    (selectLikely perPlayer limit).Pairwise (fun a b => LikelyPlayer.before a b = true) ∧
    (∃ rest, (selectLikely perPlayer limit ++ rest).Perm
        (perPlayer.map fun e => (⟨e.1, e.2.games, e.2.p50⟩ : LikelyPlayer)) ∧
      ∀ p ∈ selectLikely perPlayer limit, ∀ q ∈ rest, LikelyPlayer.before p q = true) ∧
    ∀ perPlayer', perPlayer'.Perm perPlayer → selectLikely perPlayer' limit = selectLikely perPlayer limit := by
  refine ⟨length_selectLikely perPlayer limit, selectLikely_sorted perPlayer limit,
    ⟨(byVolume perPlayer).drop limit, ?_, fun p hp q hq => before_of_mem_drop perPlayer limit hp hq⟩,
    fun _ h => selectLikely_perm h limit⟩
  -- the kept players and those left out make up the sorted candidates
  rw [selectLikely_eq_take, List.take_append_drop]
  exact byVolume_perm perPlayer

/-- Three players, two of them kept, with the input given in another order. -/
theorem likely_players_by_volume_reordered :
    [("Cara", ⟨1, 700, 700⟩), ("Bob", ⟨2, 350, 400⟩), ("Alice", ⟨1, 500, 500⟩)].Perm
        ([("Alice", ⟨1, 500, 500⟩), ("Bob", ⟨2, 350, 400⟩), ("Cara", ⟨1, 700, 700⟩)] : List (String × AggregateStat)) ∧
      selectLikely [("Cara", ⟨1, 700, 700⟩), ("Bob", ⟨2, 350, 400⟩), ("Alice", ⟨1, 500, 500⟩)] 2 =
        [⟨"Bob", 2, 350⟩, ⟨"Cara", 1, 700⟩] := by
  have hperm : ([("Cara", ⟨1, 700, 700⟩), ("Bob", ⟨2, 350, 400⟩), ("Alice", ⟨1, 500, 500⟩)] :
      List (String × AggregateStat)).Perm [("Alice", ⟨1, 500, 500⟩), ("Bob", ⟨2, 350, 400⟩), ("Cara", ⟨1, 700, 700⟩)] := by
    decide
  have hsel : selectLikely [("Alice", ⟨1, 500, 500⟩), ("Bob", ⟨2, 350, 400⟩), ("Cara", ⟨1, 700, 700⟩)] 2 =
      [⟨"Bob", 2, 350⟩, ⟨"Cara", 1, 700⟩] := by
    simp only [selectLikely, mergeSort_eq_bounded]
    decide +kernel
  exact ⟨hperm, ((likely_players_by_volume _ 2).2.2.2 _ hperm).trans hsel⟩

end PinballScout
