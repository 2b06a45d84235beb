import PinballScout.Stats.Percentile

/-!
# Grouping scores and likely players

`groups` collects keyed scores into one aggregate per distinct key, in increasing key order
(keys compare by their UTF-8 bytes, which is the order of their code points).

A likely player is a player with their number of games and median on one machine. The
players most likely to play a machine are those with the most games, then the higher
median, then the smaller name: `LikelyPlayer.before` is that order and `selectLikely` keeps
the first `limit` players of a stable sort by it.
-/

namespace PinballScout

/-- The distinct strings of a list, in increasing order: the list as a sorted set. -/
def distinctSorted (xs : List String) : List String :=
  xs.eraseDups.mergeSort (fun a b => decide (a ≤ b))

theorem nodup_eraseDups {α : Type} [BEq α] [LawfulBEq α] : ∀ l : List α, l.eraseDups.Nodup
  | [] => List.nodup_nil
  | a :: as => by
    rw [List.eraseDups_cons, List.nodup_cons]
    refine ⟨fun h => ?_, nodup_eraseDups _⟩
    simp [List.mem_eraseDups] at h
termination_by l => l.length
decreasing_by exact Nat.lt_succ_of_le (List.length_filter_le _ _)

/-- The distinct keys are in strictly increasing order. -/
theorem distinctSorted_sorted (xs : List String) : (distinctSorted xs).Pairwise (· < ·) := by
  have hle : (distinctSorted xs).Pairwise fun a b => decide (a ≤ b) = true :=
    List.pairwise_mergeSort
      (fun (a b c : String) (hab : decide (a ≤ b) = true) (hbc : decide (b ≤ c) = true) =>
        decide_eq_true (String.le_trans (of_decide_eq_true hab) (of_decide_eq_true hbc)))
      (fun a b => by rcases String.le_total a b with h | h <;> simp [h]) _
  have hnodup : (distinctSorted xs).Nodup := (List.mergeSort_perm _ _).nodup_iff.mpr (nodup_eraseDups xs)
  exact (hle.and hnodup).imp fun ⟨hab, hne⟩ => Std.lt_of_le_of_ne (of_decide_eq_true hab) hne

/-- The distinct keys of some rows, in increasing order. -/
def distinctKeys {α : Type} (rows : List (String × α)) : List String :=
  distinctSorted (rows.map (·.1))

/-! ### Tables by key -/

/-- The keys of a table ascend strictly: sorted, each once, as a map from keys keeps them. -/
def KeysAscending {α : Type} (table : List (String × α)) : Prop :=
  (table.map (·.1)).Pairwise (· < ·)

instance {α : Type} (table : List (String × α)) : Decidable (KeysAscending table) :=
  inferInstanceAs (Decidable (List.Pairwise _ _))

theorem keysAscending_nil {α : Type} : KeysAscending ([] : List (String × α)) := List.Pairwise.nil

/-- Keeps the last entry of each key, in key order. -/
def lastPerKey {α : Type} (entries : List (String × α)) : List (String × α) :=
  (distinctSorted (entries.map (·.1))).filterMap fun k =>
    (entries.reverse.find? (·.1 == k)).map fun (_, v) => (k, v)

/-- The entries kept, one per key, form a table whose keys ascend. -/
theorem lastPerKey_ascending {α : Type} (entries : List (String × α)) : KeysAscending (lastPerKey entries) := by
  unfold KeysAscending lastPerKey
  rw [List.pairwise_map, List.pairwise_filterMap]
  -- each entry kept carries the key it was looked up by
  refine (distinctSorted_sorted _).imp fun hab b hb b' hb' => ?_
  simp only [Option.map_eq_some_iff] at hb hb'
  obtain ⟨_, -, rfl⟩ := hb
  obtain ⟨_, -, rfl⟩ := hb'
  exact hab

/-- The values of the rows with this key, in row order. -/
def valuesOf {α : Type} (rows : List (String × α)) (key : String) : List α :=
  (rows.filter (·.1 == key)).map (·.2)

/-- One aggregate per distinct key, in increasing key order. -/
def groups (rows : List (String × Score)) : List (String × AggregateStat) :=
  (distinctKeys rows).filterMap fun key =>
    (AggregateStat.ofScores (valuesOf rows key)).map (key, ·)

/-- A player's volume and median on one machine. -/
structure LikelyPlayer where
  name : String
  games : Nat
  p50 : Score
  deriving DecidableEq, Repr

namespace LikelyPlayer

/-- Whether `a` may stand before `b`: more games first, then the higher median, then the
smaller name. -/
def before (a b : LikelyPlayer) : Bool :=
  decide (b.games < a.games) ||
    (a.games == b.games &&
      (decide (b.p50 < a.p50) || (a.p50 == b.p50 && decide (a.name ≤ b.name))))

end LikelyPlayer

/-- The `limit` players most likely to play a machine, from each player's aggregate there. -/
def selectLikely (perPlayer : List (String × AggregateStat)) (limit : Nat) : List LikelyPlayer :=
  ((perPlayer.map fun (name, s) => (⟨name, s.games, s.p50⟩ : LikelyPlayer)).mergeSort
    LikelyPlayer.before).take limit

end PinballScout
