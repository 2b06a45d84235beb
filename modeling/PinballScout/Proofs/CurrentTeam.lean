import PinballScout.Proofs.Cohort

/-! A player's current team. Scanning the player's roster rows, a row takes the place of the one
    kept so far when its season is higher, or equal with a key no greater. The row kept therefore
    stands at least as high as every row scanned: of a season no lower, and within its season of a
    key no greater. Only one row of the player stands so, since two rows of one player with the same
    season and key are the same row. The current team is thus the lowest key of the player's highest
    season, and it depends only on which rows there are, not on their order or their repeats. -/

namespace PinballScout

namespace RosterMembership

/-- Row `b` stands at least as high as row `r` for a player's current team: a later season, or the
same season and a key no greater. -/
def Dominates (b r : RosterMembership) : Prop :=
  r.season < b.season ∨ (r.season = b.season ∧ b.teamKey ≤ r.teamKey)

section Dominates
variable {a b r : RosterMembership}

theorem dominates_refl (r : RosterMembership) : r.Dominates r := .inr ⟨rfl, le_refl _⟩

theorem Dominates.trans (hab : a.Dominates b) (hbr : b.Dominates r) : a.Dominates r := by
  rcases hab with hlt | ⟨hs, hk⟩ <;> rcases hbr with hlt' | ⟨hs', hk'⟩
  · exact .inl (lt_trans hlt' hlt)
  · exact .inl (hs' ▸ hlt)
  · exact .inl (hs ▸ hlt')
  · exact .inr ⟨hs'.trans hs, le_trans hk hk'⟩

/-- A row that takes the place of the kept one stands at least as high. -/
theorem dominates_of_supersedes (h : r.supersedes b = true) : r.Dominates b := by
  simp only [supersedes, Bool.or_eq_true, decide_eq_true_eq, Bool.and_eq_true, beq_iff_eq] at h
  rcases h with hlt | ⟨hs, hk⟩
  · exact .inl hlt
  · exact .inr ⟨hs.symm, hk⟩

/-- A row that does not take the place of the kept one stands no higher. -/
theorem dominates_of_not_supersedes (h : r.supersedes b = false) : b.Dominates r := by
  simp only [supersedes, Bool.or_eq_false_iff, decide_eq_false_iff_not, Bool.and_eq_false_iff, beq_eq_false_iff_ne,
    not_lt] at h
  obtain ⟨hle, hs | hk⟩ := h
  · exact .inl (lt_of_le_of_ne hle hs)
  · rcases lt_or_eq_of_le hle with hlt | heq
    · exact .inl hlt
    · exact .inr ⟨heq, le_of_lt (lt_of_not_ge hk)⟩

/-- Two rows of one player that each stand at least as high as the other are the same row. -/
theorem eq_of_dominates (hab : a.Dominates b) (hba : b.Dominates a) (hp : a.player = b.player) : a = b := by
  obtain ⟨pa, ka, sa⟩ := a
  obtain ⟨pb, kb, sb⟩ := b
  simp only [Dominates] at hab hba hp ⊢
  rcases hab with hlt | ⟨hs, hk⟩
  · rcases hba with hlt' | ⟨hs', -⟩ <;> omega
  · rcases hba with hlt' | ⟨-, hk'⟩
    · omega
    · rw [hp, hs, le_antisymm hk hk']

end Dominates

end RosterMembership

/-! ### Scanning the rows -/

/-- What the scan has kept after the rows `seen`: nothing when it has seen none, else one of them that
stands at least as high as each. -/
def KeepsHighest : Option RosterMembership → List RosterMembership → Prop
  | none, seen => seen = []
  | some b, seen => b ∈ seen ∧ ∀ r ∈ seen, b.Dominates r

section Scan
variable {step : Option RosterMembership → RosterMembership → Option RosterMembership}
  (hnone : ∀ r, step none r = some r)
  (hsome : ∀ b r, step (some b) r = if r.supersedes b then some r else some b)
include hnone hsome

theorem keepsHighest_step {acc : Option RosterMembership} {seen : List RosterMembership} (h : KeepsHighest acc seen)
    (r : RosterMembership) : KeepsHighest (step acc r) (seen ++ [r]) := by
  cases acc with
  | none =>
    cases (h : seen = [])
    rw [hnone]
    exact ⟨List.mem_singleton_self r, fun x hx => List.mem_singleton.mp hx ▸ RosterMembership.dominates_refl r⟩
  | some b =>
    obtain ⟨hb, hhigh⟩ := h
    rw [hsome]
    cases hs : r.supersedes b
    · refine ⟨List.mem_append_left _ hb, fun x hx => ?_⟩
      rcases List.mem_append.mp hx with hx | hx
      · exact hhigh x hx
      · exact List.mem_singleton.mp hx ▸ RosterMembership.dominates_of_not_supersedes hs
    · refine ⟨List.mem_append_right _ (List.mem_singleton_self r), fun x hx => ?_⟩
      rcases List.mem_append.mp hx with hx | hx
      · exact (RosterMembership.dominates_of_supersedes hs).trans (hhigh x hx)
      · exact List.mem_singleton.mp hx ▸ RosterMembership.dominates_refl r

theorem keepsHighest_foldl (rows : List RosterMembership) :
    ∀ {acc : Option RosterMembership} {seen : List RosterMembership}, KeepsHighest acc seen →
      KeepsHighest (rows.foldl step acc) (seen ++ rows) := by
  induction rows with
  | nil => intro acc seen h; simpa using h
  | cons r rest ih =>
    intro acc seen h
    simpa using ih (keepsHighest_step hnone hsome h r)

end Scan

section Latest
variable {rosters rosters' : List RosterMembership} {player : String} {b : RosterMembership}

theorem keepsHighest_latestMembership (rosters : List RosterMembership) (player : String) :
    KeepsHighest (latestMembership rosters player) (rosters.filter (·.player == player)) := by
  unfold latestMembership
  simpa using keepsHighest_foldl (fun r => rfl) (fun b r => rfl) (rosters.filter (·.player == player))
    (show KeepsHighest none [] from rfl)

theorem latestMembership_eq_none_iff : latestMembership rosters player = none ↔ ∀ r ∈ rosters, r.player ≠ player := by
  have hkeep := keepsHighest_latestMembership rosters player
  constructor
  · intro h
    rw [h] at hkeep
    simpa [KeepsHighest, List.filter_eq_nil_iff] using hkeep
  · intro h
    cases hl : latestMembership rosters player with
    | none => rfl
    | some b =>
      rw [hl] at hkeep
      have hb := List.mem_filter.mp hkeep.1
      exact absurd (beq_iff_eq.mp hb.2) (h b hb.1)

/-- The row kept for a player is the one row of the player that stands at least as high as each. -/
theorem latestMembership_eq_some_iff :
    latestMembership rosters player = some b ↔
      b ∈ rosters ∧ b.player = player ∧ ∀ r ∈ rosters, r.player = player → b.Dominates r := by
  have hkeep := keepsHighest_latestMembership rosters player
  constructor
  · intro h
    rw [h] at hkeep
    obtain ⟨hb, hhigh⟩ := hkeep
    obtain ⟨hb, hp⟩ := List.mem_filter.mp hb
    exact ⟨hb, beq_iff_eq.mp hp, fun r hr hrp => hhigh r (List.mem_filter.mpr ⟨hr, beq_iff_eq.mpr hrp⟩)⟩
  · rintro ⟨hb, hp, hhigh⟩
    cases hl : latestMembership rosters player with
    | none => exact absurd hp (latestMembership_eq_none_iff.mp hl b hb)
    | some b' =>
      rw [hl] at hkeep
      obtain ⟨hb', hhigh'⟩ := hkeep
      obtain ⟨hb', hp'⟩ := List.mem_filter.mp hb'
      have hp' := beq_iff_eq.mp hp'
      -- both rows stand at least as high as the other
      exact congrArg some (RosterMembership.eq_of_dominates (hhigh' b (List.mem_filter.mpr ⟨hb, beq_iff_eq.mpr hp⟩))
        (hhigh b' hb' hp') (hp'.trans hp.symm))

/-- The row kept depends only on which rows there are. -/
theorem latestMembership_congr (h : ∀ r, r ∈ rosters' ↔ r ∈ rosters) :
    latestMembership rosters' player = latestMembership rosters player := by
  cases hl : latestMembership rosters player with
  | none => exact latestMembership_eq_none_iff.mpr fun r hr => latestMembership_eq_none_iff.mp hl r ((h r).mp hr)
  | some b =>
    obtain ⟨hb, hp, hhigh⟩ := latestMembership_eq_some_iff.mp hl
    exact latestMembership_eq_some_iff.mpr ⟨(h b).mpr hb, hp, fun r hr => hhigh r ((h r).mp hr)⟩

end Latest

/-! ### The current team -/

/-- A player's current membership: a row of the player on `key` in `season`, the highest season of
the player's rows, and `key` the lowest key of the player's rows of that season. -/
structure CurrentMembership (rosters : List RosterMembership) (player : String) (season : Nat) (key : String) :
    Prop where
  rostered : ⟨player, key, season⟩ ∈ rosters
  season_max : ∀ r ∈ rosters, r.player = player → r.season ≤ season
  key_min : ∀ r ∈ rosters, r.player = player → r.season = season → key ≤ r.teamKey

theorem latestMembership_eq_some_iff_current {rosters : List RosterMembership} {player key : String} {season : Nat} :
    latestMembership rosters player = some ⟨player, key, season⟩ ↔ CurrentMembership rosters player season key := by
  rw [latestMembership_eq_some_iff]
  constructor
  · rintro ⟨hb, -, hhigh⟩
    refine ⟨hb, fun r hr hp => ?_, fun r hr hp hs => ?_⟩
    · rcases hhigh r hr hp with hlt | ⟨hs, -⟩
      · exact le_of_lt hlt
      · exact le_of_eq hs
    · rcases hhigh r hr hp with hlt | ⟨-, hk⟩
      · exact absurd hs (ne_of_lt hlt)
      · exact hk
  · intro hc
    refine ⟨hc.rostered, rfl, fun r hr hp => ?_⟩
    rcases lt_or_eq_of_le (hc.season_max r hr hp) with hlt | heq
    · exact .inl hlt
    · exact .inr ⟨heq, hc.key_min r hr hp heq⟩

/-- A player has no current team exactly when no roster row has the player. Otherwise the current
team's key is the lowest key among the player's rows of the player's highest season, named as in
that season. The team depends only on which rows there are: reordering the rows, or repeating
some, changes nothing. -/
theorem current_team (teams : List TeamSeason) (rosters : List RosterMembership) (player : String) :
    (playerTeam teams rosters player = none ↔ ∀ r ∈ rosters, r.player ≠ player) ∧
    (∀ team, playerTeam teams rosters player = some team ↔
      ∃ season, CurrentMembership rosters player season team.teamKey ∧
        team.teamName = teamName teams team.teamKey season) ∧
    ∀ rosters' : List RosterMembership, (∀ r, r ∈ rosters' ↔ r ∈ rosters) →
      playerTeam teams rosters' player = playerTeam teams rosters player := by
  refine ⟨?_, fun team => ?_, fun rosters' h => ?_⟩
  · rw [playerTeam, Option.map_eq_none_iff, latestMembership_eq_none_iff]
  · rw [playerTeam, Option.map_eq_some_iff]
    constructor
    · rintro ⟨r, hr, rfl⟩
      obtain ⟨-, hp, -⟩ := latestMembership_eq_some_iff.mp hr
      obtain ⟨p, key, season⟩ := r
      cases (hp : p = player)
      exact ⟨season, latestMembership_eq_some_iff_current.mp hr, rfl⟩
    · rintro ⟨season, hc, hname⟩
      refine ⟨⟨player, team.teamKey, season⟩, latestMembership_eq_some_iff_current.mpr hc, ?_⟩
      obtain ⟨key, name⟩ := team
      exact congrArg (PlayerTeam.mk key) hname.symm
  · rw [playerTeam, playerTeam, latestMembership_congr h]

/-- Two rows of one player in one season: the lower key is the current team, in whichever order
the rows come and however often. -/
theorem current_team_lowest_key :
    (∀ r : RosterMembership, r ∈ [⟨"Dual", "AAA", 23⟩, ⟨"Dual", "ZZZ", 23⟩, ⟨"Dual", "AAA", 23⟩] ↔
      r ∈ [⟨"Dual", "ZZZ", 23⟩, ⟨"Dual", "AAA", 23⟩]) ∧
    playerTeam [] [⟨"Dual", "AAA", 23⟩, ⟨"Dual", "ZZZ", 23⟩, ⟨"Dual", "AAA", 23⟩] "Dual" =
      playerTeam [] [⟨"Dual", "ZZZ", 23⟩, ⟨"Dual", "AAA", 23⟩] "Dual" ∧
    playerTeam [] [⟨"Dual", "ZZZ", 23⟩, ⟨"Dual", "AAA", 23⟩] "Dual" = some ⟨"AAA", "AAA"⟩ := by
  have hsame : ∀ r : RosterMembership, r ∈ [⟨"Dual", "AAA", 23⟩, ⟨"Dual", "ZZZ", 23⟩, ⟨"Dual", "AAA", 23⟩] ↔
      r ∈ [⟨"Dual", "ZZZ", 23⟩, ⟨"Dual", "AAA", 23⟩] := by
    intro r
    simp only [List.mem_cons, List.not_mem_nil, or_false]
    tauto
  refine ⟨hsame, (current_team [] _ "Dual").2.2 _ hsame, ?_⟩
  refine ((current_team [] _ "Dual").2.1 _).mpr ⟨23, ⟨by simp, fun r hr _ => ?_, fun r hr _ _ => ?_⟩, rfl⟩
  · simp only [List.mem_cons, List.not_mem_nil, or_false] at hr
    rcases hr with rfl | rfl <;> decide
  · simp only [List.mem_cons, List.not_mem_nil, or_false] at hr
    rcases hr with rfl | rfl <;> decide

end PinballScout
