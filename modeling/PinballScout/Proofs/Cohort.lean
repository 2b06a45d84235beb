import PinballScout.Proofs.Grouping
import PinballScout.League.Cohort

/-! A team key resolves through the highest season among its rows, and only the rows of that season
    are read afterwards. Rows of the key from earlier seasons may therefore come and go without
    changing the season, the name or the players. Likewise the league's players are the players of
    the highest roster season, and roster rows of earlier seasons do not count. -/

namespace PinballScout

/-! ### Rows kept by a filter -/

section Kept
variable {α : Type} {p q : α → Bool} {l l' : List α}

/-- A narrower filter keeps, of the rows a wider filter keeps, what it keeps of all rows. -/
theorem filter_eq_filter_filter (hpq : ∀ x, p x = true → q x = true) (l : List α) :
    l.filter p = (l.filter q).filter p := by
  rw [List.filter_filter]
  refine List.filter_congr fun x _ => ?_
  cases hp : p x
  · simp
  · simp [hpq x hp]

/-- What a filter keeps decides what a narrower filter keeps. -/
theorem filter_eq_of_filter_eq (h : l'.filter q = l.filter q) (hpq : ∀ x, p x = true → q x = true) :
    l'.filter p = l.filter p := by
  rw [filter_eq_filter_filter hpq l', filter_eq_filter_filter hpq l, h]

/-- What a filter keeps, in any order, decides what a narrower filter keeps, in some order. -/
theorem filter_perm_of_filter_perm (h : (l'.filter q).Perm (l.filter q)) (hpq : ∀ x, p x = true → q x = true) :
    (l'.filter p).Perm (l.filter p) := by
  rw [filter_eq_filter_filter hpq l', filter_eq_filter_filter hpq l]
  exact h.filter p

theorem find?_eq_of_filter_eq (h : l'.filter q = l.filter q) (hpq : ∀ x, p x = true → q x = true) :
    l'.find? p = l.find? p := by
  rw [← List.head?_filter, ← List.head?_filter, filter_eq_of_filter_eq h hpq]

/-- Values read off the rows that a filter keeps, in whatever order, are found on both lists alike. -/
theorem mem_filter_map_iff_of_perm {β : Type} {f : α → β} (h : (l'.filter p).Perm (l.filter p)) {b : β}
    (hb : ∀ x, q x = true → f x = b → p x = true) :
    b ∈ (l'.filter q).map f ↔ b ∈ (l.filter q).map f := by
  have kept : ∀ l : List α, b ∈ (l.filter q).map f ↔ b ∈ ((l.filter p).filter q).map f := by
    intro l
    simp only [List.mem_map, List.mem_filter]
    constructor
    · rintro ⟨x, ⟨hx, hq⟩, rfl⟩
      exact ⟨x, ⟨⟨hx, hb x hq rfl⟩, hq⟩, rfl⟩
    · rintro ⟨x, ⟨⟨hx, -⟩, hq⟩, rfl⟩
      exact ⟨x, ⟨hx, hq⟩, rfl⟩
  rw [kept l', kept l]
  exact ((h.filter q).map f).mem_iff

theorem mem_filter_map_iff {β : Type} {f : α → β} (h : l'.filter p = l.filter p) {b : β}
    (hb : ∀ x, q x = true → f x = b → p x = true) :
    b ∈ (l'.filter q).map f ↔ b ∈ (l.filter q).map f :=
  mem_filter_map_iff_of_perm (List.Perm.of_eq h) hb

end Kept

/-- The highest value of a list stays the highest when only smaller values come and go. -/
theorem max?_eq_of_mem_iff {xs ys : List Nat} {S : Nat} (h : xs.max? = some S)
    (hmem : ∀ b, S ≤ b → (b ∈ ys ↔ b ∈ xs)) : ys.max? = some S := by
  rw [List.max?_eq_some_iff] at h ⊢
  refine ⟨(hmem S (Nat.le_refl S)).mpr h.1, fun b hb => ?_⟩
  by_cases hlt : b < S
  · exact Nat.le_of_lt hlt
  · exact h.2 b ((hmem b (Nat.le_of_not_lt hlt)).mp hb)

/-! ### Team keys -/

/-- Whether a team row is of `key` and from a season before `S`. -/
def TeamSeason.isOlder (key : String) (S : Nat) (t : TeamSeason) : Bool :=
  t.key == key && decide (t.season < S)

/-- Whether a roster row is of `key` and from a season before `S`. -/
def RosterMembership.isOlder (key : String) (S : Nat) (r : RosterMembership) : Bool :=
  r.teamKey == key && decide (r.season < S)

theorem resolveTeam_eq_some_iff {teams : List TeamSeason} {rosters : List RosterMembership}
    {key : String} {team : TeamCohort} :
    resolveTeam teams rosters key = some team ↔ ∃ S, latestSeason teams rosters key = some S ∧
      team = ⟨key, teamName teams key S, S,
        distinctSorted ((rosters.filter fun r => r.teamKey == key && r.season == S).map (·.player))⟩ := by
  unfold resolveTeam
  cases latestSeason teams rosters key <;> simp [eq_comm]

/-- Whether a team row is of `key` and from season `S` or a later one. -/
def TeamSeason.isRecent (key : String) (S : Nat) (t : TeamSeason) : Bool :=
  t.key == key && decide (S ≤ t.season)

/-- Whether a roster row is of `key` and from season `S` or a later one. -/
def RosterMembership.isRecent (key : String) (S : Nat) (r : RosterMembership) : Bool :=
  r.teamKey == key && decide (S ≤ r.season)

section Resolve
variable {teams teams' : List TeamSeason} {rosters rosters' : List RosterMembership} {key : String}
  {S : Nat}

/-- A team key has a latest season exactly when some team row or roster row has the key. -/
theorem latestSeason_eq_none_iff :
    latestSeason teams rosters key = none ↔ (∀ t ∈ teams, t.key ≠ key) ∧ ∀ r ∈ rosters, r.teamKey ≠ key := by
  simp [latestSeason, List.filter_eq_nil_iff]

theorem resolveTeam_eq_none_iff : resolveTeam teams rosters key = none ↔ latestSeason teams rosters key = none := by
  unfold resolveTeam
  cases latestSeason teams rosters key <;> simp

/-- The latest season of a team key is the season of one of its rows, and no row of it is later. -/
theorem latestSeason_eq_some_iff :
    latestSeason teams rosters key = some S ↔
      ((∃ t ∈ teams, t.key = key ∧ t.season = S) ∨ ∃ r ∈ rosters, r.teamKey = key ∧ r.season = S) ∧
      (∀ t ∈ teams, t.key = key → t.season ≤ S) ∧ ∀ r ∈ rosters, r.teamKey = key → r.season ≤ S := by
  simp only [latestSeason, List.max?_eq_some_iff, List.mem_append, List.mem_map, List.mem_filter, beq_iff_eq]
  constructor
  · rintro ⟨hmem, hmax⟩
    refine ⟨?_, fun t ht hk => hmax _ (.inl ⟨t, ⟨ht, hk⟩, rfl⟩), fun r hr hk => hmax _ (.inr ⟨r, ⟨hr, hk⟩, rfl⟩)⟩
    rcases hmem with ⟨t, ⟨ht, hk⟩, hs⟩ | ⟨r, ⟨hr, hk⟩, hs⟩
    · exact .inl ⟨t, ht, hk, hs⟩
    · exact .inr ⟨r, hr, hk, hs⟩
  · rintro ⟨hmem, hteams, hrosters⟩
    refine ⟨?_, ?_⟩
    · rcases hmem with ⟨t, ht, hk, hs⟩ | ⟨r, hr, hk, hs⟩
      · exact .inl ⟨t, ⟨ht, hk⟩, hs⟩
      · exact .inr ⟨r, ⟨hr, hk⟩, hs⟩
    · rintro b (⟨t, ⟨ht, hk⟩, rfl⟩ | ⟨r, ⟨hr, hk⟩, rfl⟩)
      · exact hteams t ht hk
      · exact hrosters r hr hk

end Resolve

/-- The name of a team key in a season is the name of the first team row of that key and season,
or the key itself when there is none. -/
theorem teamName_spec (teams : List TeamSeason) (key : String) (S : Nat) :
    (∃ pre t post, teams = pre ++ t :: post ∧ t.key = key ∧ t.season = S ∧
      (∀ u ∈ pre, ¬(u.key = key ∧ u.season = S)) ∧ teamName teams key S = t.name) ∨
    ((∀ t ∈ teams, ¬(t.key = key ∧ t.season = S)) ∧ teamName teams key S = key) := by
  unfold teamName
  cases h : teams.find? (fun t => t.key == key && t.season == S) with
  | none =>
    refine .inr ⟨fun t ht => ?_, rfl⟩
    simpa using List.find?_eq_none.mp h t ht
  | some t =>
    obtain ⟨hp, pre, post, rfl, hpre⟩ := List.find?_eq_some_iff_append.mp h
    simp only [Bool.and_eq_true, beq_iff_eq] at hp
    refine .inl ⟨pre, t, post, rfl, hp.1, hp.2, fun u hu ⟨hk, hs⟩ => ?_, rfl⟩
    simpa [hk, hs] using hpre u hu

/-- What a team key resolved to on team rows and roster rows: the key itself, the highest season of
any row of the key, the players of the key's roster rows in that season, each once and in
increasing order, and the name of the first team row of the key in that season, else the key. -/
structure TeamCohort.ResolvedFrom (teams : List TeamSeason) (rosters : List RosterMembership) (key : String)
    (team : TeamCohort) : Prop where
  key_eq : team.teamKey = key
  season_used : (∃ t ∈ teams, t.key = key ∧ t.season = team.season) ∨
    ∃ r ∈ rosters, r.teamKey = key ∧ r.season = team.season
  season_max_teams : ∀ t ∈ teams, t.key = key → t.season ≤ team.season
  season_max_rosters : ∀ r ∈ rosters, r.teamKey = key → r.season ≤ team.season
  players_sorted : team.players.Pairwise (· < ·)
  mem_players : ∀ p, p ∈ team.players ↔ ∃ r ∈ rosters, r.teamKey = key ∧ r.season = team.season ∧ r.player = p
  name : (∃ pre t post, teams = pre ++ t :: post ∧ t.key = key ∧ t.season = team.season ∧
      (∀ u ∈ pre, ¬(u.key = key ∧ u.season = team.season)) ∧ team.teamName = t.name) ∨
    ((∀ t ∈ teams, ¬(t.key = key ∧ t.season = team.season)) ∧ team.teamName = key)

section Recent
variable {teams teams' : List TeamSeason} {rosters rosters' : List RosterMembership} {key : String}
  {S : Nat}

theorem resolvedFrom_of_resolveTeam {team : TeamCohort} (h : resolveTeam teams rosters key = some team) :
    team.ResolvedFrom teams rosters key := by
  obtain ⟨S, hS, rfl⟩ := resolveTeam_eq_some_iff.mp h
  obtain ⟨hused, hteams, hrosters⟩ := latestSeason_eq_some_iff.mp hS
  exact {
    key_eq := rfl
    season_used := hused
    season_max_teams := hteams
    season_max_rosters := hrosters
    players_sorted := distinctSorted_sorted _
    mem_players := fun p => by simp [and_assoc]
    name := teamName_spec teams key S }

/-- The rows of a team key from its latest season on, in any order, fix that season. -/
theorem latestSeason_congr (h : latestSeason teams rosters key = some S)
    (ht : (teams'.filter (TeamSeason.isRecent key S)).Perm (teams.filter (TeamSeason.isRecent key S)))
    (hr : (rosters'.filter (RosterMembership.isRecent key S)).Perm (rosters.filter (RosterMembership.isRecent key S))) :
    latestSeason teams' rosters' key = some S := by
  refine max?_eq_of_mem_iff h fun b hb => ?_
  simp only [List.mem_append]
  refine or_congr (mem_filter_map_iff_of_perm ht fun t hk hs => ?_) (mem_filter_map_iff_of_perm hr fun r hk hs => ?_)
  · simp_all [TeamSeason.isRecent]
  · simp_all [RosterMembership.isRecent]

/-- A team key resolves alike on rows that agree on its rows from its resolved season on: the team
rows in the same order, the roster rows in any order. -/
theorem resolveTeam_congr {team : TeamCohort} (h : resolveTeam teams rosters key = some team)
    (ht : teams'.filter (TeamSeason.isRecent key team.season) = teams.filter (TeamSeason.isRecent key team.season))
    (hr : (rosters'.filter (RosterMembership.isRecent key team.season)).Perm
      (rosters.filter (RosterMembership.isRecent key team.season))) :
    resolveTeam teams' rosters' key = some team := by
  obtain ⟨S, hS, rfl⟩ := resolveTeam_eq_some_iff.mp h
  have hname : teamName teams' key S = teamName teams key S := by
    unfold teamName
    rw [find?_eq_of_filter_eq ht fun t => by simp_all [TeamSeason.isRecent]]
  -- the season's roster rows are the same rows, so the same players
  have hplayers : distinctSorted ((rosters'.filter fun r => r.teamKey == key && r.season == S).map (·.player)) =
      distinctSorted ((rosters.filter fun r => r.teamKey == key && r.season == S).map (·.player)) :=
    distinctSorted_congr fun x =>
      ((filter_perm_of_filter_perm hr fun r => by simp_all [RosterMembership.isRecent]).map _).mem_iff
  exact resolveTeam_eq_some_iff.mpr ⟨S, latestSeason_congr hS (List.Perm.of_eq ht) hr, by rw [hname, hplayers]⟩

/-- Rows of a team key from seasons before its latest one do not change what it resolves to. -/
theorem resolveTeam_of_older {team : TeamCohort} (h : resolveTeam teams rosters key = some team)
    (ht : teams'.filter (!·.isOlder key team.season) = teams.filter (!·.isOlder key team.season))
    (hr : rosters'.filter (!·.isOlder key team.season) = rosters.filter (!·.isOlder key team.season)) :
    resolveTeam teams' rosters' key = some team :=
  resolveTeam_congr h (filter_eq_of_filter_eq ht fun t => by simp_all [TeamSeason.isRecent, TeamSeason.isOlder])
    (List.Perm.of_eq (filter_eq_of_filter_eq hr fun r => by
      simp_all [RosterMembership.isRecent, RosterMembership.isOlder]))

end Recent

/-- A team key resolves exactly when some team row or roster row has it, to the players of its
roster rows in the highest season of any of its rows, named by the first team row of that season
or else by the key. Rows of other keys, rows of the key from earlier seasons and the order of the
roster rows change nothing. -/
theorem team_resolution (teams : List TeamSeason) (rosters : List RosterMembership) (key : String) :
    (resolveTeam teams rosters key = none ↔ (∀ t ∈ teams, t.key ≠ key) ∧ ∀ r ∈ rosters, r.teamKey ≠ key) ∧
    ∀ team, resolveTeam teams rosters key = some team → team.ResolvedFrom teams rosters key ∧
      ∀ teams' rosters',
        teams'.filter (TeamSeason.isRecent key team.season) = teams.filter (TeamSeason.isRecent key team.season) →
        (rosters'.filter (RosterMembership.isRecent key team.season)).Perm
          (rosters.filter (RosterMembership.isRecent key team.season)) →
        resolveTeam teams' rosters' key = some team :=
  ⟨resolveTeam_eq_none_iff.trans latestSeason_eq_none_iff,
    fun _ h => ⟨resolvedFrom_of_resolveTeam h, fun _ _ ht hr => resolveTeam_congr h ht hr⟩⟩

/-- A key reused across seasons, with team and roster rows of both seasons. -/
def reusedKeyTeams : List TeamSeason :=
  [⟨"TTT", 10, "Old Trashers", none⟩, ⟨"TTT", 23, "The Trailer Trashers", none⟩]

def reusedKeyRosters : List RosterMembership :=
  [⟨"Zed", "TTT", 10⟩, ⟨"Yolanda", "TTT", 10⟩, ⟨"Alice", "TTT", 23⟩, ⟨"Bob", "TTT", 23⟩]

/-- The key resolves to its season-23 roster; dropping the season-10 rows, adding another team's
rows and reversing the roster rows leaves that unchanged. -/
theorem team_resolution_reused_key :
    resolveTeam reusedKeyTeams reusedKeyRosters "TTT" = some ⟨"TTT", "The Trailer Trashers", 23, ["Alice", "Bob"]⟩ ∧
      resolveTeam [⟨"KNR", 23, "Knight Riders", none⟩, ⟨"TTT", 23, "The Trailer Trashers", none⟩]
        [⟨"Carol", "KNR", 23⟩, ⟨"Bob", "TTT", 23⟩, ⟨"Alice", "TTT", 23⟩] "TTT" =
        some ⟨"TTT", "The Trailer Trashers", 23, ["Alice", "Bob"]⟩ := by
  have h : resolveTeam reusedKeyTeams reusedKeyRosters "TTT" = some ⟨"TTT", "The Trailer Trashers", 23, ["Alice", "Bob"]⟩ := by
    simp only [reusedKeyTeams, reusedKeyRosters, resolveTeam, distinctSorted, mergeSort_eq_bounded]
    decide +kernel
  refine ⟨h, (team_resolution _ _ _).2 _ h |>.2 _ _ ?_ ?_⟩
  · decide
  · decide

/-! ### The league's players -/

/-- The league's players are those with a roster row from the highest season of any roster row. -/
theorem mem_leaguePlayers {rosters : List RosterMembership} {x : String} :
    x ∈ leaguePlayers rosters ↔ ∃ r ∈ rosters, r.player = x ∧ ∀ r' ∈ rosters, r'.season ≤ r.season := by
  unfold leaguePlayers currentSeason
  cases hC : (rosters.map (·.season)).max? with
  | none =>
    simp only [List.max?_eq_none_iff, List.map_eq_nil_iff] at hC
    simp [hC]
  | some C =>
    obtain ⟨⟨r₀, hr₀, hC₀⟩, hmax⟩ : (∃ r ∈ rosters, r.season = C) ∧ ∀ r ∈ rosters, r.season ≤ C := by
      simpa using List.max?_eq_some_iff.mp hC
    simp only [mem_distinctSorted, List.mem_map, List.mem_filter, beq_iff_eq]
    constructor
    · rintro ⟨r, ⟨hr, hs⟩, rfl⟩
      exact ⟨r, hr, rfl, fun r' hr' => hs ▸ hmax r' hr'⟩
    · rintro ⟨r, hr, rfl, hge⟩
      exact ⟨r, ⟨hr, Nat.le_antisymm (hmax r hr) (hC₀ ▸ hge r₀ hr₀)⟩, rfl⟩

/-- Roster rows from seasons before the current one do not change the league's players. -/
theorem leaguePlayers_of_older {rosters rosters' : List RosterMembership} {C : Nat}
    (hC : currentSeason rosters = some C)
    (h : rosters'.filter (C ≤ ·.season) = rosters.filter (C ≤ ·.season)) :
    leaguePlayers rosters' = leaguePlayers rosters := by
  have hC' : currentSeason rosters' = some C := by
    refine max?_eq_of_mem_iff hC fun b hb => ?_
    have kept : b ∈ (rosters'.filter fun _ => true).map (·.season) ↔
        b ∈ (rosters.filter fun _ => true).map (·.season) :=
      mem_filter_map_iff h fun r _ hs => by simp [hs, hb]
    simpa using kept
  have hrows : rosters'.filter (·.season == C) = rosters.filter (·.season == C) :=
    filter_eq_of_filter_eq h fun r => by simp_all
  simp only [leaguePlayers, hC, hC', hrows]

end PinballScout
