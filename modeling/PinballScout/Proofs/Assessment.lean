import Mathlib.Data.Prod.Lex
import PinballScout.Proofs.Aggregation
import PinballScout.Analysis.Recommend

/-! Our best player against theirs. On a snapshot, a cohort's per-player aggregates on a machine
    come out best median first, then most games, then by name, and no name repeats; so the first of
    them is the cohort's best player there, and there is none exactly when no player of the cohort
    has a score on the machine (at the venue, when one is given). An assessment compares the two
    best players' medians. With a margin that is not negative, a gap above the margin is a strong
    pick, one below its negation a weak pick, and the rest contested; exchanging the two teams
    exchanges the players, negates the gap and exchanges strong and weak. -/

namespace PinballScout

/-! ### Verdicts from the other side -/

/-- The verdict of the other team's pick: strong and weak exchanged. -/
def Verdict.swap : Verdict → Verdict
  | .strong => .weak
  | .weak => .strong
  | .contested => .contested

/-- The assessment of the other team: the players exchanged and the gap negated. -/
def Assessment.mirror (a : Assessment) : Assessment := ⟨a.theirBest, a.ourBest, -a.diff, a.verdict.swap⟩

section Margin
variable {margin : Score} (hm : 0 ≤ margin) (diff : Score)
include hm

theorem Verdict.ofDiff_spec :
    (Verdict.ofDiff diff margin = .strong ↔ margin < diff) ∧
      (Verdict.ofDiff diff margin = .weak ↔ diff < -margin) ∧
      (Verdict.ofDiff diff margin = .contested ↔ -margin ≤ diff ∧ diff ≤ margin) := by
  unfold Verdict.ofDiff
  split_ifs with hs hw <;> simp <;> unfold Score at * <;> omega

theorem Verdict.ofDiff_neg : Verdict.ofDiff (-diff) margin = (Verdict.ofDiff diff margin).swap := by
  unfold Verdict.ofDiff
  unfold Score at *
  -- a margin that is not negative keeps the strong and the weak region apart
  split_ifs <;> simp only [Verdict.swap] <;> omega

end Margin

/-! ### The gap on 64-bit words -/

/-- A gap that fits both ways: it and its negation are 64-bit scores. -/
def Score.FitsBothWays (d : Score) : Prop := -scoreLimit < d ∧ d < scoreLimit

theorem Score.checkedSub_of_fits {a b : Score} (h : -scoreLimit ≤ a - b ∧ a - b < scoreLimit) :
    Score.checkedSub a b = .ok (a - b) := if_pos h

theorem Score.checkedSub_of_not_fits {a b : Score} (h : ¬(-scoreLimit ≤ a - b ∧ a - b < scoreLimit)) :
    Score.checkedSub a b = .error "attempt to subtract with overflow" := if_neg h

theorem assess_nil_left (theirs : List PlayerStats) (margin : Score) : assess [] theirs margin = .ok none := by
  cases theirs <;> rfl

theorem assess_nil_right (ours : List PlayerStats) (margin : Score) : assess ours [] margin = .ok none := by
  cases ours <;> rfl

/-- With a gap that fits, the assessment compares the two first players by it. -/
theorem assess_cons_of_fits {o t : PlayerStats} {os ts : List PlayerStats} {margin : Score}
    (h : -scoreLimit ≤ o.stat.p50 - t.stat.p50 ∧ o.stat.p50 - t.stat.p50 < scoreLimit) :
    assess (o :: os) (t :: ts) margin =
      .ok (some ⟨o.name, t.name, o.stat.p50 - t.stat.p50, Verdict.ofDiff (o.stat.p50 - t.stat.p50) margin⟩) := by
  simp only [assess, Score.checkedSub_of_fits h]
  rfl

/-- A gap that does not fit stops the assessment with the overflow. -/
theorem assess_cons_of_not_fits {o t : PlayerStats} {os ts : List PlayerStats} {margin : Score}
    (h : ¬(-scoreLimit ≤ o.stat.p50 - t.stat.p50 ∧ o.stat.p50 - t.stat.p50 < scoreLimit)) :
    assess (o :: os) (t :: ts) margin = .error "attempt to subtract with overflow" := by
  simp only [assess, Score.checkedSub_of_not_fits h]
  rfl

theorem assess_eq_ok_none_iff {ours theirs : List PlayerStats} {margin : Score} :
    assess ours theirs margin = .ok none ↔ ours = [] ∨ theirs = [] := by
  cases ours with
  | nil => simp [assess_nil_left]
  | cons o _ =>
    cases theirs with
    | nil => simp [assess_nil_right]
    | cons t _ =>
      by_cases h : -scoreLimit ≤ o.stat.p50 - t.stat.p50 ∧ o.stat.p50 - t.stat.p50 < scoreLimit
      · simp [assess_cons_of_fits h]
      · simp [assess_cons_of_not_fits h]

/-- Where the gap between the two first players fits, the assessment runs. -/
theorem exists_assess_eq_ok {ours theirs : List PlayerStats} (margin : Score)
    (hfit : ∀ o ∈ ours.head?, ∀ t ∈ theirs.head?, Score.FitsBothWays (o.stat.p50 - t.stat.p50)) :
    ∃ a, assess ours theirs margin = .ok a := by
  cases ours with
  | nil => exact ⟨none, assess_nil_left _ _⟩
  | cons o _ =>
    cases theirs with
    | nil => exact ⟨none, assess_nil_right _ _⟩
    | cons t _ =>
      have hd := hfit o rfl t rfl
      exact ⟨_, assess_cons_of_fits ⟨hd.1.le, hd.2⟩⟩

/-- An assessment compares the two first players by the gap between their medians. -/
theorem assess_eq_ok_some {ours theirs : List PlayerStats} {margin : Score} {a : Assessment}
    (h : assess ours theirs margin = .ok (some a)) :
    ∃ o os t ts, ours = o :: os ∧ theirs = t :: ts ∧
      a = ⟨o.name, t.name, o.stat.p50 - t.stat.p50, Verdict.ofDiff (o.stat.p50 - t.stat.p50) margin⟩ := by
  cases ours with
  | nil => rw [assess_nil_left] at h; cases h
  | cons o os =>
    cases theirs with
    | nil => rw [assess_nil_right] at h; cases h
    | cons t ts =>
      by_cases hd : -scoreLimit ≤ o.stat.p50 - t.stat.p50 ∧ o.stat.p50 - t.stat.p50 < scoreLimit
      · rw [assess_cons_of_fits hd] at h
        cases h
        exact ⟨o, os, t, ts, rfl, rfl, rfl⟩
      · rw [assess_cons_of_not_fits hd] at h
        cases h

/-- Where the gap between the two first players fits both ways, assessing from the other side
gives the mirror assessment. -/
theorem assess_swap {margin : Score} (hm : 0 ≤ margin) {ours theirs : List PlayerStats}
    (hfit : ∀ o ∈ ours.head?, ∀ t ∈ theirs.head?, Score.FitsBothWays (o.stat.p50 - t.stat.p50)) :
    assess theirs ours margin = (assess ours theirs margin).map (Option.map Assessment.mirror) := by
  cases ours with
  | nil => rw [assess_nil_left, assess_nil_right]; rfl
  | cons o _ =>
    cases theirs with
    | nil => rw [assess_nil_left, assess_nil_right]; rfl
    | cons t _ =>
      have hd := hfit o rfl t rfl
      unfold Score.FitsBothWays at hd
      have hd' : -scoreLimit ≤ t.stat.p50 - o.stat.p50 ∧ t.stat.p50 - o.stat.p50 < scoreLimit := by
        unfold Score at hd ⊢
        omega
      have hneg : t.stat.p50 - o.stat.p50 = -(o.stat.p50 - t.stat.p50) := (neg_sub _ _).symm
      rw [assess_cons_of_fits ⟨hd.1.le, hd.2⟩, assess_cons_of_fits hd']
      simp only [Except.map, Option.map_some, Assessment.mirror]
      rw [hneg, Verdict.ofDiff_neg hm]

/-! ### Per-player aggregates -/

namespace PlayerStats

theorem before_iff (a b : PlayerStats) :
    before a b = true ↔ b.stat.p50 < a.stat.p50 ∨ a.stat.p50 = b.stat.p50 ∧
      (b.stat.games < a.stat.games ∨ a.stat.games = b.stat.games ∧ a.name ≤ b.name) := by
  simp [before]

/-- The place of an aggregate in the order of `before`: the higher median, then the more games,
then the smaller name first. -/
def rank (a : PlayerStats) : Scoreᵒᵈ ×ₗ ℕᵒᵈ ×ₗ String :=
  toLex (OrderDual.toDual a.stat.p50, toLex (OrderDual.toDual a.stat.games, a.name))

theorem before_iff_rank (a b : PlayerStats) : before a b = true ↔ a.rank ≤ b.rank := by
  simp [before, rank, Prod.Lex.toLex_le_toLex]

theorem before_refl (a : PlayerStats) : before a a = true := (before_iff_rank a a).mpr le_rfl

end PlayerStats

theorem mem_groups_iff {rows : List (String × Score)} {key : String} {s : AggregateStat} :
    (key, s) ∈ groups rows ↔ AggregateStat.ofScores (valuesOf rows key) = some s := by
  refine ⟨ofScores_of_mem_groups, fun h => List.mem_filterMap.mpr ⟨key, ?_, by rw [h]; rfl⟩⟩
  -- a key with an aggregate has values, so it occurs
  obtain ⟨v, hv⟩ : ∃ v, v ∈ valuesOf rows key := List.exists_mem_of_ne_nil _ fun hnil => by
    rw [hnil, AggregateStat.ofScores_nil] at h
    cases h
  exact mem_distinctKeys.mpr ⟨v, mem_valuesOf.mp hv⟩

theorem mem_buildPlayerStats {rows : List (String × Score)} {ps : PlayerStats} :
    ps ∈ buildPlayerStats rows ↔ AggregateStat.ofScores (valuesOf rows ps.name) = some ps.stat := by
  rw [buildPlayerStats, List.mem_mergeSort, ← mem_groups_iff]
  constructor
  · rintro h
    obtain ⟨⟨name, stat⟩, hmem, rfl⟩ := List.mem_map.mp h
    exact hmem
  · intro h
    exact List.mem_map.mpr ⟨(ps.name, ps.stat), h, rfl⟩

theorem buildPlayerStats_sorted (rows : List (String × Score)) :
    (buildPlayerStats rows).Pairwise fun a b => PlayerStats.before a b = true :=
  List.pairwise_mergeSort (trans_of_key _ PlayerStats.before_iff_rank) (total_of_key _ PlayerStats.before_iff_rank) _

theorem buildPlayerStats_eq_nil_iff (rows : List (String × Score)) : buildPlayerStats rows = [] ↔ rows = [] := by
  constructor
  · intro h
    by_contra hne
    obtain ⟨⟨name, score⟩, hmem⟩ := List.exists_mem_of_ne_nil rows hne
    have hsome := AggregateStat.ofScores_isSome (List.ne_nil_of_mem (mem_valuesOf.mpr hmem))
    obtain ⟨stat, hstat⟩ := Option.isSome_iff_exists.mp hsome
    have hps : (⟨name, stat⟩ : PlayerStats) ∈ buildPlayerStats rows := mem_buildPlayerStats.mpr hstat
    rw [h] at hps
    cases hps
  · rintro rfl
    simp [buildPlayerStats, groups, distinctKeys, distinctSorted]

/-- The first of a list sorted by `before` stands before every member. -/
theorem before_of_head {l : List PlayerStats} {a : PlayerStats} {rest : List PlayerStats}
    (hl : l = a :: rest) (hs : l.Pairwise fun a b => PlayerStats.before a b = true) :
    ∀ b ∈ l, PlayerStats.before a b = true := by
  subst hl
  intro b hb
  rcases List.mem_cons.mp hb with rfl | hb
  · exact PlayerStats.before_refl b
  · exact List.rel_of_pairwise_cons hs hb

/-! ### Best players on a snapshot -/

namespace League

/-- A player's scores on a machine, at `venue` when one is given. -/
def scoresOf (league : League) (player machine : String) (venue : Option String) : List Score :=
  (league.scores.filter fun s =>
    s.player == player && s.machineKey == machine && (venue.map (s.venueKey == ·)).getD true).map (·.score)

/-- Some player of the cohort has a score on the machine, at `venue` when one is given. -/
def PlayedAt (league : League) (cohort : List String) (machine : String) (venue : Option String) : Prop :=
  ∃ s ∈ league.scores, s.player ∈ cohort ∧ s.machineKey = machine ∧ ∀ v ∈ venue, s.venueKey = v

/-- `name` is the cohort's best player on the machine with aggregate `stat`: the highest median,
then the most games, then the smallest name. -/
def IsBest (league : League) (cohort : List String) (machine : String) (venue : Option String)
    (name : String) (stat : AggregateStat) : Prop :=
  name ∈ cohort ∧ AggregateStat.ofScores (league.scoresOf name machine venue) = some stat ∧
    ∀ q ∈ cohort, ∀ t, AggregateStat.ofScores (league.scoresOf q machine venue) = some t →
      t.p50 < stat.p50 ∨ stat.p50 = t.p50 ∧ (t.games < stat.games ∨ stat.games = t.games ∧ name ≤ q)

section Cohort
variable (league : League) (cohort : List String) (machine : String) (venue : Option String)

/-- The rows the per-player aggregates of a cohort on a machine are made from. -/
theorem playerStats_rows : league.playerStats cohort machine venue = buildPlayerStats
    (((league.cohortScores cohort venue).filter (·.machineKey == machine)).map fun s => (s.player, s.score)) := rfl

theorem valuesOf_playerRows (player : String) :
    valuesOf (((league.cohortScores cohort venue).filter (·.machineKey == machine)).map
      fun s => (s.player, s.score)) player =
      if player ∈ cohort then league.scoresOf player machine venue else [] := by
  split_ifs with hp
  · simp only [valuesOf, scoresOf, cohortScores, List.filter_map, List.filter_filter, List.map_map]
    congr 1
    refine List.filter_congr fun s _ => ?_
    by_cases hs : s.player = player
    · simp [hs, hp]
    · simp [beq_false_of_ne hs]
  · simp only [valuesOf, List.map_eq_nil_iff, List.filter_eq_nil_iff, List.mem_map, beq_iff_eq]
    rintro _ ⟨s, hs, rfl⟩ rfl
    simp only [cohortScores, List.mem_filter, List.contains_iff_mem, Bool.and_eq_true] at hs
    exact hp hs.1.2.1

theorem mem_playerStats {ps : PlayerStats} :
    ps ∈ league.playerStats cohort machine venue ↔
      ps.name ∈ cohort ∧ AggregateStat.ofScores (league.scoresOf ps.name machine venue) = some ps.stat := by
  rw [playerStats_rows, mem_buildPlayerStats, valuesOf_playerRows]
  split_ifs with hp
  · exact ⟨fun h => ⟨hp, h⟩, fun h => h.2⟩
  · simp [hp, AggregateStat.ofScores_nil]

theorem playerStats_eq_nil_iff : league.playerStats cohort machine venue = [] ↔ ¬league.PlayedAt cohort machine venue := by
  rw [playerStats_rows, buildPlayerStats_eq_nil_iff, List.map_eq_nil_iff, List.filter_eq_nil_iff]
  simp only [PlayedAt, cohortScores, List.mem_filter, List.contains_iff_mem, Bool.and_eq_true, beq_iff_eq,
    not_exists, not_and]
  constructor
  · intro h s hs hp hm hv
    refine h s ⟨hs, hp, ?_⟩ hm
    cases venue with
    | none => rfl
    | some v => simpa using hv v rfl
  · rintro h s ⟨hs, hp, hv⟩ hm
    refine h s hs hp hm fun v hv' => ?_
    cases hv'
    simpa using hv

/-- The first of a cohort's per-player aggregates is its best player on the machine. -/
theorem isBest_of_head {o : PlayerStats} {rest : List PlayerStats}
    (h : league.playerStats cohort machine venue = o :: rest) :
    league.IsBest cohort machine venue o.name o.stat := by
  have hmem := (mem_playerStats league cohort machine venue).mp (h ▸ List.mem_cons_self)
  refine ⟨hmem.1, hmem.2, fun q hq t ht => ?_⟩
  have hqt : (⟨q, t⟩ : PlayerStats) ∈ league.playerStats cohort machine venue :=
    (mem_playerStats league cohort machine venue).mpr ⟨hq, ht⟩
  have hbefore := before_of_head h (buildPlayerStats_sorted _) _ hqt
  exact (PlayerStats.before_iff o ⟨q, t⟩).mp hbefore

end Cohort

end League

/-! ### Recommending against an opponent -/

/-- Against an opponent, on a snapshot, a recommendation is the assessment of the two cohorts'
per-player aggregates, or the overflow that stops it. -/
theorem recommend_vsOpponent {league : League} {t o : String} {T O : TeamCohort}
    (hT : resolveTeam league.teams league.rosters t = some T) (hO : resolveTeam league.teams league.rosters o = some O)
    (config : AnalysisConfig) (m : String) (venue : Option String) :
    (recommend league.store config t m (.vsOpponent o venue)).map (·.assessment) =
      (assess (league.playerStats T.players m venue) (league.playerStats O.players m venue)
        config.verdictMargin).mapError .panic := by
  cases ha : assess (league.playerStats T.players m venue) (league.playerStats O.players m venue)
      config.verdictMargin <;>
    simp [recommend, modeRows, requireTeam, ask, League.store, hT, hO, ha, bind, Except.bind, pure, Except.pure,
      Except.mapError, Except.map]

/-- Against an opponent, on a snapshot, an assessment that does not stop gives a recommendation
that carries it. -/
theorem recommend_vsOpponent_of_assess {league : League} {t o : String} {T O : TeamCohort}
    (hT : resolveTeam league.teams league.rosters t = some T) (hO : resolveTeam league.teams league.rosters o = some O)
    {config : AnalysisConfig} {m : String} {venue : Option String} {a : Option Assessment}
    (ha : assess (league.playerStats T.players m venue) (league.playerStats O.players m venue) config.verdictMargin =
      .ok a) :
    ∃ r, recommend league.store config t m (.vsOpponent o venue) = .ok r ∧ r.assessment = a := by
  have h := recommend_vsOpponent hT hO config m venue
  rw [ha] at h
  cases hr : recommend league.store config t m (.vsOpponent o venue) with
  | error e => rw [hr] at h; cases h
  | ok r =>
    rw [hr] at h
    exact ⟨r, rfl, Except.ok.inj h⟩

/-- The first of two cohorts' per-player aggregates are their best players; where the gap between
any best players of the two fits both ways, so does the gap between the first two. -/
theorem fits_of_best {league : League} {A B : List String} {m : String} {venue : Option String}
    (hfit : ∀ p q ours theirs, league.IsBest A m venue p ours → league.IsBest B m venue q theirs →
      Score.FitsBothWays (ours.p50 - theirs.p50)) :
    ∀ x ∈ (league.playerStats A m venue).head?, ∀ y ∈ (league.playerStats B m venue).head?,
      Score.FitsBothWays (x.stat.p50 - y.stat.p50) := by
  intro x hx y hy
  obtain ⟨rest, hA⟩ := List.head?_eq_some_iff.mp hx
  obtain ⟨rest', hB⟩ := List.head?_eq_some_iff.mp hy
  exact hfit _ _ _ _ (League.isBest_of_head _ _ _ _ hA) (League.isBest_of_head _ _ _ _ hB)

/-- Against an opponent, on a snapshot, with a margin that is not negative and a gap between the
two cohorts' best players that fits in 64 bits both ways: there is an assessment exactly when both
cohorts have a score on the machine (at the venue, when one is given); it compares the two cohorts'
best players there (highest median, then most games, then smallest name) by the gap between their
medians, which is a strong pick above the margin, a weak pick below its negation and contested
between. Asked from the other team's side, the assessment is the mirror one. -/
theorem assessment_best_against_best {league : League} {config : AnalysisConfig} {t o m : String}
    {venue : Option String} {T O : TeamCohort} (hT : resolveTeam league.teams league.rosters t = some T)
    (hO : resolveTeam league.teams league.rosters o = some O) (hm : 0 ≤ config.verdictMargin)
    (hfit : ∀ p q ours theirs, league.IsBest T.players m venue p ours → league.IsBest O.players m venue q theirs →
      -scoreLimit < ours.p50 - theirs.p50 ∧ ours.p50 - theirs.p50 < scoreLimit) :
    ∃ r r', recommend league.store config t m (.vsOpponent o venue) = .ok r ∧
      recommend league.store config o m (.vsOpponent t venue) = .ok r' ∧
      (r.assessment = none ↔ ¬league.PlayedAt T.players m venue ∨ ¬league.PlayedAt O.players m venue) ∧
      (∀ a, r.assessment = some a → ∃ ours theirs,
        league.IsBest T.players m venue a.ourBest ours ∧ league.IsBest O.players m venue a.theirBest theirs ∧
        a.diff = ours.p50 - theirs.p50 ∧
        (a.verdict = .strong ↔ config.verdictMargin < a.diff) ∧
        (a.verdict = .weak ↔ a.diff < -config.verdictMargin) ∧
        (a.verdict = .contested ↔ -config.verdictMargin ≤ a.diff ∧ a.diff ≤ config.verdictMargin)) ∧
      r'.assessment = r.assessment.map Assessment.mirror := by
  have hheads := fits_of_best hfit
  -- with the gap fitting, the assessment from our side runs, and the other side's mirrors it
  obtain ⟨a, ha⟩ := exists_assess_eq_ok config.verdictMargin hheads
  have ha' := (assess_swap hm hheads).trans (congrArg (Except.map (Option.map Assessment.mirror)) ha)
  obtain ⟨r, hr, hra⟩ := recommend_vsOpponent_of_assess hT hO ha
  obtain ⟨r', hr', hra'⟩ := recommend_vsOpponent_of_assess hO hT ha'
  refine ⟨r, r', hr, hr', ?_, fun a' ha'' => ?_, by rw [hra, hra']⟩
  · rw [hra, ← League.playerStats_eq_nil_iff, ← League.playerStats_eq_nil_iff, ← assess_eq_ok_none_iff, ha,
      Except.ok.injEq]
  · rw [hra] at ha''
    subst ha''
    obtain ⟨ob, _, tb, _, hours, htheirs, rfl⟩ := assess_eq_ok_some ha
    exact ⟨ob.stat, tb.stat, League.isBest_of_head _ _ _ _ hours, League.isBest_of_head _ _ _ _ htheirs,
      rfl, Verdict.ofDiff_spec hm _⟩

/-- Where the gap between the two cohorts' first players does not fit in 64 bits, the
recommendation against the opponent stops with the overflow. -/
theorem recommend_vsOpponent_overflow {league : League} {t o : String} {T O : TeamCohort}
    (hT : resolveTeam league.teams league.rosters t = some T) (hO : resolveTeam league.teams league.rosters o = some O)
    {config : AnalysisConfig} {m : String} {venue : Option String} {ob tb : PlayerStats} {os ts : List PlayerStats}
    (hours : league.playerStats T.players m venue = ob :: os) (htheirs : league.playerStats O.players m venue = tb :: ts)
    (h : ¬(-scoreLimit ≤ ob.stat.p50 - tb.stat.p50 ∧ ob.stat.p50 - tb.stat.p50 < scoreLimit)) :
    recommend league.store config t m (.vsOpponent o venue) = .error (.panic "attempt to subtract with overflow") := by
  have hr := recommend_vsOpponent hT hO config m venue
  rw [hours, htheirs, assess_cons_of_not_fits h] at hr
  cases hrec : recommend league.store config t m (.vsOpponent o venue) with
  | error e =>
    rw [hrec] at hr
    exact congrArg Except.error (Except.error.inj hr)
  | ok r => rw [hrec] at hr; cases hr

/-- The median of a best player is one of the league's scores. -/
theorem League.IsBest.p50_mem {league : League} {cohort : List String} {m : String} {venue : Option String}
    {name : String} {stat : AggregateStat} (h : league.IsBest cohort m venue name stat) :
    stat.p50 ∈ league.scores.map (·.score) := by
  have hmem : stat.value .p50 ∈ league.scoresOf name m venue := (AggregateStat.value_isRankth h.2.1 .p50).1
  obtain ⟨s, hs, hscore⟩ := List.mem_map.mp hmem
  exact List.mem_map.mpr ⟨s, (List.mem_filter.mp hs).1, hscore⟩

/-- Two teams on one machine: team A's two players and team B's one, at venue V and elsewhere. -/
def duelLeague : League where
  machines := [("TAF", "The Addams Family")]
  venues := []
  venueMachines := [("V", ["TAF"])]
  teams := [⟨"AAA", 1, "Team A", none⟩, ⟨"BBB", 1, "Team B", none⟩]
  rosters := [⟨"pa", "AAA", 1⟩, ⟨"pc", "AAA", 1⟩, ⟨"pb", "BBB", 1⟩]
  scores := [⟨"pa", "AAA", 1, "TAF", "V", 500⟩, ⟨"pa", "AAA", 1, "TAF", "V", 300⟩,
    ⟨"pc", "AAA", 1, "TAF", "V", 400⟩, ⟨"pb", "BBB", 1, "TAF", "V", 100⟩, ⟨"pb", "BBB", 1, "TAF", "W", 900⟩]
  machines_ascending := by decide
  venues_ascending := keysAscending_nil
  venueMachines_ascending := by decide

/-- Team A against team B on the machine at V: every score is small, so the gap fits. -/
theorem assessment_best_against_best_duel :
    resolveTeam duelLeague.teams duelLeague.rosters "AAA" = some ⟨"AAA", "Team A", 1, ["pa", "pc"]⟩ ∧
      resolveTeam duelLeague.teams duelLeague.rosters "BBB" = some ⟨"BBB", "Team B", 1, ["pb"]⟩ ∧
      0 ≤ ({ AnalysisConfig.default with verdictMargin := 100 } : AnalysisConfig).verdictMargin ∧
      (∀ p q ours theirs, duelLeague.IsBest ["pa", "pc"] "TAF" (some "V") p ours →
        duelLeague.IsBest ["pb"] "TAF" (some "V") q theirs →
          -scoreLimit < ours.p50 - theirs.p50 ∧ ours.p50 - theirs.p50 < scoreLimit) ∧
      ∃ r r', recommend duelLeague.store { AnalysisConfig.default with verdictMargin := 100 } "AAA" "TAF"
          (.vsOpponent "BBB" (some "V")) = .ok r ∧
        recommend duelLeague.store { AnalysisConfig.default with verdictMargin := 100 } "BBB" "TAF"
          (.vsOpponent "AAA" (some "V")) = .ok r' ∧
        (r.assessment = none ↔ ¬duelLeague.PlayedAt ["pa", "pc"] "TAF" (some "V") ∨
          ¬duelLeague.PlayedAt ["pb"] "TAF" (some "V")) ∧
        (∀ a, r.assessment = some a → ∃ ours theirs,
          duelLeague.IsBest ["pa", "pc"] "TAF" (some "V") a.ourBest ours ∧
          duelLeague.IsBest ["pb"] "TAF" (some "V") a.theirBest theirs ∧ a.diff = ours.p50 - theirs.p50 ∧
          (a.verdict = .strong ↔ 100 < a.diff) ∧ (a.verdict = .weak ↔ a.diff < -100) ∧
          (a.verdict = .contested ↔ -100 ≤ a.diff ∧ a.diff ≤ 100)) ∧
        r'.assessment = r.assessment.map Assessment.mirror := by
  have h1 : resolveTeam duelLeague.teams duelLeague.rosters "AAA" = some ⟨"AAA", "Team A", 1, ["pa", "pc"]⟩ := by
    simp only [resolveTeam, distinctSorted, mergeSort_eq_bounded]
    decide +kernel
  have h2 : resolveTeam duelLeague.teams duelLeague.rosters "BBB" = some ⟨"BBB", "Team B", 1, ["pb"]⟩ := by
    simp only [resolveTeam, distinctSorted, mergeSort_eq_bounded]
    decide +kernel
  have hm : 0 ≤ ({ AnalysisConfig.default with verdictMargin := 100 } : AnalysisConfig).verdictMargin := by decide
  have hfit : ∀ p q ours theirs, duelLeague.IsBest ["pa", "pc"] "TAF" (some "V") p ours →
      duelLeague.IsBest ["pb"] "TAF" (some "V") q theirs →
        -scoreLimit < ours.p50 - theirs.p50 ∧ ours.p50 - theirs.p50 < scoreLimit := by
    intro p q ours theirs hp hq
    -- both medians are among the league's five scores
    have hours := hp.p50_mem
    have htheirs := hq.p50_mem
    have hlimit : scoreLimit = 9223372036854775808 := by decide
    simp only [duelLeague, List.map_cons, List.map_nil, List.mem_cons, List.not_mem_nil, or_false] at hours htheirs
    rw [hlimit]
    unfold Score at *
    omega
  exact ⟨h1, h2, hm, hfit, assessment_best_against_best h1 h2 hm hfit⟩

-- At V, pc's median of 400 beats pa's of 300, and pb's score elsewhere does not count.
example : (recommend duelLeague.store { AnalysisConfig.default with verdictMargin := 100 } "AAA" "TAF"
    (.vsOpponent "BBB" (some "V"))).toOption.bind (·.assessment) = some ⟨"pc", "pb", 300, .strong⟩ := by
  simp only [recommend, modeRows, requireTeam, League.store, League.playerStats, buildPlayerStats, groups,
    distinctKeys, distinctSorted, resolveTeam, AggregateStat.ofScores, mergeSort_eq_bounded]
  decide +kernel

end PinballScout
