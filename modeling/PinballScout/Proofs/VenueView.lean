import PinballScout.Proofs.NarrowedQuery
import PinballScout.Proofs.Assessment
import PinballScout.Analysis.Scout
import PinballScout.Analysis.Profile

/-! Venue views. At a venue an analysis reads a cohort's aggregates twice, over the games played
    there and over all games, and sets the venue rows beside the global rows, flagging the global
    rows the venue has none for. Both stores read the games at a venue as some of all games
    (counted with repetitions; on a database, over any lawful engine), and an aggregate over fewer
    rows counts no more games, so every venue row has a global row with at least its games, and
    the unflagged global rows are exactly as many as the venue rows. -/

namespace PinballScout

/-! ### Narrower lists of keyed rows -/

section Keyed
variable {α β : Type} {key : α → String} {games : α → Nat} {G V : List α}

/-- `venue` is a narrower view of `global`: keys are distinct on both sides, every venue key has a
global row, and no venue row counts more games than the global row of its key. -/
structure Narrows (key : α → String) (games : α → Nat) (global venue : List α) : Prop where
  nodup_global : (global.map key).Nodup
  nodup_venue : (venue.map key).Nodup
  covered : ∀ r ∈ venue, ∃ g ∈ global, key g = key r
  games_le : ∀ r ∈ venue, ∀ g ∈ global, key g = key r → games r ≤ games g

/-- Venue rows beside flagged global rows, as a report shows them: the rows narrow as above, a
global row is flagged exactly when no venue row has its key, and the unflagged global rows are as
many as the venue rows. -/
structure VenueConsistent (key : α → String) (games : α → Nat) (noVenue : α → Bool)
    (global venue : List α) : Prop where
  covered : ∀ r ∈ venue, ∃ g ∈ global, key g = key r
  games_le : ∀ r ∈ venue, ∀ g ∈ global, key g = key r → games r ≤ games g
  flagged : ∀ g ∈ global, noVenue g = true ↔ ∀ r ∈ venue, key r ≠ key g
  count : (global.filter fun g => !noVenue g).length = venue.length

theorem Narrows.filter (h : Narrows key games G V) (p : String → Bool) :
    Narrows key games (G.filter fun g => p (key g)) (V.filter fun r => p (key r)) where
  nodup_global := h.nodup_global.sublist (List.filter_sublist.map key)
  nodup_venue := h.nodup_venue.sublist (List.filter_sublist.map key)
  covered r hr := by
    obtain ⟨hrV, hp⟩ := List.mem_filter.mp hr
    obtain ⟨g, hg, hk⟩ := h.covered r hrV
    exact ⟨g, List.mem_filter.mpr ⟨hg, hk ▸ hp⟩, hk⟩
  games_le r hr g hg := h.games_le r (List.mem_filter.mp hr).1 g (List.mem_filter.mp hg).1

theorem Narrows.map (h : Narrows key games G V) (f : α → β) {key' : β → String} {games' : β → Nat}
    (hkey : ∀ a, key' (f a) = key a) (hgames : ∀ a, games' (f a) = games a) :
    Narrows key' games' (G.map f) (V.map f) where
  nodup_global := by
    rw [List.map_map, show key' ∘ f = key from funext hkey]
    exact h.nodup_global
  nodup_venue := by
    rw [List.map_map, show key' ∘ f = key from funext hkey]
    exact h.nodup_venue
  covered r hr := by
    obtain ⟨a, ha, rfl⟩ := List.mem_map.mp hr
    obtain ⟨g, hg, hk⟩ := h.covered a ha
    exact ⟨f g, List.mem_map_of_mem hg, by rw [hkey, hkey, hk]⟩
  games_le r hr g hg hk := by
    obtain ⟨a, ha, rfl⟩ := List.mem_map.mp hr
    obtain ⟨b, hb, rfl⟩ := List.mem_map.mp hg
    rw [hgames, hgames]
    exact h.games_le a ha b hb (by rwa [hkey, hkey] at hk)

/-- The global rows some venue row names are as many as the venue rows, when keys are distinct on
both sides and every venue key has a global row. -/
theorem length_filter_covered (hG : (G.map key).Nodup) (hV : (V.map key).Nodup)
    (hcov : ∀ r ∈ V, ∃ g ∈ G, key g = key r) :
    (G.filter fun g => V.any fun r => key r == key g).length = V.length := by
  -- the named global rows and the venue rows have the same keys, each once
  have hperm : ((G.filter fun g => V.any fun r => key r == key g).map key).Perm (V.map key) := by
    refine (List.perm_ext_iff_of_nodup (hG.sublist (List.filter_sublist.map key)) hV).mpr fun x => ?_
    simp only [List.mem_map, List.mem_filter, List.any_eq_true, beq_iff_eq]
    constructor
    · rintro ⟨g, ⟨-, r, hr, hk⟩, rfl⟩
      exact ⟨r, hr, hk⟩
    · rintro ⟨r, hr, rfl⟩
      obtain ⟨g, hg, hk⟩ := hcov r hr
      exact ⟨g, ⟨hg, r, hr, hk.symm⟩, hk⟩
  simpa using hperm.length_eq

/-- Flagging each global row by whether the venue has a row of its key makes a narrower view a
consistent one. -/
theorem Narrows.mark (h : Narrows key games G V) {noVenue : α → Bool} (setFlag : α → Bool → α)
    (hkey : ∀ a b, key (setFlag a b) = key a) (hgames : ∀ a b, games (setFlag a b) = games a)
    (hflag : ∀ a b, noVenue (setFlag a b) = b) {hasVenue : α → Bool}
    (hv : ∀ g, hasVenue g = V.any fun r => key r == key g) :
    VenueConsistent key games noVenue (G.map fun g => setFlag g !(hasVenue g)) V where
  covered r hr := by
    obtain ⟨g, hg, hk⟩ := h.covered r hr
    exact ⟨_, List.mem_map_of_mem hg, by rw [hkey, hk]⟩
  games_le r hr g' hg' hk := by
    obtain ⟨g, hg, rfl⟩ := List.mem_map.mp hg'
    rw [hgames]
    exact h.games_le r hr g hg (by rwa [hkey] at hk)
  flagged g' hg' := by
    obtain ⟨g, -, rfl⟩ := List.mem_map.mp hg'
    simp [hflag, hkey, hv]
  count := by
    rw [List.filter_map, List.length_map, ← length_filter_covered h.nodup_global h.nodup_venue h.covered]
    congr 1
    exact List.filter_congr fun g _ => by simp [hflag, hv]

end Keyed

/-! ### Aggregates over fewer rows -/

/-- Per-machine aggregates of some of the rows narrow those of the rows. -/
theorem narrows_buildMachineStats {rows rows' : List ScoreRow} (h : rows'.Subperm rows) (limit : Nat) :
    Narrows (·.machineKey) (·.stat.games) (buildMachineStats rows limit) (buildMachineStats rows' limit) where
  nodup_global := nodup_keys_buildMachineStats rows limit
  nodup_venue := nodup_keys_buildMachineStats rows' limit
  covered s hs := by
    obtain ⟨r, hr, hk⟩ := mem_keys_buildMachineStats.mp (List.mem_map_of_mem hs)
    exact List.mem_map.mp (mem_keys_buildMachineStats.mpr ⟨r, h.subset hr, hk⟩)
  games_le s hs g hg hk := by
    show s.stat.games ≤ g.stat.games
    rw [games_of_mem_buildMachineStats hs, games_of_mem_buildMachineStats hg, hk]
    exact (h.filter _).length_le

theorem names_buildPlayerStats_perm (rows : List (String × Score)) :
    ((buildPlayerStats rows).map (·.name)).Perm (distinctKeys rows) := by
  refine ((List.mergeSort_perm _ _).map _).trans (List.Perm.of_eq ?_)
  rw [List.map_map, ← groups_keys]
  rfl

theorem nodup_names_buildPlayerStats (rows : List (String × Score)) : ((buildPlayerStats rows).map (·.name)).Nodup :=
  (names_buildPlayerStats_perm rows).nodup_iff.mpr (nodup_distinctSorted _)

theorem valuesOf_subperm {rows rows' : List (String × Score)} (h : rows'.Subperm rows) (k : String) :
    (valuesOf rows' k).Subperm (valuesOf rows k) :=
  subperm_map _ (h.filter _)

/-- Per-player aggregates of some of the rows narrow those of the rows. -/
theorem narrows_buildPlayerStats {rows rows' : List (String × Score)} (h : rows'.Subperm rows) :
    Narrows (·.name) (·.stat.games) (buildPlayerStats rows) (buildPlayerStats rows') where
  nodup_global := nodup_names_buildPlayerStats rows
  nodup_venue := nodup_names_buildPlayerStats rows'
  covered ps hps := by
    -- a player with scores in the sublist has scores in the rows
    have hne : valuesOf rows ps.name ≠ [] := fun hnil => by
      have hstat := mem_buildPlayerStats.mp hps
      have hsub := valuesOf_subperm h ps.name
      rw [hnil, List.subperm_nil] at hsub
      rw [hsub, AggregateStat.ofScores_nil] at hstat
      cases hstat
    obtain ⟨stat, hstat⟩ := Option.isSome_iff_exists.mp (AggregateStat.ofScores_isSome hne)
    exact ⟨⟨ps.name, stat⟩, mem_buildPlayerStats.mpr hstat, rfl⟩
  games_le ps hps g hg hk := by
    show ps.stat.games ≤ g.stat.games
    rw [AggregateStat.games_ofScores (mem_buildPlayerStats.mp hps),
      AggregateStat.games_ofScores (mem_buildPlayerStats.mp hg), hk]
    exact (valuesOf_subperm h ps.name).length_le

/-! ### Stores -/

/-- A store whose aggregates at a venue narrow its aggregates everywhere, whenever it answers
both. -/
structure Store.NarrowsAtVenue (store : Store) : Prop where
  machineStats : ∀ {cohort venue limit global atVenue},
    store.machineStats cohort none limit = .ok global → store.machineStats cohort (some venue) limit = .ok atVenue →
    Narrows (·.machineKey) (·.stat.games) global atVenue
  playerStats : ∀ {cohort machine venue global atVenue},
    store.playerStats cohort machine none = .ok global → store.playerStats cohort machine (some venue) = .ok atVenue →
    Narrows (·.name) (·.stat.games) global atVenue

theorem League.cohortScores_at_venue_sublist (league : League) (cohort : List String) (venue : String) :
    (league.cohortScores cohort (some venue)).Sublist (league.cohortScores cohort none) :=
  List.monotone_filter_right _ fun s hs => by simp_all

theorem League.store_narrowsAtVenue (league : League) : league.store.NarrowsAtVenue where
  machineStats hg hv := by
    cases hg
    cases hv
    exact narrows_buildMachineStats ((league.cohortScores_at_venue_sublist _ _).map _).subperm _
  playerStats hg hv := by
    cases hg
    cases hv
    exact narrows_buildPlayerStats (((league.cohortScores_at_venue_sublist _ _).filter _).map _).subperm

theorem Engine.Lawful.store_narrowsAtVenue {engine : Engine} (hengine : engine.Lawful) (db : Database) :
    (db.store engine).NarrowsAtVenue where
  machineStats hg hv := by
    obtain ⟨rows, hrows, hg⟩ := bind_eq_ok.mp hg
    obtain ⟨rows', hrows', hv⟩ := bind_eq_ok.mp hv
    cases hg
    cases hv
    exact narrows_buildMachineStats (hengine.cohortScores_at_venue_subperm db _ _ _ hrows hrows') _
  playerStats hg hv := by
    obtain ⟨rows, hrows, hg⟩ := bind_eq_ok.mp hg
    obtain ⟨rows', hrows', hv⟩ := bind_eq_ok.mp hv
    cases hg
    cases hv
    exact narrows_buildPlayerStats (subperm_map _ (hengine.cohortScores_at_venue_subperm db _ _ _ hrows hrows'))

/-! ### Reports at a venue -/

/-- A report's machine rows at a venue: the venue rows beside the flagged global rows, every
machine on the venue's list. -/
def MachineRowsAtVenue (store : Store) (venue : String) (global : List MachineReport)
    (venueStats : Option (List MachineReport)) : Prop :=
  ∃ machines rows, store.venueMachines venue = .ok machines ∧ venueStats = some rows ∧
    VenueConsistent (·.machineKey) (·.games) (·.noVenueData) global rows ∧
    ∀ r ∈ global ++ rows, r.machineKey ∈ machines

/-- A recommendation's player rows at a venue: the venue rows beside the flagged team rows. -/
def PlayerRowsAtVenue (team : List PlayerRecommendation) (venueStats : Option (List PlayerRecommendation)) :
    Prop :=
  ∃ rows, venueStats = some rows ∧ VenueConsistent (·.name) (·.games) (·.noVenueData) team rows

theorem ask_eq_ok {α : Type} {answer : StoreResult α} {a : α} : ask answer = .ok a ↔ answer = .ok a :=
  mapError_eq_ok

section Narrowing
variable {store : Store} (hs : store.NarrowsAtVenue)
include hs

theorem venueRows_at_venue {cohort : List String} {limit : Nat} {global : List MachineStats}
    {baseline : List (String × Score)} {names : List (String × String)} {venue : String}
    {G : List MachineReport} {VS : Option (List MachineReport)}
    (hg : store.machineStats cohort none limit = .ok global)
    (h : venueRows store cohort limit global baseline names (some venue) = .ok (G, VS)) :
    MachineRowsAtVenue store venue G VS := by
  obtain ⟨machines, hm, h⟩ := bind_eq_ok.mp h
  obtain ⟨atVenue, hv, h⟩ := bind_eq_ok.mp h
  cases h
  have hn : Narrows (·.machineKey) (·.games) (enrich (restrictTo global machines) baseline names)
      (enrich (restrictTo atVenue machines) baseline names) :=
    ((hs.machineStats hg (ask_eq_ok.mp hv)).filter machines.contains).map _ (fun _ => rfl) (fun _ => rfl)
  refine ⟨machines, _, ask_eq_ok.mp hm, rfl,
    hn.mark (fun r b => { r with noVenueData := b }) (fun _ _ => rfl) (fun _ _ => rfl) (fun _ _ => rfl)
      fun _ => rfl, ?_⟩
  -- every row comes from an aggregate the venue's list keeps
  intro r hr
  rcases List.mem_append.mp hr with hr | hr
  · obtain ⟨r', hr', rfl⟩ := List.mem_map.mp hr
    obtain ⟨s, hs', rfl⟩ := List.mem_map.mp hr'
    exact List.contains_iff_mem.mp (List.mem_filter.mp hs').2
  · obtain ⟨s, hs', rfl⟩ := List.mem_map.mp hr
    exact List.contains_iff_mem.mp (List.mem_filter.mp hs').2

theorem scout_at_venue {config : AnalysisConfig} {k venue : String} {r : ScoutReport}
    (h : scout store config k (some venue) = .ok r) : MachineRowsAtVenue store venue r.globalStats r.venueStats := by
  obtain ⟨team, -, h⟩ := bind_eq_ok.mp h
  obtain ⟨baseline, -, h⟩ := bind_eq_ok.mp h
  obtain ⟨names, -, h⟩ := bind_eq_ok.mp h
  obtain ⟨global, hg, h⟩ := bind_eq_ok.mp h
  obtain ⟨⟨G, VS⟩, hv, h⟩ := bind_eq_ok.mp h
  cases h
  exact venueRows_at_venue hs (ask_eq_ok.mp hg) hv

theorem profile_at_venue {config : AnalysisConfig} {p venue : String} {r : PlayerReport}
    (h : profile store config p (some venue) = .ok r) : MachineRowsAtVenue store venue r.globalStats r.venueStats := by
  obtain ⟨known, -, h⟩ := bind_eq_ok.mp h
  dsimp only at h
  -- an unknown player is an error, never a report
  split at h
  case isFalse => exact absurd h (by simp [throw, throwThe, MonadExceptOf.throw, bind, Except.bind])
  obtain ⟨baseline, -, h⟩ := bind_eq_ok.mp h
  obtain ⟨names, -, h⟩ := bind_eq_ok.mp h
  obtain ⟨global, hg, h⟩ := bind_eq_ok.mp h
  obtain ⟨⟨G, VS⟩, hv, h⟩ := bind_eq_ok.mp h
  obtain ⟨team, -, h⟩ := bind_eq_ok.mp h
  cases h
  exact venueRows_at_venue hs (ask_eq_ok.mp hg) hv

theorem recommend_at_venue {config : AnalysisConfig} {k m venue : String} {r : RecommendReport}
    (h : recommend store config k m (.atVenue venue) = .ok r) : PlayerRowsAtVenue r.teamStats r.venueStats := by
  obtain ⟨team, -, h⟩ := bind_eq_ok.mp h
  obtain ⟨baseline, -, h⟩ := bind_eq_ok.mp h
  obtain ⟨names, -, h⟩ := bind_eq_ok.mp h
  obtain ⟨rows, hrows, h⟩ := bind_eq_ok.mp h
  cases h
  obtain ⟨atVenue, hv, hrows⟩ := bind_eq_ok.mp hrows
  obtain ⟨global, hg, hrows⟩ := bind_eq_ok.mp hrows
  cases hrows
  have hn : Narrows (·.name) (·.games) (recommendations (baseline.lookup m) global)
      (recommendations (baseline.lookup m) atVenue) :=
    (hs.playerStats (ask_eq_ok.mp hg) (ask_eq_ok.mp hv)).map _ (fun _ => rfl) (fun _ => rfl)
  refine ⟨_, rfl, hn.mark (fun r b => { r with noVenueData := b }) (fun _ _ => rfl) (fun _ _ => rfl)
    (fun _ _ => rfl) fun g => ?_⟩
  -- the venue rows carry the names of the venue aggregates
  simp [recommendations, List.any_map, Function.comp_def]

end Narrowing

/-! ### Both stores -/

section Snapshot
variable {league : League} (config : AnalysisConfig)

theorem League.scout_ok {k : String} (hk : (resolveTeam league.teams league.rosters k).isSome)
    (venue : Option String) : ∃ r, scout league.store config k venue = .ok r := by
  obtain ⟨team, hteam⟩ := Option.isSome_iff_exists.mp hk
  cases venue <;> simp [scout, requireTeam, ask, League.store, venueRows, hteam, bind, Except.bind, pure,
    Except.pure, Except.mapError]

theorem League.profile_ok {p : String} (hp : league.knows p = true) (venue : Option String) :
    ∃ r, profile league.store config p venue = .ok r := by
  cases venue <;> simp [profile, ask, League.store, venueRows, hp, bind, Except.bind, pure, Except.pure,
    Except.mapError]

theorem League.recommend_ok {k : String} (hk : (resolveTeam league.teams league.rosters k).isSome)
    (m venue : String) : ∃ r, recommend league.store config k m (.atVenue venue) = .ok r := by
  obtain ⟨team, hteam⟩ := Option.isSome_iff_exists.mp hk
  simp [recommend, modeRows, requireTeam, ask, League.store, hteam, bind, Except.bind, pure, Except.pure,
    Except.mapError]

end Snapshot

/-- At a venue, each analysis sets its venue rows beside its global rows consistently: every venue
row's key (a machine, or for a recommendation a player's name) has a global row, with no fewer
games; a global row is flagged as having no venue data exactly when no venue row has its key, so
the unflagged global rows are as many as the venue rows; and the machine rows of a scouting report
and of a profile are all on the venue's list of machines. On a snapshot the analyses give their
reports for a resolvable team or a known player; on a database, over any lawful engine, every
report they give is so. -/
theorem venue_view_consistent (config : AnalysisConfig) (venue : String) :
    (∀ league : League,
      (∀ k, (resolveTeam league.teams league.rosters k).isSome →
        ∃ r, scout league.store config k (some venue) = .ok r ∧
          MachineRowsAtVenue league.store venue r.globalStats r.venueStats) ∧
      (∀ p, league.knows p = true →
        ∃ r, profile league.store config p (some venue) = .ok r ∧
          MachineRowsAtVenue league.store venue r.globalStats r.venueStats) ∧
      (∀ k m, (resolveTeam league.teams league.rosters k).isSome →
        ∃ r, recommend league.store config k m (.atVenue venue) = .ok r ∧
          PlayerRowsAtVenue r.teamStats r.venueStats)) ∧
    ∀ engine : Engine, engine.Lawful → ∀ db : Database,
      (∀ k r, scout (db.store engine) config k (some venue) = .ok r →
        MachineRowsAtVenue (db.store engine) venue r.globalStats r.venueStats) ∧
      (∀ p r, profile (db.store engine) config p (some venue) = .ok r →
        MachineRowsAtVenue (db.store engine) venue r.globalStats r.venueStats) ∧
      ∀ k m r, recommend (db.store engine) config k m (.atVenue venue) = .ok r →
        PlayerRowsAtVenue r.teamStats r.venueStats := by
  refine ⟨fun league => ⟨fun k hk => ?_, fun p hp => ?_, fun k m hk => ?_⟩, fun engine hengine db => ?_⟩
  · obtain ⟨r, hr⟩ := League.scout_ok config hk (some venue)
    exact ⟨r, hr, scout_at_venue league.store_narrowsAtVenue hr⟩
  · obtain ⟨r, hr⟩ := League.profile_ok config hp (some venue)
    exact ⟨r, hr, profile_at_venue league.store_narrowsAtVenue hr⟩
  · obtain ⟨r, hr⟩ := League.recommend_ok config hk m venue
    exact ⟨r, hr, recommend_at_venue league.store_narrowsAtVenue hr⟩
  · have hs := hengine.store_narrowsAtVenue db
    exact ⟨fun _ _ => scout_at_venue hs, fun _ _ => profile_at_venue hs, fun _ _ _ => recommend_at_venue hs⟩

/-- Team B at venue V: scouted, profiled through its player and recommended for the machine on
the snapshot; and on any database, through the engine of this library, every scouting report of
it there is consistent. -/
theorem venue_view_consistent_duel :
    (resolveTeam duelLeague.teams duelLeague.rosters "BBB").isSome ∧ duelLeague.knows "pb" = true ∧
      (∃ r, scout duelLeague.store .default "BBB" (some "V") = .ok r ∧
        MachineRowsAtVenue duelLeague.store "V" r.globalStats r.venueStats) ∧
      (∃ r, profile duelLeague.store .default "pb" (some "V") = .ok r ∧
        MachineRowsAtVenue duelLeague.store "V" r.globalStats r.venueStats) ∧
      (∃ r, recommend duelLeague.store .default "BBB" "TAF" (.atVenue "V") = .ok r ∧
        PlayerRowsAtVenue r.teamStats r.venueStats) ∧
      Engine.reference.Lawful ∧ ∀ db : Database, ∀ r, scout db.store .default "BBB" (some "V") = .ok r →
        MachineRowsAtVenue db.store "V" r.globalStats r.venueStats := by
  have hk : (resolveTeam duelLeague.teams duelLeague.rosters "BBB").isSome := by decide
  have hp : duelLeague.knows "pb" = true := by decide
  obtain ⟨hscout, hprofile, hrecommend⟩ := (venue_view_consistent .default "V").1 duelLeague
  have hdatabase := (venue_view_consistent .default "V").2 Engine.reference Engine.reference_lawful
  exact ⟨hk, hp, hscout "BBB" hk, hprofile "pb" hp, hrecommend "BBB" "TAF" hk, Engine.reference_lawful,
    fun db => (hdatabase db).1 "BBB"⟩

end PinballScout
