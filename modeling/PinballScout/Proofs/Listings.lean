import PinballScout.Proofs.SearchPattern
import PinballScout.Proofs.StableSort
import PinballScout.League.Catalog

/-! Listings and their search. A listing asked with a search term lists, in the same order, the
    entries of the full listing that the term picks out: those with a field that contains the
    trimmed term, ASCII capitals aside. For venues, machines and players the term is applied to rows
    that are already in order, and for teams it is applied before a stable sort by key, which keeps
    the order of the entries it leaves. A term that is blank picks out every entry. The full listings
    of venues, machines and players are strictly increasing in their keys: venues from the sorted
    set of venue keys of the names and lineups, machines from the machine table, a map sorted by
    key, and players from the current season's distinct (name, key) pairs sorted by them. -/

namespace PinballScout

/-- Whether some field contains the trimmed search text, ASCII capitals aside. -/
def Searched (search : String) (fields : List String) : Bool :=
  fields.any fun f => decide ((Text.asciiLower (Text.trimBlank search)).toList <:+: (Text.asciiLower f).toList)

namespace Text

theorem trimBlank_eq_empty {s : String} (h : ∀ c ∈ s.toList, isBlank c = true) : trimBlank s = "" := by
  rw [trimBlank, List.dropWhile_eq_nil_iff.mpr h]
  rfl

theorem toList_asciiLower_trimBlank_of_isEmpty {s : String} (h : (trimBlank s).isEmpty = true) :
    (asciiLower (trimBlank s)).toList = [] := by
  rw [String.isEmpty_iff.mp h]
  rfl

theorem searchTerm_of_isEmpty_false {s : String} (h : (trimBlank s).isEmpty = false) :
    searchTerm (some s) = some (asciiLower (trimBlank s)) := by
  simp only [searchTerm, Option.map_some, h, Bool.false_eq_true, if_false]

theorem searchTerm_of_isEmpty_true {s : String} (h : (trimBlank s).isEmpty = true) : searchTerm (some s) = none := by
  simp only [searchTerm, Option.map_some, h, if_true]

theorem matchesAny_none (fields : List String) : matchesAny (searchTerm none) fields = true := rfl

end Text

/-- A term that trims to nothing picks out every entry. -/
theorem searched_of_isEmpty {s : String} (h : (Text.trimBlank s).isEmpty = true) {fields : List String}
    (hf : fields ≠ []) : Searched s fields = true := by
  obtain ⟨f, rest, rfl⟩ := List.exists_cons_of_ne_nil hf
  refine List.any_eq_true.mpr ⟨f, List.mem_cons_self, decide_eq_true ?_⟩
  rw [Text.toList_asciiLower_trimBlank_of_isEmpty h]
  exact List.nil_infix

/-- A blank search picks out every entry. -/
theorem searched_of_blank {s : String} (h : ∀ c ∈ s.toList, Text.isBlank c = true) {fields : List String}
    (hf : fields ≠ []) : Searched s fields = true :=
  searched_of_isEmpty (by rw [Text.trimBlank_eq_empty h]; rfl) hf

/-- Listings test a search through `searchTerm`, and that test is `Searched`. -/
theorem matchesAny_searchTerm (s : String) {fields : List String} (hf : fields ≠ []) :
    Text.matchesAny (Text.searchTerm (some s)) fields = Searched s fields := by
  cases hb : (Text.trimBlank s).isEmpty
  · rw [Text.searchTerm_of_isEmpty_false hb, Text.matchesAny, Searched]
    exact congrArg fields.any (funext fun f =>
      Bool.eq_iff_iff.mpr ((Text.contains_eq_true_iff _ _).trans decide_eq_true_iff.symm))
  · rw [Text.searchTerm_of_isEmpty_true hb]
    exact (searched_of_isEmpty hb hf).symm

/-! ### Searching keeps entries of the full listing -/

section Search
variable (s : String)

theorem listVenues_search (venues : List (String × String)) (lineups : List (String × List String)) :
    listVenues venues lineups (some s) =
      (listVenues venues lineups none).filter fun v => Searched s [v.key, v.name] := by
  simp only [listVenues, Text.matchesAny_none, List.filter_true]
  exact List.filter_congr fun v _ => matchesAny_searchTerm s (List.cons_ne_nil _ _)

theorem listMachines_search (machines : List (String × String)) (scores : List ScoreRecord) :
    listMachines machines scores (some s) =
      (listMachines machines scores none).filter fun m => Searched s [m.key, m.name] := by
  simp only [listMachines]
  rw [List.filter_map, List.filter_filter]
  refine congrArg (List.map _) (List.filter_congr fun m _ => ?_)
  obtain ⟨key, name⟩ := m
  dsimp only [Function.comp_apply]
  rw [Text.matchesAny_none, matchesAny_searchTerm s (List.cons_ne_nil _ _), Bool.and_true, Bool.and_comm]

theorem listPlayers_search (teams : List TeamSeason) (rosters : List RosterMembership) :
    listPlayers teams rosters (some s) =
      (listPlayers teams rosters none).filter fun p => Searched s [p.name, p.teamKey, p.teamName] := by
  unfold listPlayers
  cases currentSeason rosters with
  | none => rfl
  | some season =>
    simp only [Text.matchesAny_none, List.filter_true]
    exact List.filter_congr fun p _ => matchesAny_searchTerm s (List.cons_ne_nil _ _)

/-- The search is applied before the stable sort by key, which keeps the order of what it leaves. -/
theorem listTeams_search (teams : List TeamSeason) (venues : List (String × String)) :
    listTeams teams venues (some s) =
      (listTeams teams venues none).filter fun t => Searched s [t.key, t.name] := by
  unfold listTeams
  cases (teams.map (·.season)).max? with
  | none => rfl
  | some season =>
    simp only
    rw [← mergeSort_filter_comm TeamListing.key fun _ _ => decide_eq_true_iff, List.filter_map, List.filter_filter]
    refine congrArg (fun l => List.mergeSort (List.map _ l) _) (List.filter_congr fun t _ => ?_)
    dsimp only [Function.comp_apply]
    rw [Text.matchesAny_none, matchesAny_searchTerm s (List.cons_ne_nil _ _), Bool.and_true, Bool.and_comm]

end Search

/-! ### The full listings are in key order -/

theorem listVenues_keys (venues : List (String × String)) (lineups : List (String × List String)) :
    (listVenues venues lineups none).map (·.key) = distinctSorted (venues.map (·.1) ++ lineups.map (·.1)) := by
  simp [listVenues, Text.matchesAny_none, Function.comp_def]

theorem listMachines_keys (machines : List (String × String)) (scores : List ScoreRecord) :
    (listMachines machines scores none).map (·.key) =
      (machines.filter fun m => (scores.map (·.machineKey)).contains m.1).map (·.1) := by
  simp only [listMachines, Text.matchesAny_none, Bool.and_true, List.map_map]
  congr 1

/-- Pairs stand before one another in their lexicographic order. -/
theorem pairBefore_iff (a b : String × String) : pairBefore a b = true ↔ toLex a ≤ toLex b := by
  simp [pairBefore, Prod.Lex.toLex_le_toLex]

/-- The current season's entries: each (name, key) pair once, strictly increasing. -/
theorem pairwise_mergeSort_pairBefore {entries : List (String × String)} (hnd : entries.Nodup) :
    (entries.mergeSort pairBefore).Pairwise fun a b => a.1 < b.1 ∨ a.1 = b.1 ∧ a.2 < b.2 := by
  refine (pairwise_lt_mergeSort_of_key _ pairBefore_iff (hnd.map toLex.injective)).imp fun hlt => ?_
  rwa [Prod.Lex.toLex_lt_toLex] at hlt

theorem listPlayers_sorted (teams : List TeamSeason) (rosters : List RosterMembership) :
    (listPlayers teams rosters none).Pairwise fun a b => a.name < b.name ∨ a.name = b.name ∧ a.teamKey < b.teamKey := by
  unfold listPlayers
  cases currentSeason rosters with
  | none => exact List.Pairwise.nil
  | some season =>
    simp only [Text.matchesAny_none, List.filter_true]
    rw [List.pairwise_map]
    refine (pairwise_mergeSort_pairBefore (nodup_eraseDups _)).imp fun {a b} h => ?_
    obtain ⟨name, key⟩ := a
    obtain ⟨name', key'⟩ := b
    exact h

/-- A league snapshot's listings and their search. With the search text `s`, each listing is the
full listing less the entries without a field that contains `s` trimmed, ASCII capitals aside:
the key or name of a team, venue or machine, and the name, team key or team name of a player.
So a blank `s` lists everything. Without a search, the venues, machines and players are listed in
strictly increasing key order, (name, team key) for players, and the venues are the keys of the
venue names and of the lineups. -/
theorem listings_search (league : League) (s : String) :
    listTeams league.teams league.venues (some s) =
      (listTeams league.teams league.venues none).filter (fun t => Searched s [t.key, t.name]) ∧
    listVenues league.venues league.venueMachines (some s) =
      (listVenues league.venues league.venueMachines none).filter (fun v => Searched s [v.key, v.name]) ∧
    listMachines league.machines league.scores (some s) =
      (listMachines league.machines league.scores none).filter (fun m => Searched s [m.key, m.name]) ∧
    listPlayers league.teams league.rosters (some s) =
      (listPlayers league.teams league.rosters none).filter
        (fun p => Searched s [p.name, p.teamKey, p.teamName]) ∧
    ((∀ c ∈ s.toList, Text.isBlank c = true) →
      listTeams league.teams league.venues (some s) = listTeams league.teams league.venues none ∧
      listVenues league.venues league.venueMachines (some s) = listVenues league.venues league.venueMachines none ∧
      listMachines league.machines league.scores (some s) = listMachines league.machines league.scores none ∧
      listPlayers league.teams league.rosters (some s) = listPlayers league.teams league.rosters none) ∧
    ((listVenues league.venues league.venueMachines none).map (·.key)).Pairwise (· < ·) ∧
    (∀ k, k ∈ (listVenues league.venues league.venueMachines none).map (·.key) ↔
      k ∈ league.venues.map (·.1) ∨ k ∈ league.venueMachines.map (·.1)) ∧
    ((listMachines league.machines league.scores none).map (·.key)).Pairwise (· < ·) ∧
    (listPlayers league.teams league.rosters none).Pairwise
      (fun a b => a.name < b.name ∨ a.name = b.name ∧ a.teamKey < b.teamKey) := by
  refine ⟨listTeams_search s _ _, listVenues_search s _ _, listMachines_search s _ _, listPlayers_search s _ _,
    fun hblank => ⟨?_, ?_, ?_, ?_⟩, ?_, fun k => ?_, ?_, listPlayers_sorted _ _⟩
  · rw [listTeams_search, List.filter_eq_self.mpr fun t _ => searched_of_blank hblank (List.cons_ne_nil _ _)]
  · rw [listVenues_search, List.filter_eq_self.mpr fun v _ => searched_of_blank hblank (List.cons_ne_nil _ _)]
  · rw [listMachines_search, List.filter_eq_self.mpr fun m _ => searched_of_blank hblank (List.cons_ne_nil _ _)]
  · rw [listPlayers_search, List.filter_eq_self.mpr fun p _ => searched_of_blank hblank (List.cons_ne_nil _ _)]
  · rw [listVenues_keys]
    exact distinctSorted_sorted _
  · rw [listVenues_keys, mem_distinctSorted, List.mem_append]
  · rw [listMachines_keys]
    exact league.machines_ascending.sublist (List.filter_sublist.map _)

end PinballScout
