import Mathlib.Data.List.Nodup
import PinballScout.Proofs.QueryEngine
import PinballScout.Proofs.LeagueTables

/-! The machine listing of a league database against that of the snapshot the database stands for.
    The database lists every named machine that some game names, whether or not a score of it was
    ever finished; the snapshot holds finished scores only and lists the machines with one. On any
    lawful engine, the two listings agree exactly when every machine that a game names has a
    finished score: the engine returns the rows of the listing query in some order, and sorting
    them by their distinct keys leaves only one. A game that was never finished is the smallest
    league where they differ. -/

namespace PinballScout

namespace LeagueQuery

/-- The machine keys that some game names. -/
def namedByGames : Query :=
  .select false [.column none "machine_key"] (some ⟨"games", "games"⟩) []
    (some (.notNull (.column none "machine_key"))) [] none

/-- The named machines that some game names, by key. -/
def playedMachines : Query :=
  .select false [col "m" "key", col "m" "name"] (some ⟨"machines", "m"⟩) []
    (some (.inQuery (col "m" "key") namedByGames)) [(col "m" "key", false)] none

theorem machines_none : machines none = (playedMachines, []) := by
  simp +decide [machines, listing, Text.searchTerm, playedMachines, namedByGames]

/-- The listing query hangs on no order of rows. -/
theorem playedMachines_orderFree : playedMachines.orderFree = true := by decide

end LeagueQuery

namespace LeagueRows

variable (D : LeagueRows)

/-! ### Columns of the games and machines tables -/

theorem lookup_games_machineKey (label : String) (cells : Option (List Cell)) :
    Scope.lookup [⟨label, gamesColumns, cells⟩] none "machine_key" =
      some ((cells.bind (·[3]?)).getD .null, .text) := by
  rw [Scope.lookup_single rfl (by decide : gamesColumns.findIdx? (sameName ·.name "machine_key") = some 3)]
  rfl

theorem lookup_machineKey (g : Game) (label : String) :
    Scope.lookup [⟨label, gamesColumns, some g.cells⟩] none "machine_key" =
      some (optionCell .text g.machineKey, .text) := by
  rw [lookup_games_machineKey]
  rfl

theorem lookup_machines_key (m : Machine) :
    Scope.lookup [⟨"m", machinesColumns, some m.cells⟩] (some "m") "key" = some (.text m.key, .text) := by
  rw [Scope.lookup_single (by decide) (by decide : machinesColumns.findIdx? (sameName ·.name "key") = some 0)]
  rfl

theorem lookup_machines_name (m : Machine) :
    Scope.lookup [⟨"m", machinesColumns, some m.cells⟩] (some "m") "name" = some (.text m.name, .text) := by
  rw [Scope.lookup_single (by decide) (by decide : machinesColumns.findIdx? (sameName ·.name "name") = some 1)]
  rfl

@[simp] theorem map_numbered {β : Type} (f : List Cell → β) (rows : List (List Cell)) :
    (numbered rows).map (fun p => f p.2) = rows.map f := by
  conv_rhs => rw [← List.zipIdx_map_fst 0 rows, List.map_map]
  simp only [numbered, List.map_map]
  rfl

theorem machinesTable_bind (label : String) :
    D.machinesTable.bind label = D.machines.map fun m => ⟨label, machinesColumns, some m.cells⟩ := by
  simp only [Table.bind, machinesTable]
  exact (map_numbered (fun cells => (⟨label, machinesColumns, some cells⟩ : Bound)) _).trans
    (by simp [List.map_map, Function.comp_def])

/-! ### The machine keys some game names -/

theorem namedByGames_firstAffinity (outer : Scope) :
    LeagueQuery.namedByGames.firstAffinity D.database outer = some .text := by
  have hans : Scope.Bound.answers ⟨"games", gamesColumns, none⟩ none "machine_key" = true := by decide
  simp only [LeagueQuery.namedByGames, Query.firstAffinity, Query.namingScope, Query.namingScopeOf,
    Option.toList, List.map_nil, List.append_nil, List.filterMap_cons, table?_games, Option.map_some,
    List.filterMap_nil, gamesTable, Table.emptyBound, List.cons_append]
  rw [Scope.lookup_cons hans, lookup_games_machineKey]
  rfl

theorem namedByGames_unknownColumn : LeagueQuery.namedByGames.unknownColumn? D.database [] = none := by
  have hans : Scope.Bound.answers ⟨"games", gamesColumns, none⟩ none "machine_key" = true := by decide
  simp only [LeagueQuery.namedByGames, Query.unknownColumn?, Query.namingScopeOf, Option.toList,
    List.map_nil, List.append_nil, List.filterMap_cons, table?_games, Option.map_some, List.filterMap_nil,
    gamesTable, Table.emptyBound]
  simp [Expr.unknownColumnOfList, Expr.unknownColumn?, Query.unknownColumnOfJoins, Query.unknownColumnOfOrder,
    Scope.lookup_cons hans, lookup_games_machineKey]

theorem namedByGames_rows (run : Run) (hdb : run.db = D.database) :
    LeagueQuery.namedByGames.rows run [] = (D.games.filterMap (·.machineKey)).map fun k => [.text k] := by
  simp [LeagueQuery.namedByGames, Query.rows, hdb, table?_games, mergeSort_no_keys, Query.joinAll, Table.bind,
    gamesTable, List.filter_map, List.map_map, Function.comp_def, Query.keeps, Expr.eval, Expr.evalList,
    Query.orderKeys, lookup_machineKey]
  -- what is left keeps the games with a machine, one list step at a time
  induction D.games with
  | nil => rfl
  | cons g games ih =>
    cases hk : g.machineKey <;> simp [hk, ih]

/-! ### The listing query -/

theorem playedMachines_precompute (text : TextFunctions) :
    LeagueQuery.playedMachines.precompute text D.database [] =
      ⟨text, D.database, [],
        [(LeagueQuery.namedByGames, LeagueQuery.namedByGames.rows ⟨text, D.database, [], []⟩ [])]⟩ := by
  have hsub : LeagueQuery.playedMachines.subqueries = [LeagueQuery.namedByGames] := rfl
  simp [Query.precompute, hsub, namedByGames_unknownColumn]

/-- A machine row passes the listing's condition exactly when some game names its key. -/
theorem playedMachines_keeps (text : TextFunctions) (m : Machine) :
    Query.keeps ⟨text, D.database, [],
        [(LeagueQuery.namedByGames, LeagueQuery.namedByGames.rows ⟨text, D.database, [], []⟩ [])]⟩
        [] (some (.inQuery (.column (some "m") "key") LeagueQuery.namedByGames))
        [⟨"m", machinesColumns, some m.cells⟩] =
      D.games.any (·.machineKey == some m.key) := by
  have hself : (LeagueQuery.namedByGames == LeagueQuery.namedByGames) = true := by decide
  simp [Query.keeps, Expr.eval, Run.recall, hself, namedByGames_firstAffinity, Expr.affinity,
    lookup_machines_key, comparisonAffinity, namedByGames_rows D ⟨text, D.database, [], []⟩ rfl,
    Affinity.isNumeric, memberUnder, equalUnder]
  split_ifs with hnamed hnull
  · obtain ⟨g, hg, hkey⟩ := hnamed
    refine (List.any_eq_true.mpr ⟨g, hg, ?_⟩).symm
    cases hk : g.machineKey <;> simp_all
  · obtain ⟨g, -, hg⟩ := hnull
    cases hk : g.machineKey <;> simp_all
  · refine (List.any_eq_false.mpr fun g hg hmatch => hnamed ⟨g, hg, ?_⟩).symm
    cases hk : g.machineKey <;> simp_all

theorem playedMachines_tables :
    LeagueQuery.playedMachines.tables.all fun name => (D.database.table? name).isSome := by
  have htables : LeagueQuery.playedMachines.tables = ["machines", "games"] := by decide
  simp [htables, table?_machines, table?_games]

theorem playedMachines_unknownColumn : LeagueQuery.playedMachines.unknownColumn? D.database [] = none := by
  simp +decide [LeagueQuery.playedMachines, LeagueQuery.namedByGames, LeagueQuery.col, Query.unknownColumn?,
    Query.namingScopeOf, table?_machines, table?_games, machinesTable, gamesTable, Table.emptyBound,
    Expr.unknownColumnOfList, Expr.unknownColumn?, Query.unknownColumnOfJoins, Query.unknownColumnOfOrder,
    Scope.lookup, Scope.Bound.answers, machinesColumns, gamesColumns, idColumn, integerColumn, textColumn,
    sameName]

/-- The result of the listing query: the rows of the machines that some game names, in key order. -/
theorem playedMachines_result (text : TextFunctions) :
    LeagueQuery.playedMachines.result text D.database [] =
      ((D.machines.filter fun m => D.games.any (·.machineKey == some m.key)).mergeSort
        fun a b => decide (a.key ≤ b.key)).map Machine.cells := by
  rw [Query.result, playedMachines_precompute]
  simp [LeagueQuery.playedMachines, Query.rows, table?_machines, Query.joinAll, machinesTable_bind,
    List.filter_map, List.map_map, Function.comp_def, playedMachines_keeps, Expr.evalList, Query.orderKeys,
    LeagueQuery.col, Expr.eval, lookup_machines_key, lookup_machines_name]
  -- the rows sort by their key cell as the machines sort by key
  have horder : ∀ a ∈ D.machines.filter (fun m => D.games.any (·.machineKey == some m.key)),
      ∀ b ∈ D.machines.filter (fun m => D.games.any (·.machineKey == some m.key)),
      decide (a.key ≤ b.key) = (fun x y : List Cell × List Cell => compareKeys [false] x.2 y.2 != .gt)
        ([Cell.text a.key, Cell.text a.name], [Cell.text a.key])
        ([Cell.text b.key, Cell.text b.name], [Cell.text b.key]) :=
    fun a _ b _ => (compareKeys_text a.key b.key).symm
  rw [← List.map_mergeSort horder, List.map_map]
  rfl

/-- Two rows come in key order: their first cells are texts in order. -/
def KeyOrdered (a b : List Cell) : Prop := ∀ s s', a[0]? = some (.text s) → b[0]? = some (.text s') → s ≤ s'

/-- On a lawful engine, the listing query returns the rows of its result in key order, which with
distinct keys is the result itself. -/
theorem playedMachines_run {engine : Engine} (hengine : engine.Lawful) (hkeys : (D.machines.map (·.key)).Nodup) :
    engine.run D.database LeagueQuery.playedMachines [] =
      .ok (((D.machines.filter fun m => D.games.any (·.machineKey == some m.key)).mergeSort
        fun a b => decide (a.key ≤ b.key)).map Machine.cells) := by
  obtain ⟨rows, hrows⟩ := hengine.runs [] (by simp [database]) D.playedMachines_tables D.playedMachines_unknownColumn
  have hperm := hengine.permutes LeagueQuery.playedMachines_orderFree hrows
  rw [playedMachines_result] at hperm
  -- every row the engine returns is a machine's row, with its key first
  have hmachine : ∀ row ∈ rows, ∃ m ∈ D.machines, row = m.cells := fun row hrow => by
    obtain ⟨m, hm, rfl⟩ := List.mem_map.mp (hperm.subset hrow)
    exact ⟨m, (List.mem_filter.mp (List.mem_mergeSort.mp hm)).1, rfl⟩
  have htext : ∀ row ∈ rows, ∃ s, row[0]? = some (.text s) := fun row hrow => by
    obtain ⟨m, -, rfl⟩ := hmachine row hrow
    exact ⟨m.key, rfl⟩
  have hsorted : rows.Pairwise KeyOrdered := hengine.sortsByText (show [LeagueQuery.col "m" "key",
    LeagueQuery.col "m" "name"][0]? = some (LeagueQuery.col "m" "key") from rfl) hrows htext
  have hresult : (((D.machines.filter fun m => D.games.any (·.machineKey == some m.key)).mergeSort
      fun a b => decide (a.key ≤ b.key)).map Machine.cells).Pairwise KeyOrdered := by
    refine List.pairwise_map.mpr ((pairwise_mergeSort_byKey Machine.key _).imp fun hab s s' hs hs' => ?_)
    cases hs
    cases hs'
    exact hab
  -- with distinct keys, two rows each in key order of the other are one machine's row
  have hinj := List.inj_on_of_nodup_map hkeys
  refine hrows.trans (congrArg Except.ok (hperm.eq_of_pairwise (fun a b ha hb hab hba => ?_) hsorted hresult))
  obtain ⟨m, hm, rfl⟩ := hmachine a ha
  obtain ⟨m', hm', rfl⟩ := List.mem_map.mp hb
  have hm'' : m' ∈ D.machines := (List.mem_filter.mp (List.mem_mergeSort.mp hm')).1
  rw [hinj hm hm'' (le_antisymm (hab m.key m'.key rfl rfl) (hba m'.key m.key rfl rfl))]

/-! ### The two listings -/

/-- A machine row as the listing shows it. -/
def Machine.listing (m : Machine) : MachineListing := ⟨m.key, m.name⟩

/-- On a lawful engine, the database lists the machines that some game names, finished or not, in
key order. -/
theorem database_listMachines {engine : Engine} (hengine : engine.Lawful) (hkeys : (D.machines.map (·.key)).Nodup) :
    (D.database.store engine).listMachines none =
      .ok (((D.machines.filter fun m => D.games.any (·.machineKey == some m.key)).mergeSort
        fun a b => decide (a.key ≤ b.key)).map Machine.listing) := by
  have hrows : ∀ l : List Machine,
      (l.map fun m => ResultRow.mk m.cells LeagueQuery.playedMachines.columnNames).mapM (fun row => do
        let key ← row.get 0 Cell.readText
        let name ← row.get 1 Cell.readText
        pure (⟨key, name⟩ : MachineListing)) = .ok (l.map Machine.listing) := by
    intro l
    induction l with
    | nil => rfl
    | cons m rest ih =>
      simp only [List.map_cons, List.mapM_cons, ih]
      rfl
  have hfetch : D.database.fetch engine LeagueQuery.playedMachines [] =
      .ok ((((D.machines.filter fun m => D.games.any (·.machineKey == some m.key)).mergeSort
        fun a b => decide (a.key ≤ b.key)).map fun m => ResultRow.mk m.cells LeagueQuery.playedMachines.columnNames)) := by
    simp [Database.fetch, playedMachines_run D hengine hkeys, bind, Except.bind, pure, Except.pure, Function.comp_def]
  simp only [Database.store, Database.listing, LeagueQuery.machines_none]
  rw [hfetch]
  exact congrArg (Except.mapError (StoreError.database "failed to map listing rows")) (hrows _)

/-- With distinct machine keys, the snapshot lists the machines with a finished score, in key
order. -/
theorem snapshot_listMachines (hkeys : (D.machines.map (·.key)).Nodup) :
    D.snapshot.store.listMachines none =
      .ok (((D.machines.mergeSort fun a b => decide (a.key ≤ b.key)).filter fun m =>
        decide (m.key ∈ D.snapshot.scores.map (·.machineKey))).map Machine.listing) := by
  have hnames : lastPerKey (D.machines.map fun m => (m.key, m.name)) =
      (D.machines.mergeSort fun a b => decide (a.key ≤ b.key)).map fun m => (m.key, m.name) := by
    rw [lastPerKey_of_nodup (by simpa [Function.comp_def] using hkeys)]
    refine (List.map_mergeSort ?_).symm
    intro a _ b _
    rfl
  simp only [League.store, listMachines, snapshot, hnames]
  simp [List.filter_map, List.map_map, Function.comp_def, Text.matchesAny, Text.searchTerm, Machine.listing]

/-- With distinct keys, sorting by key and keeping some rows commute: both give the one list in
key order of the rows kept. -/
theorem mergeSort_filter {ms : List Machine} (hkeys : (ms.map (·.key)).Nodup) (p : Machine → Bool) :
    (ms.filter p).mergeSort (fun a b => decide (a.key ≤ b.key)) =
      (ms.mergeSort fun a b => decide (a.key ≤ b.key)).filter p := by
  have hinj := List.inj_on_of_nodup_map hkeys
  refine List.Perm.eq_of_pairwise (fun a b ha hb hab hba => ?_)
    (pairwise_mergeSort_byKey Machine.key _) ((pairwise_mergeSort_byKey Machine.key ms).filter p) ?_
  · have ha' : a ∈ ms := (List.mem_filter.mp (List.mem_mergeSort.mp ha)).1
    have hb' : b ∈ ms := List.mem_mergeSort.mp (List.mem_filter.mp hb).1
    exact hinj ha' hb' (le_antisymm hab hba)
  · exact (List.mergeSort_perm _ _).trans ((List.mergeSort_perm _ _).symm.filter p)

/-- A finished score's machine is named by the game it was played in. -/
theorem Result.record?_machine {r : Result} {s : ScoreRecord} (h : r.record? D = some s) :
    ∃ g ∈ D.games, g.machineKey = some s.machineKey := by
  simp only [Result.record?, Option.bind_eq_bind, Option.bind_eq_some_iff] at h
  obtain ⟨_, -, game, hgame, machine, hmachine, _, -, _, -, _, -, _, -, _, -, _, -, hs⟩ := h
  cases hs
  exact ⟨game, List.mem_of_find?_eq_some hgame, hmachine⟩

/-- On any lawful engine, the database and the snapshot list the same machines exactly when every
    machine that a game names has a finished score. -/
theorem machineListing_agrees_iff {engine : Engine} (hengine : engine.Lawful) (hkeys : (D.machines.map (·.key)).Nodup) :
    (D.database.store engine).listMachines none = D.snapshot.store.listMachines none ↔
      ∀ m ∈ D.machines, (∃ g ∈ D.games, g.machineKey = some m.key) →
        ∃ s ∈ D.snapshot.scores, s.machineKey = m.key := by
  rw [database_listMachines D hengine hkeys, snapshot_listMachines D hkeys, mergeSort_filter hkeys,
    Except.ok.injEq]
  constructor
  · rintro h m hm ⟨g, hg, hkey⟩
    have hlisted : m.listing ∈ ((D.machines.mergeSort fun a b => decide (a.key ≤ b.key)).filter
        fun m => D.games.any (·.machineKey == some m.key)).map Machine.listing :=
      List.mem_map_of_mem (List.mem_filter.mpr ⟨List.mem_mergeSort.mpr hm,
        List.any_eq_true.mpr ⟨g, hg, by simp [hkey]⟩⟩)
    rw [h] at hlisted
    obtain ⟨m', hm', hsame⟩ := List.mem_map.mp hlisted
    have hscored := (List.mem_filter.mp hm').2
    have hkey' : m'.key = m.key := congrArg MachineListing.key hsame
    simpa [hkey'] using hscored
  · intro h
    congr 1
    refine List.filter_congr fun m hm => ?_
    have hm' := List.mem_mergeSort.mp hm
    refine Bool.eq_iff_iff.mpr ⟨fun hnamed => ?_, fun hscored => ?_⟩
    · obtain ⟨g, hg, hkey⟩ := List.any_eq_true.mp hnamed
      simpa using h m hm' ⟨g, hg, by simpa using hkey⟩
    · obtain ⟨s, hs, hkey⟩ : ∃ s ∈ D.snapshot.scores, s.machineKey = m.key := by simpa using hscored
      obtain ⟨r, -, hr⟩ := List.mem_filterMap.mp hs
      obtain ⟨g, hg, hg'⟩ := Result.record?_machine D hr
      exact List.any_eq_true.mpr ⟨g, hg, by simp [hg', hkey]⟩

/-- One season, two teams, one match at one venue, and one game on one machine that Dave never
    finished. -/
def unfinishedGame : LeagueRows where
  machines := [⟨"TAF", "The Addams Family"⟩]
  seasons := [⟨1, 23⟩]
  players := [⟨1, "Dave"⟩]
  venues := [⟨1, "GPA", "Georgetown Pizza"⟩]
  teams := [⟨1, "TTT", "The Trailer Trashers", 1, some 1⟩, ⟨2, "KNR", "Knight Riders", 1, some 1⟩]
  lineups := [⟨1, "TAF", 1⟩]
  rosters := []
  fixtures := [⟨1, "m1", 1, 1, 1, 2, some 1⟩]
  games := [⟨1, 1, 1, some "TAF"⟩]
  results := [⟨1, 1, 1, 1, none⟩]

/-- With a game never finished, the database lists its machine through the engine of this library,
and the snapshot does not. -/
theorem machineListing_unfinished_game :
    Engine.reference.Lawful ∧ (unfinishedGame.machines.map (·.key)).Nodup ∧
      (unfinishedGame.database.store .reference).listMachines none ≠
        unfinishedGame.snapshot.store.listMachines none := by
  have hkeys : (unfinishedGame.machines.map (·.key)).Nodup := by decide
  have hunscored : unfinishedGame.snapshot.scores = [] := by decide
  refine ⟨Engine.reference_lawful, hkeys, fun hsame => ?_⟩
  obtain ⟨s, hs, -⟩ := (machineListing_agrees_iff unfinishedGame Engine.reference_lawful hkeys).mp hsame
    ⟨"TAF", "The Addams Family"⟩
    (by simp [unfinishedGame]) ⟨⟨1, 1, 1, some "TAF"⟩, by simp [unfinishedGame], rfl⟩
  simp [hunscored] at hs

end LeagueRows

end PinballScout
