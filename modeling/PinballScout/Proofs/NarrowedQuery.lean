import Mathlib.Data.List.Basic
import PinballScout.Proofs.QueryEngine
import PinballScout.Store.Database

/-! A cohort's scores at one venue are some of its scores everywhere, on any database and any
    lawful engine. The venue query is the unrestricted one with one more condition, on the venue
    key, and one more parameter after the others. A further condition keeps a sublist of the
    joined rows, and the unrestricted query reads only the parameters it was given, so the
    venue's result is a sublist of the result everywhere. An engine returns each result's rows in
    an order of its own, so its venue rows are some of its rows everywhere, counted with
    repetitions; reading both into score rows keeps that, whenever both succeed. -/

namespace PinballScout

/-! ### Failures along the way -/

theorem bind_eq_ok {ε α β : Type} {x : Except ε α} {f : α → Except ε β} {b : β} :
    x >>= f = .ok b ↔ ∃ a, x = .ok a ∧ f a = .ok b := by
  cases x with
  | error e => simp [bind, Except.bind]
  | ok a => simp [bind, Except.bind]

/-- Relabelling the error of a step leaves its successes as they are. -/
theorem mapError_eq_ok {ε ε' α : Type} {f : ε → ε'} {x : Except ε α} {a : α} :
    x.mapError f = .ok a ↔ x = .ok a := by
  cases x <;> simp [Except.mapError]

theorem within_eq_ok {α : Type} {context : String} {result : Except Fault α} {a : α} :
    within context result = .ok a ↔ result = .ok a :=
  mapError_eq_ok

theorem mapM_cons_eq_ok {ε α β : Type} {f : α → Except ε β} {a : α} {l : List α} {ys : List β} :
    (a :: l).mapM f = .ok ys ↔ ∃ b bs, f a = .ok b ∧ l.mapM f = .ok bs ∧ ys = b :: bs := by
  simp only [List.mapM_cons, bind_eq_ok]
  constructor
  · rintro ⟨b, hb, bs, hbs, h⟩
    cases h
    exact ⟨b, bs, hb, hbs, rfl⟩
  · rintro ⟨b, bs, hb, hbs, rfl⟩
    exact ⟨b, hb, bs, hbs, rfl⟩

/-- Reading rows in another order, when it succeeds, reads the same rows in that order. -/
theorem mapM_perm {ε α β : Type} {f : α → Except ε β} {l l' : List α} (h : l.Perm l') :
    ∀ {ys : List β}, l.mapM f = .ok ys → ∃ ys', l'.mapM f = .ok ys' ∧ ys.Perm ys' := by
  induction h with
  | nil =>
    intro ys hy
    exact ⟨ys, hy, .refl ys⟩
  | cons a _ ih =>
    intro ys hy
    obtain ⟨b, bs, hb, hbs, rfl⟩ := mapM_cons_eq_ok.mp hy
    obtain ⟨bs', hbs', hperm⟩ := ih hbs
    exact ⟨b :: bs', mapM_cons_eq_ok.mpr ⟨b, bs', hb, hbs', rfl⟩, hperm.cons b⟩
  | swap a a' l =>
    intro ys hy
    obtain ⟨b', bs, hb', hbs, rfl⟩ := mapM_cons_eq_ok.mp hy
    obtain ⟨b, cs, hb, hcs, rfl⟩ := mapM_cons_eq_ok.mp hbs
    refine ⟨b :: b' :: cs, ?_, .swap b b' cs⟩
    exact mapM_cons_eq_ok.mpr ⟨b, b' :: cs, hb, mapM_cons_eq_ok.mpr ⟨b', cs, hb', hcs, rfl⟩, rfl⟩
  | trans _ _ ih ih' =>
    intro ys hy
    obtain ⟨zs, hzs, hperm⟩ := ih hy
    obtain ⟨zs', hzs', hperm'⟩ := ih' hzs
    exact ⟨zs', hzs', hperm.trans hperm'⟩

/-- Reading a sublist of rows, when both readings succeed, gives a sublist of what is read. -/
theorem mapM_sublist {ε α β : Type} {f : α → Except ε β} {l l' : List α} (h : l'.Sublist l) :
    ∀ {ys ys' : List β}, l.mapM f = .ok ys → l'.mapM f = .ok ys' → ys'.Sublist ys := by
  induction h with
  | slnil =>
    intro ys ys' hy hy'
    cases hy
    cases hy'
    exact .slnil
  | cons a _ ih =>
    intro ys ys' hy hy'
    obtain ⟨b, bs, -, hbs, rfl⟩ := mapM_cons_eq_ok.mp hy
    exact (ih hbs hy').cons b
  | cons_cons a _ ih =>
    intro ys ys' hy hy'
    obtain ⟨b, bs, hb, hbs, rfl⟩ := mapM_cons_eq_ok.mp hy
    obtain ⟨b', bs', hb', hbs', rfl⟩ := mapM_cons_eq_ok.mp hy'
    -- the shared head is read the same way both times
    cases hb.symm.trans hb'
    exact (ih hbs hbs').cons_cons b

/-- Mapping some of the rows, counted with repetitions, gives some of the mapped rows. -/
theorem subperm_map {α β : Type} (f : α → β) {l l' : List α} (h : l'.Subperm l) : (l'.map f).Subperm (l.map f) :=
  let ⟨l'', hperm, hsub⟩ := h
  ⟨l''.map f, hperm.map f, hsub.map f⟩

/-- Reading some of the rows, counted with repetitions, when both readings succeed, gives some of
what is read. -/
theorem mapM_subperm {ε α β : Type} {f : α → Except ε β} {l l' : List α} (h : l'.Subperm l)
    {ys ys' : List β} (hy : l.mapM f = .ok ys) (hy' : l'.mapM f = .ok ys') : ys'.Subperm ys := by
  obtain ⟨l'', hperm, hsub⟩ := h
  obtain ⟨zs, hzs, hzperm⟩ := mapM_perm hperm.symm hy'
  exact hzperm.subperm.trans (mapM_sublist hsub hy hzs).subperm

/-! ### Running a query -/

/-- Computing the subqueries first changes only the rows known in advance. -/
theorem Query.precompute_eq (text : TextFunctions) (db : Database) (params : List Cell) (q : Query) :
    ∃ known, q.precompute text db params = ⟨text, db, params, known⟩ := by
  unfold Query.precompute
  generalize hr : (⟨text, db, params, []⟩ : Run) = run0
  have hfields : run0.text = text ∧ run0.db = db ∧ run0.params = params := by
    rw [← hr]
    exact ⟨rfl, rfl, rfl⟩
  clear hr
  -- each step only appends to the known rows
  induction (q.subqueries.filter fun s => (s.unknownColumn? db []).isNone) generalizing run0 with
  | nil =>
    obtain ⟨t, d, p, k⟩ := run0
    obtain ⟨rfl, rfl, rfl⟩ := hfields
    exact ⟨k, rfl⟩
  | cons s rest ih => exact ih _ hfields

/-- The result of a query is its rows computed with the text functions, the database and the
parameters it was given. -/
theorem Query.result_eq (text : TextFunctions) (db : Database) (params : List Cell) (q : Query) :
    ∃ known, q.result text db params = q.rows ⟨text, db, params, known⟩ [] := by
  obtain ⟨known, hk⟩ := Query.precompute_eq text db params q
  exact ⟨known, by rw [Query.result, hk]⟩

/-! ### The cohort score query -/

namespace LeagueQuery

/-- The result columns of the cohort score query: machine, player and score. -/
def cohortColumns : List Expr := [col "g" "machine_key", col "p" "name", col "gr" "score"]

/-- Results joined to their players, games, matches and (when there is one) venues. -/
def cohortJoins : List (JoinKind × Source × Expr) :=
  [join "players" "p" (.eq (col "p" "id") (col "gr" "player_id")),
    join "games" "g" (.eq (col "g" "id") (col "gr" "game_id")),
    join "matches" "m" (.eq (col "m" "id") (col "g" "match_id")),
    leftJoin "venues" "v" (.eq (col "v" "id") (col "m" "venue_id"))]

/-- The cohort score query under some condition. -/
def cohortSelect (filter : Option Expr) : Query :=
  .select false cohortColumns (some ⟨"game_results", "gr"⟩) cohortJoins filter [] none

/-- The conditions of the cohort score query before the venue's: a finished score on a named
machine, by one of `size` named players, on one machine when asked. -/
def cohortTerms (size : Nat) (machine : Bool) : List Expr :=
  [.notNull (col "gr" "score"), .notNull (col "g" "machine_key"), .inList (col "p" "name") (params 1 size)] ++
    if machine then [.eq (col "g" "machine_key") (.param (size + 1))] else []

theorem allOf_append_single {l : List Expr} (hl : l ≠ []) (t : Expr) : allOf (l ++ [t]) = (allOf l).map (.and · t) := by
  obtain ⟨e, rest, rfl⟩ := List.exists_cons_of_ne_nil hl
  simp [allOf, List.foldl_append]

theorem cohortScores_everywhere (size : Nat) (machine : Bool) :
    cohortScores size machine false = cohortSelect (allOf (cohortTerms size machine)) := by
  simp [cohortScores, cohortSelect, cohortTerms, cohortColumns, cohortJoins]

/-- At a venue, the query is the one everywhere with a condition on the venue key added. -/
theorem cohortScores_at_venue (size : Nat) (machine : Bool) :
    cohortScores size machine true = cohortSelect ((allOf (cohortTerms size machine)).map
      (.and · (.eq (col "v" "key") (.param (size + 1 + if machine then 1 else 0))))) := by
  rw [← allOf_append_single (by simp [cohortTerms])]
  simp [cohortScores, cohortSelect, cohortTerms, cohortColumns, cohortJoins]

end LeagueQuery

open LeagueQuery

/-- The rows of the cohort query: the joined rows that pass the condition, in join order, each
projected to its columns. -/
theorem cohortSelect_rows (run : Run) (outer : Scope) (filter : Option Expr) :
    (cohortSelect filter).rows run outer =
      match run.db.table? "game_results" with
      | none => []
      | some t => ((Query.joinAll run outer cohortJoins ((t.bind "gr").map fun b => [b])).filter
          (Query.keeps run outer filter)).map fun row => Expr.evalList run (row ++ outer) cohortColumns := by
  simp only [cohortSelect, Query.rows]
  cases run.db.table? "game_results" with
  | none => rfl
  | some t =>
    simp only [cohortColumns, col, Option.map_some, List.any_cons, List.any_nil, Bool.or_false,
      Bool.false_eq_true, ↓reduceIte, List.map_nil, mergeSort_no_keys, List.map_map]
    rfl

theorem and3_eq_some_true {a b : Option Bool} (h : and3 a b = some true) : a = some true := by
  rcases a with _ | _ | _ <;> rcases b with _ | _ | _ <;> first | rfl | cases h

/-- A further condition keeps a sublist of the rows. -/
theorem cohortSelect_and_sublist (run : Run) (outer : Scope) (f : Option Expr) (t : Expr) :
    ((cohortSelect (f.map (.and · t))).rows run outer).Sublist ((cohortSelect f).rows run outer) := by
  rw [cohortSelect_rows, cohortSelect_rows]
  cases run.db.table? "game_results" with
  | none => exact .slnil
  | some tb =>
    refine (List.monotone_filter_right _ fun row hrow => ?_).map _
    cases f with
    | none => rfl
    | some f =>
      simp only [Option.map_some, Query.keeps, Expr.eval, Cell.truth?_ofTruth, beq_iff_eq] at hrow ⊢
      exact and3_eq_some_true hrow

/-! ### Parameters the query does not read -/

theorem Expr.evalList_map {α : Type} (run : Run) (scope : Scope) (f : α → Expr) (l : List α) :
    Expr.evalList run scope (l.map f) = l.map fun a => (f a).eval run scope := by
  rw [Expr.evalList_eq_map, List.map_map]
  rfl

/-- Numbered parameters read the same cells once more parameters follow them. -/
theorem evalList_params_append (text : TextFunctions) (db : Database) (ps extra : List Cell)
    (k k' : List (Query × List (List Cell))) (scope : Scope) (start count : Nat) (hstart : 1 ≤ start)
    (hlen : start + count ≤ ps.length + 1) :
    Expr.evalList ⟨text, db, ps ++ extra, k⟩ scope (params start count) =
      Expr.evalList ⟨text, db, ps, k'⟩ scope (params start count) := by
  simp only [params, Expr.evalList_map]
  refine List.map_congr_left fun i hi => ?_
  have hi' : start + i - 1 < ps.length := by
    rw [List.mem_range] at hi
    omega
  show ((ps ++ extra)[start + i - 1]?).getD .null = (ps[start + i - 1]?).getD .null
  rw [List.getElem?_append_left hi']

section Params
variable {text : TextFunctions} {db : Database} {ps extra : List Cell} {k k' : List (Query × List (List Cell))}

/-- The conditions before the venue's read only the parameters before the venue's. -/
theorem keeps_cohortTerms {size : Nat} {machine : Bool} (hps : ps.length = size + if machine then 1 else 0)
    (outer row : Scope) :
    Query.keeps ⟨text, db, ps ++ extra, k⟩ outer (allOf (cohortTerms size machine)) row =
      Query.keeps ⟨text, db, ps, k'⟩ outer (allOf (cohortTerms size machine)) row := by
  have hlist := evalList_params_append text db ps extra k k' (row ++ outer) 1 size le_rfl
    (by split at hps <;> omega)
  cases machine with
  | false =>
    simp only [cohortTerms, Bool.false_eq_true, ↓reduceIte, List.append_nil, allOf, List.foldl_cons,
      List.foldl_nil, Query.keeps, Expr.eval, hlist]
    rfl
  | true =>
    have hp : (ps ++ extra)[size + 1 - 1]? = ps[size + 1 - 1]? :=
      List.getElem?_append_left (by simp at hps; omega)
    simp only [cohortTerms, ↓reduceIte, List.cons_append, List.nil_append, allOf, List.foldl_cons, List.foldl_nil,
      Query.keeps, Expr.eval, hlist, hp]
    rfl

/-- The query everywhere gives the same rows when a parameter is appended. -/
theorem cohortSelect_params_append {size : Nat} {machine : Bool} (hps : ps.length = size + if machine then 1 else 0) :
    (cohortSelect (allOf (cohortTerms size machine))).rows ⟨text, db, ps ++ extra, k⟩ [] =
      (cohortSelect (allOf (cohortTerms size machine))).rows ⟨text, db, ps, k'⟩ [] := by
  rw [cohortSelect_rows, cohortSelect_rows]
  cases db.table? "game_results" with
  | none => rfl
  | some tb =>
    dsimp only
    -- the joins and the result columns read no parameter at all
    have hjoin : Query.joinAll ⟨text, db, ps ++ extra, k⟩ [] cohortJoins ((tb.bind "gr").map fun b => [b]) =
        Query.joinAll ⟨text, db, ps, k'⟩ [] cohortJoins ((tb.bind "gr").map fun b => [b]) := rfl
    rw [hjoin, List.filter_congr fun row _ => keeps_cohortTerms hps [] row]
    rfl

end Params

/-- The result of the cohort query at a venue is a sublist of the result of the query everywhere. -/
theorem Query.result_at_venue_sublist (text : TextFunctions) (db : Database) {size : Nat} {machine : Bool}
    {ps : List Cell} (hps : ps.length = size + if machine then 1 else 0) (venue : Cell) :
    ((LeagueQuery.cohortScores size machine true).result text db (ps ++ [venue])).Sublist
      ((LeagueQuery.cohortScores size machine false).result text db ps) := by
  obtain ⟨k, hk⟩ := Query.result_eq text db ps (LeagueQuery.cohortScores size machine false)
  obtain ⟨k', hk'⟩ := Query.result_eq text db (ps ++ [venue]) (LeagueQuery.cohortScores size machine true)
  rw [hk, hk', cohortScores_at_venue, cohortScores_everywhere]
  have hsub := cohortSelect_and_sublist ⟨text, db, ps ++ [venue], k'⟩ [] (allOf (cohortTerms size machine))
    (.eq (col "v" "key") (.param (size + 1 + if machine then 1 else 0)))
  rwa [cohortSelect_params_append hps] at hsub

/-- The cohort query hangs on no order of rows. -/
theorem LeagueQuery.cohortScores_orderFree (size : Nat) (machine venue : Bool) :
    (LeagueQuery.cohortScores size machine venue).orderFree = true := by
  cases machine <;> cases venue <;>
    simp [LeagueQuery.cohortScores, LeagueQuery.params, LeagueQuery.allOf, LeagueQuery.col, LeagueQuery.join,
      LeagueQuery.leftJoin, Query.orderFree, Query.orderFreeJoins, Expr.orderFree, Expr.orderFreeList_eq_all]

/-- On a lawful engine, where both run, the cohort query at a venue returns some of the rows of
the query everywhere, counted with repetitions. -/
theorem Engine.Lawful.run_at_venue_subperm {engine : Engine} (hengine : engine.Lawful) {db : Database}
    {size : Nat} {machine : Bool} {ps : List Cell} {venue : Cell}
    (hps : ps.length = size + if machine then 1 else 0) {out out' : List (List Cell)}
    (h : engine.run db (LeagueQuery.cohortScores size machine false) ps = .ok out)
    (h' : engine.run db (LeagueQuery.cohortScores size machine true) (ps ++ [venue]) = .ok out') :
    out'.Subperm out := by
  have hperm := hengine.permutes (LeagueQuery.cohortScores_orderFree size machine false) h
  have hperm' := hengine.permutes (LeagueQuery.cohortScores_orderFree size machine true) h'
  exact (hperm'.subperm.trans (Query.result_at_venue_sublist engine.text db hps venue).subperm).trans
    hperm.symm.subperm

/-! ### Score rows -/

/-- On a lawful engine, the score rows of a cohort at a venue are some of its score rows
everywhere, counted with repetitions, whenever the database answers both. -/
theorem Engine.Lawful.cohortScores_at_venue_subperm {engine : Engine} (hengine : engine.Lawful) (db : Database)
    (cohort : List String) (machine : Option String) (venue : String) {rows rows' : List ScoreRow}
    (h : db.cohortScores engine cohort machine none = .ok rows)
    (h' : db.cohortScores engine cohort machine (some venue) = .ok rows') : rows'.Subperm rows := by
  unfold Database.cohortScores at h h'
  cases hc : cohort.isEmpty with
  | true =>
    simp only [hc, ↓reduceIte] at h h'
    cases h
    cases h'
    exact List.nil_subperm
  | false =>
    simp only [hc, Bool.false_eq_true, ↓reduceIte, LeagueQuery.cohortStatement, Option.isSome_none,
      Option.isSome_some, Option.toList_none, Option.toList_some, List.map_nil, List.map_cons, List.append_nil] at h h'
    obtain ⟨fetched, hf, hread⟩ := bind_eq_ok.mp h
    obtain ⟨fetched', hf', hread'⟩ := bind_eq_ok.mp h'
    obtain ⟨out, hrun, hout⟩ := bind_eq_ok.mp (within_eq_ok.mp hf)
    obtain ⟨out', hrun', hout'⟩ := bind_eq_ok.mp (within_eq_ok.mp hf')
    cases hout
    cases hout'
    have hlen : (cohort.map Cell.text ++ machine.toList.map Cell.text).length =
        cohort.length + if machine.isSome then 1 else 0 := by
      cases machine <;> simp
    have hsub := hengine.run_at_venue_subperm hlen hrun hrun'
    -- both queries name the same result columns
    have hnames : (LeagueQuery.cohortScores cohort.length machine.isSome true).columnNames =
        (LeagueQuery.cohortScores cohort.length machine.isSome false).columnNames := rfl
    rw [hnames] at hread'
    exact mapM_subperm (subperm_map _ hsub) (within_eq_ok.mp hread) (within_eq_ok.mp hread')

end PinballScout
