import Mathlib.Data.List.Basic
import PinballScout.Store.Database

/-! # Placeholders

A query never holds the values it runs with: its text names them by numbered placeholders `?1`,
`?2`, …, and the store binds its arguments to them by position. Two views of a query say what its
text is made of: its placeholders, in the order the text writes them (`Query.placeholders`), and
its words, the names and literal texts it is written with (`Query.words`).

Main statements: the text of a query whose words hold no `?` has exactly one `?` per placeholder.
The statement that fetches a cohort's scores, and those of the listings with and without a
search, number their placeholders `1, 2, …` up to the number of their arguments, in the order the
text writes them, so that each argument lands on its own placeholder; their text depends on the
number of players and on which options and searches are given, never on a name, key or term. -/

namespace PinballScout

/-! ### Placeholders and words -/

mutual
/-- The numbers of an expression's placeholders, in the order its text writes them. -/
def Expr.placeholders : Expr → List Nat
  | .column _ _ => []
  | .param i => [i]
  | .integer _ => []
  | .text _ => []
  | .eq a b => a.placeholders ++ b.placeholders
  | .notNull a => a.placeholders
  | .and a b => a.placeholders ++ b.placeholders
  | .or a b => a.placeholders ++ b.placeholders
  | .inList a items => a.placeholders ++ Expr.placeholdersOfList items
  | .inQuery a q => a.placeholders ++ q.placeholders
  | .scalar q => q.placeholders
  | .exists q => q.placeholders
  | .lower a => a.placeholders
  | .like a p _ => a.placeholders ++ p.placeholders
  | .max a => a.placeholders

def Expr.placeholdersOfList : List Expr → List Nat
  | [] => []
  | e :: rest => e.placeholders ++ Expr.placeholdersOfList rest

def Query.placeholdersOfJoins : List (JoinKind × Source × Expr) → List Nat
  | [] => []
  | (_, _, on) :: rest => on.placeholders ++ Query.placeholdersOfJoins rest

def Query.placeholdersOfOrder : List (Expr × Bool) → List Nat
  | [] => []
  | (e, _) :: rest => e.placeholders ++ Query.placeholdersOfOrder rest

/-- The numbers of a query's placeholders, in the order its text writes them. -/
def Query.placeholders : Query → List Nat
  | .select _ columns _ joins filter order _ =>
    Expr.placeholdersOfList columns ++ Query.placeholdersOfJoins joins ++
      (match filter with
        | some f => f.placeholders
        | none => []) ++ Query.placeholdersOfOrder order
end

mutual
/-- The names and literal texts an expression's text is written with. -/
def Expr.words : Expr → List String
  | .column none name => [name]
  | .column (some «alias») name => [«alias», name]
  | .param _ => []
  | .integer _ => []
  | .text v => [v]
  | .eq a b => a.words ++ b.words
  | .notNull a => a.words
  | .and a b => a.words ++ b.words
  | .or a b => a.words ++ b.words
  | .inList a items => a.words ++ Expr.wordsOfList items
  | .inQuery a q => a.words ++ q.words
  | .scalar q => q.words
  | .exists q => q.words
  | .lower a => a.words
  | .like a p e => a.words ++ p.words ++ [e.toString]
  | .max a => a.words

def Expr.wordsOfList : List Expr → List String
  | [] => []
  | e :: rest => e.words ++ Expr.wordsOfList rest

def Query.wordsOfJoins : List (JoinKind × Source × Expr) → List String
  | [] => []
  | (_, s, on) :: rest => [s.table, s.alias] ++ on.words ++ Query.wordsOfJoins rest

def Query.wordsOfOrder : List (Expr × Bool) → List String
  | [] => []
  | (e, _) :: rest => e.words ++ Query.wordsOfOrder rest

/-- The names and literal texts a query's text is written with. -/
def Query.words : Query → List String
  | .select _ columns source joins filter order _ =>
    Expr.wordsOfList columns ++
      (match source with
        | some s => [s.table, s.alias]
        | none => []) ++ Query.wordsOfJoins joins ++
      (match filter with
        | some f => f.words
        | none => []) ++ Query.wordsOfOrder order
end

@[simp] theorem Query.placeholders_select (d : Bool) (c : List Expr) (s : Option Source)
    (j : List (JoinKind × Source × Expr)) (f : Option Expr) (o : List (Expr × Bool)) (l : Option Nat) :
    (Query.select d c s j f o l).placeholders = Expr.placeholdersOfList c ++ Query.placeholdersOfJoins j ++
      (f.map Expr.placeholders).getD [] ++ Query.placeholdersOfOrder o := by
  cases f <;> rfl

@[simp] theorem Query.words_select (d : Bool) (c : List Expr) (s : Option Source)
    (j : List (JoinKind × Source × Expr)) (f : Option Expr) (o : List (Expr × Bool)) (l : Option Nat) :
    (Query.select d c s j f o l).words = Expr.wordsOfList c ++ (s.map fun s => [s.table, s.alias]).getD [] ++
      Query.wordsOfJoins j ++ (f.map Expr.words).getD [] ++ Query.wordsOfOrder o := by
  cases s <;> cases f <;> rfl

/-- Words that hold no `?`. -/
def Unmarked (words : List String) : Prop := ∀ w ∈ words, '?' ∉ w.toList

instance : DecidablePred Unmarked := fun words => inferInstanceAs (Decidable (∀ w ∈ words, '?' ∉ w.toList))

/-! ### Counting `?` in a text -/

section Count

theorem count_toDigits (n : Nat) : (Nat.toDigits 10 n).count '?' = 0 := by
  refine List.count_eq_zero_of_not_mem fun h => ?_
  -- the decimal digits of a number are digits, and `?` is not one
  have : ('?').isDigit = true := Nat.isDigit_of_mem_toDigits (by decide) (by decide) h
  exact absurd this (by decide)

theorem count_repr_int (v : Int) : v.repr.toList.count '?' = 0 := by
  cases v with
  | ofNat n => simp [Int.repr, count_toDigits]
  | negSucc n => simp [Int.repr, String.toList_append, count_toDigits]

theorem count_quoteText (s : String) : (quoteText s).toList.count '?' = s.toList.count '?' := by
  -- doubling the quotes keeps every other character once
  have hjoin : ∀ l : List Char,
      (String.join (l.map fun c => if c == '\'' then "''" else c.toString)).toList.count '?' = l.count '?' := by
    intro l
    induction l with
    | nil => rfl
    | cons c l ih =>
      rw [List.map_cons, String.join_cons, String.toList_append, List.count_append, ih, List.count_cons]
      by_cases hc : c = '\''
      · subst hc
        simp
      · by_cases hq : c = '?' <;> simp [hc, hq, Char.toString, Nat.add_comm]
  simp only [quoteText, String.toList_append, List.count_append, hjoin]
  simp

end Count

/-! ### One `?` per placeholder -/

namespace Unmarked

theorem append {l l' : List String} : Unmarked (l ++ l') ↔ Unmarked l ∧ Unmarked l' := by
  simp [Unmarked, or_imp, forall_and]

theorem cons {w : String} {l : List String} : Unmarked (w :: l) ↔ '?' ∉ w.toList ∧ Unmarked l := by
  simp [Unmarked]

end Unmarked

theorem count_render_source {s : Source} (h : Unmarked [s.table, s.alias]) : s.render.toList.count '?' = 0 := by
  simp only [Unmarked.cons] at h
  unfold Source.render
  split <;> simp [String.toList_append, List.count_eq_zero_of_not_mem h.1,
    List.count_eq_zero_of_not_mem h.2.1]

theorem count_render_of_source {source : Option Source}
    (h : Unmarked (match source with
      | some s => [s.table, s.alias]
      | none => [])) : ∀ s, source = some s → s.render.toList.count '?' = 0 := by
  rintro s rfl
  exact count_render_source h

/-- A select's text has one `?` per placeholder when each of its parts has. -/
theorem count_render_select {distinct : Bool} {columns : List Expr} {source : Option Source}
    {joins : List (JoinKind × Source × Expr)} {filter : Option Expr} {order : List (Expr × Bool)}
    {limit : Option Nat} (hc : (Expr.renderList columns).toList.count '?' = (Expr.placeholdersOfList columns).length)
    (hs : ∀ s, source = some s → s.render.toList.count '?' = 0)
    (hj : (Query.renderJoins joins).toList.count '?' = (Query.placeholdersOfJoins joins).length)
    (hf : ∀ f, filter = some f → f.render.toList.count '?' = f.placeholders.length)
    (ho : (Query.renderOrder order).toList.count '?' = (Query.placeholdersOfOrder order).length) :
    (Query.select distinct columns source joins filter order limit).render.toList.count '?' =
      (Query.select distinct columns source joins filter order limit).placeholders.length := by
  have horder : (if order = [] then "" else " ORDER BY " ++ Query.renderOrder order).toList.count '?' =
      (Query.placeholdersOfOrder order).length := by
    split
    · next he => rw [he]; rfl
    · simp [String.toList_append, ho]
  have hdistinct : (if distinct then "DISTINCT " else "").toList.count '?' = 0 := by split <;> simp
  rw [Query.render.eq_def, Query.placeholders.eq_def]
  dsimp only
  cases source <;> cases filter <;> cases limit <;>
    simp [String.toList_append, hc, hj, horder, hdistinct, hs, hf, count_toDigits]

-- Each case splits the words as the text is split, and counts the `?` of the fixed parts.
mutual
theorem Expr.count_render (e : Expr) (h : Unmarked e.words) : e.render.toList.count '?' = e.placeholders.length := by
  match e with
  | .column none name =>
    simp only [Expr.words, Unmarked.cons] at h
    simp [Expr.render, Expr.placeholders, List.count_eq_zero_of_not_mem h.1]
  | .column (some «alias») name =>
    simp only [Expr.words, Unmarked.cons] at h
    simp [Expr.render, Expr.placeholders, String.toList_append, List.count_eq_zero_of_not_mem h.1,
      List.count_eq_zero_of_not_mem h.2.1]
  | .param i => simp [Expr.render, Expr.placeholders, String.toList_append, count_toDigits]
  | .integer v => simp [Expr.render, Expr.placeholders, count_repr_int]
  | .text v =>
    simp only [Expr.words, Unmarked.cons] at h
    simp [Expr.render, Expr.placeholders, count_quoteText, List.count_eq_zero_of_not_mem h.1]
  | .eq a b | .and a b | .or a b =>
    rw [Expr.words, Unmarked.append] at h
    simp [Expr.render, Expr.placeholders, String.toList_append, a.count_render h.1, b.count_render h.2]
  | .notNull a | .lower a | .max a =>
    rw [Expr.words] at h
    simp [Expr.render, Expr.placeholders, String.toList_append, a.count_render h]
  | .inList a items =>
    rw [Expr.words, Unmarked.append] at h
    simp [Expr.render, Expr.placeholders, String.toList_append, a.count_render h.1,
      Expr.count_renderList items h.2]
  | .inQuery a q =>
    rw [Expr.words, Unmarked.append] at h
    simp [Expr.render, Expr.placeholders, String.toList_append, a.count_render h.1, q.count_render h.2]
  | .scalar q | .exists q =>
    rw [Expr.words] at h
    simp [Expr.render, Expr.placeholders, String.toList_append, q.count_render h]
  | .like a p c =>
    rw [Expr.words, Unmarked.append, Unmarked.append, Unmarked.cons] at h
    have hc : c ≠ '?' := fun hq => h.2.1 (by simp [hq, Char.toString])
    simp [Expr.render, Expr.placeholders, String.toList_append, a.count_render h.1.1, p.count_render h.1.2,
      count_quoteText, hc]

theorem Expr.count_renderList (l : List Expr) (h : Unmarked (Expr.wordsOfList l)) :
    (Expr.renderList l).toList.count '?' = (Expr.placeholdersOfList l).length := by
  match l with
  | [] => rfl
  | [e] =>
    rw [Expr.wordsOfList, Expr.wordsOfList, List.append_nil] at h
    simp [Expr.renderList, Expr.placeholdersOfList, e.count_render h]
  | e :: e' :: rest =>
    rw [Expr.wordsOfList, Unmarked.append] at h
    simp [Expr.renderList, Expr.placeholdersOfList, String.toList_append, e.count_render h.1,
      Expr.count_renderList (e' :: rest) h.2]

theorem Query.count_renderJoins (l : List (JoinKind × Source × Expr)) (h : Unmarked (Query.wordsOfJoins l)) :
    (Query.renderJoins l).toList.count '?' = (Query.placeholdersOfJoins l).length := by
  match l with
  | [] => rfl
  | (k, s, on) :: rest =>
    rw [Query.wordsOfJoins, Unmarked.append, Unmarked.append] at h
    have hk : k.render.toList.count '?' = 0 := by cases k <;> simp [JoinKind.render]
    simp [Query.renderJoins, Query.placeholdersOfJoins, String.toList_append, hk, count_render_source h.1.1,
      on.count_render h.1.2, Query.count_renderJoins rest h.2]

theorem Query.count_renderOrder (l : List (Expr × Bool)) (h : Unmarked (Query.wordsOfOrder l)) :
    (Query.renderOrder l).toList.count '?' = (Query.placeholdersOfOrder l).length := by
  match l with
  | [] => rfl
  | [(e, d)] =>
    rw [Query.wordsOfOrder, Query.wordsOfOrder, List.append_nil] at h
    cases d <;> simp [Query.renderOrder, Query.placeholdersOfOrder, String.toList_append, e.count_render h]
  | (e, d) :: o :: rest =>
    rw [Query.wordsOfOrder, Unmarked.append] at h
    cases d <;> simp [Query.renderOrder, Query.placeholdersOfOrder, String.toList_append, e.count_render h.1,
      Query.count_renderOrder (o :: rest) h.2]

theorem Query.count_render (q : Query) (h : Unmarked q.words) : q.render.toList.count '?' = q.placeholders.length := by
  -- the condition is matched here, so that the call on it is one on a part of the query
  match q with
  | .select distinct columns source joins none order limit =>
    simp only [Query.words, Unmarked.append] at h
    obtain ⟨⟨⟨⟨hc, hs⟩, hj⟩, -⟩, ho⟩ := h
    exact count_render_select (Expr.count_renderList columns hc) (count_render_of_source hs)
      (Query.count_renderJoins joins hj) (fun _ h => nomatch h) (Query.count_renderOrder order ho)
  | .select distinct columns source joins (some f) order limit =>
    simp only [Query.words, Unmarked.append] at h
    obtain ⟨⟨⟨⟨hc, hs⟩, hj⟩, hf⟩, ho⟩ := h
    exact count_render_select (Expr.count_renderList columns hc) (count_render_of_source hs)
      (Query.count_renderJoins joins hj) (fun _ h => Option.some_inj.mp h ▸ f.count_render hf)
      (Query.count_renderOrder order ho)
end

/-! ### Statements -/

/-- A statement is a query with the arguments bound to its placeholders. -/
abbrev Statement := Query × List Cell

namespace Statement

/-- The values its placeholders receive, in the order its text writes them: the placeholder `?i`
receives the `i`-th argument, as the query's evaluation reads it. -/
def bound (s : Statement) : List Cell := s.1.placeholders.map fun i => (s.2[i - 1]?).getD .null

/-- A statement binds by position: its text has one `?` per argument, and its placeholders, in the
order the text writes them, are numbered `1, 2, …` up to the number of arguments. -/
structure BindsByPosition (s : Statement) : Prop where
  count : s.1.render.toList.count '?' = s.2.length
  numbered : s.1.placeholders = List.range' 1 s.2.length

/-- A statement whose placeholders are numbered `1, 2, …` in text order binds by position when its
words hold no `?`. -/
theorem bindsByPosition_of_numbered {s : Statement} (hw : Unmarked s.1.words)
    (hn : s.1.placeholders = List.range' 1 s.2.length) : s.BindsByPosition where
  count := by rw [Query.count_render s.1 hw, hn, List.length_range']
  numbered := hn

/-- Placeholders numbered `1, 2, …` receive the arguments in their order. -/
theorem BindsByPosition.bound_eq {s : Statement} (h : s.BindsByPosition) : s.bound = s.2 := by
  rw [bound, h.numbered]
  apply List.ext_getElem (by simp)
  intro i hi hi'
  simp only [List.getElem_map, List.getElem_range']
  rw [List.getElem?_eq_getElem (by omega)]
  simp

end Statement

/-! ### Building blocks of the store's queries -/

namespace LeagueQuery

theorem params_succ (start n : Nat) : params start (n + 1) = .param start :: params (start + 1) n := by
  simp only [params, List.range_succ_eq_map, List.map_cons, List.map_map, Nat.add_zero]
  congr 1
  refine List.map_congr_left fun i _ => ?_
  simp [Nat.add_assoc, Nat.add_comm 1 i]

theorem placeholdersOfList_params (start n : Nat) : Expr.placeholdersOfList (params start n) = List.range' start n := by
  induction n generalizing start with
  | zero => rfl
  | succ n ih => simp [params_succ, Expr.placeholdersOfList, Expr.placeholders, ih, List.range'_succ]

theorem wordsOfList_params (start n : Nat) : Expr.wordsOfList (params start n) = [] := by
  induction n generalizing start with
  | zero => rfl
  | succ n ih => simp [params_succ, Expr.wordsOfList, Expr.words, ih]

end LeagueQuery

section Fold
variable {op : Expr → Expr → Expr}

/-- Conditions folded by a connective have the placeholders of the conditions, in order. -/
theorem placeholders_foldl (hop : ∀ a b, (op a b).placeholders = a.placeholders ++ b.placeholders)
    (e : Expr) (rest : List Expr) : (rest.foldl op e).placeholders = e.placeholders ++ Expr.placeholdersOfList rest := by
  induction rest generalizing e with
  | nil => simp [Expr.placeholdersOfList]
  | cons a rest ih => simp [ih, hop, Expr.placeholdersOfList]

theorem words_foldl (hop : ∀ a b, (op a b).words = a.words ++ b.words) (e : Expr) (rest : List Expr) :
    (rest.foldl op e).words = e.words ++ Expr.wordsOfList rest := by
  induction rest generalizing e with
  | nil => simp [Expr.wordsOfList]
  | cons a rest ih => simp [ih, hop, Expr.wordsOfList]

end Fold

/-! ### The cohort statement -/

namespace LeagueQuery

theorem cohortScores_placeholders (n : Nat) (machine venue : Bool) :
    (cohortScores n machine venue).placeholders =
      List.range' 1 (n + (if machine then 1 else 0) + (if venue then 1 else 0)) := by
  rw [cohortScores, Query.placeholders.eq_def]
  -- the conditions are joined by `AND`, and only the player list, machine and venue take parameters
  cases machine <;> cases venue <;>
    simp [allOf, Expr.placeholders, Expr.placeholdersOfList, Query.placeholdersOfJoins, Query.placeholdersOfOrder,
      placeholdersOfList_params, col, join, leftJoin, List.range'_concat] <;> omega

theorem cohortScores_unmarked (n : Nat) (machine venue : Bool) : Unmarked (cohortScores n machine venue).words := by
  rw [cohortScores, Query.words.eq_def]
  cases machine <;> cases venue <;>
    simp [allOf, Expr.words, Expr.wordsOfList, Query.wordsOfJoins, Query.wordsOfOrder, wordsOfList_params, col,
      join, leftJoin] <;> decide

theorem cohortStatement_bindsByPosition (players : List String) (machine venue : Option String) :
    Statement.BindsByPosition (cohortStatement players machine venue) := by
  refine Statement.bindsByPosition_of_numbered (cohortScores_unmarked _ _ _) ?_
  rw [cohortStatement, cohortScores_placeholders]
  cases machine <;> cases venue <;> simp [Nat.add_assoc]

/-! ### The search clause and the listings -/

section Search
variable {g : Expr × Expr → Expr}

/-- Clauses pairing columns without placeholders with the parameters from `start` take those
parameters, one per column, in order. -/
theorem placeholdersOfList_zip_params (hg : ∀ c p, (g (c, p)).placeholders = c.placeholders ++ p.placeholders) :
    ∀ (start : Nat) (columns : List Expr), Expr.placeholdersOfList columns = [] →
      Expr.placeholdersOfList ((columns.zip (params start columns.length)).map g) = List.range' start columns.length
  | _, [], _ => rfl
  | start, c :: rest, h => by
    simp only [Expr.placeholdersOfList, List.append_eq_nil_iff] at h
    simp only [List.length_cons, params_succ, List.zip_cons_cons, List.map_cons, Expr.placeholdersOfList, hg, h.1,
      placeholdersOfList_zip_params hg (start + 1) rest h.2, List.range'_succ, Expr.placeholders, List.nil_append,
      List.singleton_append]

theorem unmarked_zip_params (hg : ∀ c p, (g (c, p)).words = c.words ++ p.words ++ ["\\"]) :
    ∀ (start : Nat) (columns : List Expr), Unmarked (Expr.wordsOfList columns) →
      Unmarked (Expr.wordsOfList ((columns.zip (params start columns.length)).map g))
  | _, [], _ => by simp [Unmarked, Expr.wordsOfList]
  | start, c :: rest, h => by
    rw [Expr.wordsOfList, Unmarked.append] at h
    simp only [List.length_cons, params_succ, List.zip_cons_cons, List.map_cons, Expr.wordsOfList, hg,
      Expr.words, List.append_nil, Unmarked.append]
    exact ⟨⟨h.1, by decide⟩, unmarked_zip_params hg (start + 1) rest h.2⟩

end Search

/-- The search clause over some columns without placeholders or marks is absent exactly for no
columns; when present it takes the parameters from `start` on, one per column, and its words hold
no `?`. -/
theorem searchCondition_spec (start : Nat) {columns : List Expr} (hp : Expr.placeholdersOfList columns = [])
    (hw : Unmarked (Expr.wordsOfList columns)) :
    (searchCondition start columns = none → columns = []) ∧
      ∀ s, searchCondition start columns = some s →
        s.placeholders = List.range' start columns.length ∧ Unmarked s.words := by
  unfold searchCondition
  dsimp only
  split
  · next hnil =>
    refine ⟨fun _ => ?_, fun _ h => by cases h⟩
    simpa [params] using hnil
  · next c rest hcons =>
    -- the clauses, one per column, are joined by `OR`
    have hcl : Expr.placeholdersOfList (c :: rest) = List.range' start columns.length := by
      rw [← hcons]
      refine placeholdersOfList_zip_params ?_ start columns hp
      intro c p
      rfl
    have hcw : Unmarked (Expr.wordsOfList (c :: rest)) := by
      rw [← hcons]
      refine unmarked_zip_params ?_ start columns hw
      intro c p
      rfl
    refine ⟨fun h => (by cases h), fun s hs => ?_⟩
    cases hs
    rw [placeholders_foldl (fun _ _ => rfl), words_foldl (fun _ _ => rfl)]
    exact ⟨hcl, hcw⟩

section Listing
variable {columns : List Expr} {source : Source} {joins : List (JoinKind × Source × Expr)} {condition : Expr}
  {searched : List Expr} {order : List Expr}

/-- The query of a listing depends on whether a search term is given, never on the term. -/
theorem listing_query_congr {search search' : Option String}
    (h : (Text.searchTerm search').isSome = (Text.searchTerm search).isSome) :
    (listing columns source joins condition searched search' order).1 =
      (listing columns source joins condition searched search order).1 := by
  unfold listing
  cases hs : Text.searchTerm search with
  | none =>
    have hnone : Text.searchTerm search' = none := by
      rw [hs, Option.isSome_none] at h
      exact Option.not_isSome_iff_eq_none.mp (by simp [h])
    rw [hnone]
  | some t =>
    obtain ⟨t', ht'⟩ := Option.isSome_iff_exists.mp (h.trans (by simp [hs]))
    rw [ht']

/-- A listing with a search term has one argument per searched column, and none without. -/
theorem listing_arguments_length (search : Option String) :
    (listing columns source joins condition searched search order).2.length =
      if (Text.searchTerm search).isSome then searched.length else 0 := by
  unfold listing
  cases Text.searchTerm search <;> simp

/-- A listing whose query without a search has no placeholders or marks, searching columns
without placeholders or marks, binds its search patterns by position. -/
theorem listing_bindsByPosition (hbase : (listing columns source joins condition searched none order).1.placeholders = [])
    (hbw : Unmarked (listing columns source joins condition searched none order).1.words)
    (hsp : Expr.placeholdersOfList searched = []) (hsw : Unmarked (Expr.wordsOfList searched))
    (search : Option String) : Statement.BindsByPosition (listing columns source joins condition searched search order) := by
  obtain ⟨habsent, hpresent⟩ := searchCondition_spec 1 hsp hsw
  simp only [listing, Text.searchTerm, Option.map_none] at hbase hbw
  -- the parts of the query without a search take no parameters
  have hparts := hbase
  simp only [Query.placeholders_select, Option.map_some, Option.getD_some, List.append_eq_nil_iff] at hparts
  obtain ⟨⟨⟨hc, hj⟩, hcond⟩, ho⟩ := hparts
  unfold listing
  cases Text.searchTerm search with
  | none => exact Statement.bindsByPosition_of_numbered hbw (hbase.trans rfl)
  | some term =>
    cases hs : searchCondition 1 searched with
    | none =>
      -- no column is searched: the query is the one without a search
      have hnil := habsent hs
      subst hnil
      exact Statement.bindsByPosition_of_numbered hbw (hbase.trans rfl)
    | some clause =>
      obtain ⟨hcp, hcw⟩ := hpresent clause hs
      refine Statement.bindsByPosition_of_numbered ?_ ?_
      · -- the words are those of the query without a search and those of the clause
        simp only [Query.words_select, Option.map_some, Option.getD_some, Expr.words, Unmarked.append,
          and_assoc] at hbw ⊢
        exact ⟨hbw.1, hbw.2.1, hbw.2.2.1, hbw.2.2.2.1, hcw, hbw.2.2.2.2⟩
      · simp [hc, hj, hcond, ho, Expr.placeholders, hcp]

end Listing

/-- The four listings of the store bind their search patterns by position, for every search. -/
theorem listings_bindsByPosition (search : Option String) :
    Statement.BindsByPosition (teams search) ∧ Statement.BindsByPosition (venues search) ∧
      Statement.BindsByPosition (machines search) ∧ Statement.BindsByPosition (players search) :=
  -- each listing's query without a search, and its searched columns, are checked by evaluation
  ⟨listing_bindsByPosition (by decide) (by decide) (by decide) (by decide) search,
    listing_bindsByPosition (by decide) (by decide) (by decide) (by decide) search,
    by dsimp only [machines]; exact listing_bindsByPosition (by decide) (by decide) (by decide) (by decide) search,
    listing_bindsByPosition (by decide) (by decide) (by decide) (by decide) search⟩

end LeagueQuery

open LeagueQuery in
/-- Statements bind their arguments by position, and no value enters the text of a query. The
statement that fetches the scores of some players numbers its placeholders `1, 2, …` in text order,
one per argument, so that they receive the players in order, then the machine, then the venue; its
query depends only on the number of players and on which of machine and venue are given. A listing
adds to a query without placeholders a search clause over the searched columns whose placeholders
receive one search pattern each, and its query depends only on whether a search term is given; the
store's four listings all bind by position. -/
theorem statements_bind_by_position :
    (∀ (names : List String) (machine venue : Option String),
      Statement.BindsByPosition (cohortStatement names machine venue) ∧
      Statement.bound (cohortStatement names machine venue) =
        names.map .text ++ machine.toList.map .text ++ venue.toList.map .text ∧
      ∀ (names' : List String) (machine' venue' : Option String), names'.length = names.length →
        machine'.isSome = machine.isSome → venue'.isSome = venue.isSome →
        (cohortStatement names' machine' venue').1 = (cohortStatement names machine venue).1) ∧
    (∀ (columns : List Expr) (source : Source) (joins : List (JoinKind × Source × Expr)) (condition : Expr)
      (searched order : List Expr),
      (listing columns source joins condition searched none order).1.placeholders = [] →
      Unmarked (listing columns source joins condition searched none order).1.words →
      Expr.placeholdersOfList searched = [] → Unmarked (Expr.wordsOfList searched) →
      ∀ search : Option String,
        Statement.BindsByPosition (listing columns source joins condition searched search order) ∧
        (listing columns source joins condition searched search order).2.length =
          (if (Text.searchTerm search).isSome then searched.length else 0) ∧
        ∀ search' : Option String, (Text.searchTerm search').isSome = (Text.searchTerm search).isSome →
          (listing columns source joins condition searched search' order).1 =
            (listing columns source joins condition searched search order).1) ∧
    (∀ search : Option String,
      Statement.BindsByPosition (teams search) ∧ Statement.BindsByPosition (venues search) ∧
        Statement.BindsByPosition (machines search) ∧ Statement.BindsByPosition (players search)) := by
  refine ⟨fun names machine venue => ⟨cohortStatement_bindsByPosition names machine venue,
    (cohortStatement_bindsByPosition names machine venue).bound_eq, ?_⟩, ?_, listings_bindsByPosition⟩
  · -- the query is built from the number of players and the presence of the options alone
    intro names' machine' venue' hn hm hv
    simp only [cohortStatement, hn, hm, hv]
  · intro columns source joins condition searched order hbase hbw hsp hsw search
    exact ⟨listing_bindsByPosition hbase hbw hsp hsw search, listing_arguments_length search,
      fun _ h => listing_query_congr h⟩

open LeagueQuery in
/-- The venue listing's parts, searched for a knight. -/
theorem statements_bind_by_position_venues :
    (listing [.column none "key", .column none "name"] ⟨"venues", "venues"⟩ [] (.eq (.integer 1) (.integer 1))
      [.column none "key", .column none "name"] none [.column none "key"]).1.placeholders = [] ∧
    Unmarked (listing [.column none "key", .column none "name"] ⟨"venues", "venues"⟩ [] (.eq (.integer 1) (.integer 1))
      [.column none "key", .column none "name"] none [.column none "key"]).1.words ∧
    Expr.placeholdersOfList [.column none "key", .column none "name"] = [] ∧
    Unmarked (Expr.wordsOfList [.column none "key", .column none "name"]) ∧
    Statement.BindsByPosition (listing [.column none "key", .column none "name"] ⟨"venues", "venues"⟩ []
      (.eq (.integer 1) (.integer 1)) [.column none "key", .column none "name"] (some "Knight") [.column none "key"]) := by
  have hbase : (listing [.column none "key", .column none "name"] ⟨"venues", "venues"⟩ [] (.eq (.integer 1) (.integer 1))
      [.column none "key", .column none "name"] none [.column none "key"]).1.placeholders = [] := by decide
  have hbw : Unmarked (listing [.column none "key", .column none "name"] ⟨"venues", "venues"⟩ []
      (.eq (.integer 1) (.integer 1)) [.column none "key", .column none "name"] none [.column none "key"]).1.words := by
    decide
  have hsp : Expr.placeholdersOfList [.column none "key", .column none "name"] = [] := by decide
  have hsw : Unmarked (Expr.wordsOfList [.column none "key", .column none "name"]) := by decide
  exact ⟨hbase, hbw, hsp, hsw,
    (statements_bind_by_position.2.1 _ _ _ _ _ _ hbase hbw hsp hsw (some "Knight")).1⟩

end PinballScout
