import Mathlib.Data.List.Perm.Subperm
import PinballScout.Proofs.Evaluation
import PinballScout.Proofs.Grouping

/-! What a query engine is taken to do, read from SQLite's documentation of `SELECT`, and the
    engine of this library doing it. The documentation fixes which rows a query returns and how
    often, but not their order without `ORDER BY` ("the order in which the rows are returned is
    undefined"), nor which rows `LIMIT` or a scalar subquery picks, nor which of several equal
    cells `DISTINCT` and `MAX` keep. The laws of an engine therefore speak of queries free of
    those choices, compare the engine's rows with the query's result up to their order, and fix
    the order only where `ORDER BY` does. -/

namespace PinballScout

/-! ### Queries whose rows hang on no order -/

mutual
/-- Whether an expression's value hangs on no order of rows: it reads subqueries only through
`IN` and `EXISTS`, and takes no `MAX` and no scalar subquery's first row. -/
def Expr.orderFree : Expr → Bool
  | .column .. | .param _ | .integer _ | .text _ => true
  | .eq a b | .and a b | .or a b | .like a b _ => a.orderFree && b.orderFree
  | .notNull a | .lower a => a.orderFree
  | .inList a items => a.orderFree && Expr.orderFreeList items
  | .inQuery a q => a.orderFree && q.orderFree
  | .exists q => q.orderFree
  | .scalar _ | .max _ => false

/-- Whether no expression of a list hangs on an order of rows. -/
def Expr.orderFreeList : List Expr → Bool
  | [] => true
  | e :: rest => e.orderFree && Expr.orderFreeList rest

/-- Whether no join condition hangs on an order of rows. -/
def Query.orderFreeJoins : List (JoinKind × Source × Expr) → Bool
  | [] => true
  | (_, _, on) :: rest => on.orderFree && Query.orderFreeJoins rest

/-- Whether the rows of a query, counted with their repetitions, hang on no order of rows: it
keeps repeated rows, takes no `LIMIT`, and its result columns, condition and join conditions hang
on none. Its own `ORDER BY` only orders the rows. -/
def Query.orderFree : Query → Bool
  | .select distinct columns _ joins filter _ limit =>
    !distinct && limit.isNone && Expr.orderFreeList columns &&
      (match filter with
        | some f => f.orderFree
        | none => true) && Query.orderFreeJoins joins
end

theorem Expr.orderFreeList_eq_all : ∀ l : List Expr, Expr.orderFreeList l = l.all Expr.orderFree
  | [] => rfl
  | e :: rest => by rw [Expr.orderFreeList, Expr.orderFreeList_eq_all rest, List.all_cons]

/-! ### The laws of an engine -/

/-- What SQLite documents of running a query (the `SELECT` statement): a query over the tables
and columns of a database is prepared and run; it returns the rows of its result, each as often,
in an order of the engine's choosing; and `ORDER BY` a result column puts the rows in ascending
order of that column, texts compared by the `BINARY` collation, code point by code point. -/
structure Engine.Lawful (engine : Engine) : Prop where
  /-- A query over tables and columns the database has runs to rows. -/
  runs : ∀ {db : Database} {q : Query} (params : List Cell), db ≠ .unreadable →
    (q.tables.all fun name => (db.table? name).isSome) → q.unknownColumn? db [] = none →
    ∃ rows, engine.run db q params = .ok rows
  /-- The rows of a query that hangs on no order are the rows of its result, in some order. -/
  permutes : ∀ {db : Database} {q : Query} {params : List Cell} {rows : List (List Cell)},
    q.orderFree = true → engine.run db q params = .ok rows → rows.Perm (q.result engine.text db params)
  /-- Sorted by one result column, ascending, rows whose cells there are texts come in the
  order of those texts. -/
  sortsByText : ∀ {db : Database} {distinct : Bool} {columns : List Expr} {source : Option Source}
    {joins : List (JoinKind × Source × Expr)} {filter : Option Expr} {e : Expr} {i : Nat}
    {params : List Cell} {rows : List (List Cell)},
    columns[i]? = some e →
    engine.run db (.select distinct columns source joins filter [(e, false)] none) params = .ok rows →
    (∀ row ∈ rows, ∃ s, row[i]? = some (.text s)) →
    rows.Pairwise fun a b => ∀ s s', a[i]? = some (.text s) → b[i]? = some (.text s') → s ≤ s'

/-! ### The engine of this library -/

theorem Expr.evalList_eq_map (run : Run) (scope : Scope) :
    ∀ l : List Expr, Expr.evalList run scope l = l.map (·.eval run scope)
  | [] => rfl
  | e :: rest => by rw [Expr.evalList, Expr.evalList_eq_map run scope rest, List.map_cons]

/-- Keeping a row only when no row kept before is like it keeps rows of the list. -/
theorem mem_foldl_keepNew {β : Type} (p : List β → β → Bool) :
    ∀ (l acc : List β) {x : β}, x ∈ l.foldl (fun acc r => if p acc r then acc else acc ++ [r]) acc →
      x ∈ acc ∨ x ∈ l
  | [], _, _, h => .inl h
  | r :: l, acc, x, h => by
    rw [List.foldl_cons] at h
    rcases mem_foldl_keepNew p l _ h with hacc | hl
    · split at hacc
      · exact .inl hacc
      · rcases List.mem_append.mp hacc with hacc | hr
        · exact .inl hacc
        · exact .inr (List.mem_singleton.mp hr ▸ List.mem_cons_self)
    · exact .inr (List.mem_cons_of_mem r hl)

/-- Rows that carry their sort key as a text in column `i` and are sorted by it ascending come in
the order of those texts. -/
theorem pairwise_mergeSort_textKey {i : Nat} {L : List (List Cell × List Cell)}
    (hkey : ∀ x ∈ L, ∃ s, x.1[i]? = some (.text s) ∧ x.2 = [.text s]) :
    ((L.mergeSort fun x y => compareKeys [false] x.2 y.2 != .gt).map (·.1)).Pairwise
      fun a b => ∀ s s', a[i]? = some (.text s) → b[i]? = some (.text s') → s ≤ s' := by
  -- on these rows the comparison is the text order of the key
  let key : List Cell × List Cell → String := fun x => ((x.2.head?).bind Cell.text?).getD ""
  have hcmp : ∀ x ∈ L, ∀ y ∈ L,
      (compareKeys [false] x.2 y.2 != .gt) = (fun a b : String => decide (a ≤ b)) (key x) (key y) := by
    intro x hx y hy
    obtain ⟨s, -, hs⟩ := hkey x hx
    obtain ⟨s', -, hs'⟩ := hkey y hy
    simp only [key, hs, hs', List.head?_cons, Option.bind_some, Cell.text?, Option.getD_some]
    exact compareKeys_text s s'
  have hsorted := pairwise_mergeSort_le (L.map key)
  rw [← List.map_mergeSort hcmp, List.pairwise_map] at hsorted
  rw [List.pairwise_map]
  refine hsorted.imp_of_mem fun {x y} hx hy hxy s s' hs hs' => ?_
  obtain ⟨t, ht, hkx⟩ := hkey x (List.mem_mergeSort.mp hx)
  obtain ⟨t', ht', hky⟩ := hkey y (List.mem_mergeSort.mp hy)
  rw [hs, Option.some.injEq, Cell.text.injEq] at ht
  rw [hs', Option.some.injEq, Cell.text.injEq] at ht'
  subst ht ht'
  simpa [key, hkx, hky, Cell.text?] using hxy

/-- The engine of this library sorts by one ascending text column as `ORDER BY` asks. -/
theorem Engine.reference_sortsByText {db : Database} {distinct : Bool} {columns : List Expr}
    {source : Option Source} {joins : List (JoinKind × Source × Expr)} {filter : Option Expr} {e : Expr}
    {i : Nat} {params : List Cell} {rows : List (List Cell)} (he : columns[i]? = some e)
    (h : Engine.reference.run db (.select distinct columns source joins filter [(e, false)] none) params = .ok rows)
    (htext : ∀ row ∈ rows, ∃ s, row[i]? = some (.text s)) :
    rows.Pairwise fun a b => ∀ s s', a[i]? = some (.text s) → b[i]? = some (.text s') → s ≤ s' := by
  obtain rfl := Database.run_eq_result h
  revert htext
  rw [Query.result]
  generalize Query.precompute _ _ _ _ = run
  simp only [Query.rows, List.map_cons, List.map_nil]
  split
  · exact fun _ => .nil
  · split
    · exact fun _ => List.pairwise_singleton _ _
    · -- every row kept carries its key, the cell of column `i`, beside its cells
      intro htext
      refine pairwise_mergeSort_textKey fun x hx => ?_
      have hproj : ∃ scope, x = (Expr.evalList run scope columns, Query.orderKeys run scope [(e, false)]) := by
        split at hx
        · rcases mem_foldl_keepNew _ _ _ hx with hnil | hx
          · cases hnil
          · obtain ⟨row, -, rfl⟩ := List.mem_map.mp hx
            exact ⟨_, rfl⟩
        · obtain ⟨row, -, rfl⟩ := List.mem_map.mp hx
          exact ⟨_, rfl⟩
      obtain ⟨scope, rfl⟩ := hproj
      obtain ⟨s, hs⟩ := htext _ (List.mem_map.mpr ⟨_, List.mem_mergeSort.mpr hx, rfl⟩)
      have hcell : (Expr.evalList run scope columns)[i]? = some (e.eval run scope) := by
        rw [Expr.evalList_eq_map, List.getElem?_map, he, Option.map_some]
      rw [hcell, Option.some.injEq] at hs
      exact ⟨s, hcell.trans (congrArg some hs), by simp [Query.orderKeys, hs]⟩

/-- The engine of this library keeps the laws. -/
theorem Engine.reference_lawful : Engine.reference.Lawful where
  runs _ hdb htables hcols := ⟨_, Database.run_eq_rows hdb htables hcols⟩
  permutes _ h := List.Perm.of_eq (Database.run_eq_result h)
  sortsByText := Engine.reference_sortsByText

end PinballScout
