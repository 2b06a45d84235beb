import Mathlib.Data.String.Basic
import PinballScout.Relational.Eval

/-! Facts about running queries that hold whatever the tables hold: a query over known tables
    and columns runs to the rows it computes; a column of a one-table scope reads the cell at
    the column's position; truth values written as cells read back as themselves; sorting by
    no keys keeps the row order, and one ascending text key sorts by the text order. -/

namespace PinballScout

/-! ### Cells -/

@[simp] theorem Cell.truth?_ofTruth (b : Option Bool) : (Cell.ofTruth b).truth? = b := by
  rcases b with _ | _ | _ <;> rfl

@[simp] theorem Cell.isNull_text (s : String) : (Cell.text s).isNull = false := rfl

@[simp] theorem Cell.isNull_integer (i : Int) : (Cell.integer i).isNull = false := rfl

@[simp] theorem Cell.isNull_null : Cell.null.isNull = true := rfl

@[simp] theorem Cell.same_text (a b : String) : Cell.same (.text a) (.text b) = (a == b) := by
  simp [Cell.same, Cell.order]

/-- One text against another never compares greater exactly when it is the smaller or equal. -/
theorem compare_ne_gt (a b : String) : (compare a b != .gt) = decide (a ≤ b) := by
  cases hc : compare a b with
  | lt => simp [le_of_lt (compare_lt_iff_lt.mp hc)]
  | eq => simp [compare_eq_iff_eq.mp hc]
  | gt => simp [not_le.mpr (compare_gt_iff_gt.mp hc)]

/-! ### Scopes -/

theorem Scope.lookup_cons {b : Bound} {rest : Scope} {a : Option String} {n : String}
    (h : Scope.Bound.answers b a n = true) : Scope.lookup (b :: rest) a n = Scope.lookup [b] a n := by
  simp [Scope.lookup, h]

/-- A column of the one table in scope reads the cell at the column's position. -/
theorem Scope.lookup_single {label : String} {columns : List Column} {cells : Option (List Cell)}
    {a : Option String} {n : String} {i : Nat}
    (ha : (a.map (sameName label ·)).getD true = true)
    (hi : columns.findIdx? (sameName ·.name n) = some i) :
    Scope.lookup [⟨label, columns, cells⟩] a n =
      some ((cells.bind (·[i]?)).getD .null, (columns[i]?.map (·.affinity)).getD .blob) := by
  have hany : columns.any (sameName ·.name n) = true := by
    rw [← List.findIdx?_isSome, hi]
    rfl
  simp [Scope.lookup, Scope.Bound.answers, ha, hany, hi]

/-! ### Running a query -/

/-- A query over known tables and columns runs to the rows it computes. -/
theorem Database.run_eq_rows {text : TextFunctions} {db : Database} {q : Query} {params : List Cell}
    (hdb : db ≠ .unreadable) (htables : q.tables.all fun name => (db.table? name).isSome)
    (hcols : q.unknownColumn? db [] = none) :
    db.run text q params = .ok (q.result text db params) := by
  have hfind : q.tables.find? (fun name => (db.table? name).isNone) = none := by
    rw [List.find?_eq_none]
    intro name hname
    simpa [Option.isSome_iff_ne_none] using (List.all_eq_true.mp htables) name hname
  cases db with
  | unreadable => exact absurd rfl hdb
  | tables ts => simp only [Database.run, hfind, hcols]

/-- A query that runs gives the rows it computes. -/
theorem Database.run_eq_result {text : TextFunctions} {db : Database} {q : Query} {params : List Cell}
    {rows : List (List Cell)} (h : db.run text q params = .ok rows) : rows = q.result text db params := by
  cases db with
  | unreadable => cases h
  | tables ts =>
    simp only [Database.run] at h
    split at h
    · cases h
    · split at h
      · cases h
      · exact (Except.ok.inj h).symm

/-- Sorting by no keys keeps every row where it is. -/
theorem mergeSort_no_keys (l : List (List Cell × List Cell)) :
    l.mergeSort (fun x y => compareKeys [] x.2 y.2 != .gt) = l :=
  List.mergeSort_of_pairwise (List.pairwise_of_forall fun _ _ => by simp [compareKeys])

/-- Sorting by one ascending text key is sorting by the text order. -/
theorem compareKeys_text (a b : String) :
    (compareKeys [false] [Cell.text a] [Cell.text b] != .gt) = decide (a ≤ b) := by
  have h := compare_ne_gt a b
  cases hc : compare a b <;> simp_all [compareKeys, Cell.order]

end PinballScout
