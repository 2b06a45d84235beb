import PinballScout.Relational.Query
import PinballScout.Relational.Table
import PinballScout.Relational.Like
import PinballScout.Relational.Fault

/-!
# Running queries

A query runs in two steps. Preparing it checks its names: first every table it names, in the
order the query and then its subqueries name them, then every column, in the order of result
columns, conditions (the `WHERE` condition before the join conditions) and sort keys, with a
subquery checked where it occurs. The first unknown name is the fault.

Running it joins each table's rows in row-id order to the rows before (an empty partner for a
left join without match), keeps the rows the condition holds for, computes the result columns
(or, for an aggregate, one row over all kept rows), drops repeated rows if asked, sorts stably
by the sort keys and cuts to the limit.

Conditions have three values: true, false and unknown (`NULL`). Comparisons bring their
operands to a common affinity first (see `comparisonAffinity`) and are unknown when an operand
is empty. `LOWER` and `LIKE` are the run's text functions.

A store runs its queries through an `Engine`; `Engine.reference` runs them as above.
-/

namespace PinballScout

/-- One table's row in scope: its alias, columns and cells (`none` for the empty partner of a
left join). -/
structure Bound where
  «alias» : String
  columns : List Column
  cells : Option (List Cell)

/-- The rows in scope, innermost first. -/
abbrev Scope := List Bound

namespace Scope

/-- Whether a bound row answers to a column reference. -/
def Bound.answers (b : Bound) («alias» : Option String) (name : String) : Bool :=
  («alias».map (sameName b.alias ·)).getD true && b.columns.any (sameName ·.name name)

/-- A column's cell and affinity, from the innermost row that has it. -/
def lookup (scope : Scope) («alias» : Option String) (name : String) : Option (Cell × Affinity) :=
  match scope.find? (Bound.answers · «alias» name) with
  | none => none
  | some b =>
    match b.columns.findIdx? (sameName ·.name name) with
    | none => none
    | some i =>
      let aff := (b.columns[i]?.map (·.affinity)).getD .blob
      let cell := (b.cells.bind (·[i]?)).getD .null
      some (cell, aff)

end Scope

namespace Cell

/-- The truth of a cell as a condition: unknown when empty, else whether it is a non-zero
number. -/
def truth? : Cell → Option Bool
  | .null => none
  | .integer i => some (i != 0)
  | .real x => some (x != 0)
  | .text s => match numberOfText? s with
    | some (.integer i) => some (i != 0)
    | some (.real x) => some (x != 0)
    | _ => some false
  | .blob _ => some false

/-- A truth value as a cell: one, zero, or empty when unknown. -/
def ofTruth : Option Bool → Cell
  | some true => .integer 1
  | some false => .integer 0
  | none => .null

/-- Whether a cell is empty. -/
def isNull : Cell → Bool
  | .null => true
  | _ => false

end Cell

/-- Three-valued conjunction. -/
def and3 : Option Bool → Option Bool → Option Bool
  | some false, _ => some false
  | _, some false => some false
  | some true, some true => some true
  | _, _ => none

/-- Three-valued disjunction. -/
def or3 : Option Bool → Option Bool → Option Bool
  | some true, _ => some true
  | _, some true => some true
  | some false, some false => some false
  | _, _ => none

/-- Whether two cells are equal once brought to an affinity; unknown when one is empty. -/
def equalUnder (aff : Option Affinity) (a b : Cell) : Option Bool :=
  if a.isNull || b.isNull then none
  else
    let prep (c : Cell) : Cell := match aff with
      | some x => c.forComparison x
      | none => c
    some (Cell.same (prep a) (prep b))

/-- Membership of a cell among others: true if equal to one, unknown if not and the cell or
one of the others is empty, false otherwise. -/
def memberUnder (aff : Option Affinity) (a : Cell) (items : List Cell) : Option Bool :=
  if a.isNull then none
  else if items.any fun c => equalUnder aff a c == some true then some true
  else if items.any Cell.isNull then none
  else some false

/-- The largest non-empty cell, the first of equals; empty when there is none. -/
def largest (cells : List Cell) : Cell :=
  cells.foldl (fun best c =>
    if c.isNull then best
    else if best.isNull then c
    else if Cell.order best c == .lt then c else best) .null

/-- Sort keys in order, each ascending or descending. -/
def compareKeys : List Bool → List Cell → List Cell → Ordering
  | desc :: ds, a :: as, b :: bs =>
    match Cell.order a b with
    | .eq => compareKeys ds as bs
    | o => if desc then o.swap else o
  | _, _, _ => .eq

/-- The rows of a table as bound rows under an alias. -/
def Table.bind (t : Table) («alias» : String) : List Bound :=
  t.rows.map fun (_, cells) => ⟨«alias», t.columns, some cells⟩

/-- The empty bound row of a table, as a left join adds it. -/
def Table.emptyBound (t : Table) («alias» : String) : Bound := ⟨«alias», t.columns, none⟩

namespace Query

/-- The bound rows of a source and joined tables, without cells: the scope their names resolve in. -/
def namingScopeOf (db : Database) (source : Option Source) (joins : List (JoinKind × Source × Expr)) :
    Scope :=
  (source.toList ++ joins.map (·.2.1)).filterMap fun s => (db.table? s.table).map (·.emptyBound s.alias)

/-- The scope a query's names resolve in. -/
def namingScope (db : Database) : Query → Scope
  | .select _ _ source joins _ _ _ => namingScopeOf db source joins

/-- Whether a query is an aggregate: one of its result columns is a `MAX`. -/
def isAggregate : Query → Bool
  | .select _ columns _ _ _ _ _ => columns.any fun
    | .max _ => true
    | _ => false

/-- The affinity of a query's first result column, when it is a column. -/
def firstAffinity (db : Database) (outer : Scope) (q : Query) : Option Affinity :=
  match q with
  | .select _ (.column a n :: _) _ _ _ _ _ => ((q.namingScope db ++ outer).lookup a n).map (·.2)
  | _ => none

/-- The names of a query's result columns: a column's own name, else the expression's text. -/
def columnNames : Query → List String
  | .select _ columns _ _ _ _ _ => columns.map fun
    | .column _ n => n
    | e => e.render

end Query

/-- The text functions of conditions: `LOWER(a)` and `a LIKE pattern ESCAPE c`. -/
structure TextFunctions where
  lower : String → String
  like : String → String → Char → Bool

/-- The text functions of this library: `LOWER` folds the ASCII capitals, `LIKE` is `likeMatch`. -/
def TextFunctions.reference : TextFunctions where
  lower s := String.ofList (s.toList.map Char.toLower)
  like := likeMatch

/-- What a query runs with: the text functions, the database, the bound parameters, and the rows
of subqueries that do not depend on enclosing rows, each computed once. -/
structure Run where
  text : TextFunctions
  db : Database
  params : List Cell
  known : List (Query × List (List Cell))

/-- The rows of a subquery computed before, if it is one. -/
def Run.recall (run : Run) (q : Query) : Option (List (List Cell)) :=
  (run.known.find? (·.1 == q)).map (·.2)

/-- The affinity of an expression: a column's, a subquery's first column's, or none. -/
def Expr.affinity (db : Database) (scope : Scope) : Expr → Option Affinity
  | .column a n => (scope.lookup a n).map (·.2)
  | .scalar q => q.firstAffinity db scope
  | _ => none

mutual
/-- The value of an expression over the rows in scope. -/
def Expr.eval (run : Run) (scope : Scope) : Expr → Cell
  | .column a n => ((scope.lookup a n).map (·.1)).getD .null
  | .param i => (run.params[i - 1]?).getD .null
  | .integer v => .integer v
  | .text v => .text v
  | .eq a b =>
    let aff := comparisonAffinity (a.affinity run.db scope) (b.affinity run.db scope)
    Cell.ofTruth (equalUnder aff (a.eval run scope) (b.eval run scope))
  | .notNull a => Cell.ofTruth (some !(a.eval run scope).isNull)
  | .and a b => Cell.ofTruth (and3 (a.eval run scope).truth? (b.eval run scope).truth?)
  | .or a b => Cell.ofTruth (or3 (a.eval run scope).truth? (b.eval run scope).truth?)
  | .inList a items =>
    Cell.ofTruth (memberUnder (a.affinity run.db scope) (a.eval run scope)
      (Expr.evalList run scope items))
  | .inQuery a q =>
    let aff := comparisonAffinity (q.firstAffinity run.db scope) (a.affinity run.db scope)
    Cell.ofTruth (memberUnder aff (a.eval run scope)
      (((run.recall q).getD (q.rows run scope)).map fun row => row.headD .null))
  | .scalar q => (((run.recall q).getD (q.rows run scope)).head?.bind List.head?).getD .null
  | .exists q => Cell.ofTruth (some !((run.recall q).getD (q.rows run scope)).isEmpty)
  | .lower a => match (a.eval run scope).text? with
    | some s => .text (run.text.lower s)
    | none => .null
  | .like a p e => match (a.eval run scope).text?, (p.eval run scope).text? with
    | some v, some pat => Cell.ofTruth (some (run.text.like v pat e))
    | _, _ => .null
  | .max a => a.eval run scope

/-- The values of expressions. -/
def Expr.evalList (run : Run) (scope : Scope) : List Expr → List Cell
  | [] => []
  | e :: rest => e.eval run scope :: Expr.evalList run scope rest

/-- The values of aggregate result columns over the kept rows: a `MAX` over all of them, any
other expression on the first. -/
def Expr.aggregateList (run : Run) (outer : Scope) (rows : List Scope) :
    List Expr → List Cell
  | [] => []
  | e :: rest =>
    let value := match e with
      | .max a => largest (rows.map fun r => a.eval run (r ++ outer))
      | other => (rows.head?.map fun r => other.eval run (r ++ outer)).getD .null
    value :: Expr.aggregateList run outer rows rest

/-- The sort keys of a row. -/
def Query.orderKeys (run : Run) (scope : Scope) :
    List (Expr × Bool) → List Cell
  | [] => []
  | (e, _) :: rest => e.eval run scope :: Query.orderKeys run scope rest

/-- Joins each table in turn to the rows so far. -/
def Query.joinAll (run : Run) (outer : Scope) :
    List (JoinKind × Source × Expr) → List Scope → List Scope
  | [], rows => rows
  | (kind, src, on) :: rest, rows =>
    match run.db.table? src.table with
    | none => []
    | some t =>
      let next := rows.flatMap fun row =>
        let partners := (t.bind src.alias).filterMap fun b =>
          let candidate := row ++ [b]
          if (on.eval run (candidate ++ outer)).truth? == some true then some candidate
          else none
        if partners.isEmpty && kind == .left then [row ++ [t.emptyBound src.alias]] else partners
      Query.joinAll run outer rest next

/-- Whether a row in scope passes a query's condition; every row passes without one. -/
def Query.keeps (run : Run) (outer : Scope) : Option Expr → Scope → Bool
  | some f, row => (f.eval run (row ++ outer)).truth? == some true
  | none, _ => true

/-- The result rows of a query, with rows of enclosing queries in scope. -/
def Query.rows (run : Run) (outer : Scope) : Query → List (List Cell)
  | .select distinct columns source joins filter order limit =>
    let start : Option (List Scope) := match source with
      | none => some [[]]
      | some s => (run.db.table? s.table).map fun t => (t.bind s.alias).map fun b => [b]
    match start with
    | none => []
    | some start =>
      let joined := Query.joinAll run outer joins start
      let kept := joined.filter (Query.keeps run outer filter)
      let aggregate := columns.any fun
        | .max _ => true
        | _ => false
      if aggregate then [Expr.aggregateList run outer kept columns]
      else
        let projected := kept.map fun row =>
          (Expr.evalList run (row ++ outer) columns, Query.orderKeys run (row ++ outer) order)
        let unique := if distinct then
            projected.foldl (fun acc r =>
              if acc.any (fun s => s.1.length == r.1.length &&
                (s.1.zip r.1).all fun (x, y) => Cell.same x y) then acc else acc ++ [r]) []
          else projected
        let directions := order.map (·.2)
        let sorted := unique.mergeSort fun x y => compareKeys directions x.2 y.2 != .gt
        let out := sorted.map (·.1)
        match limit with
        | some n => out.take n
        | none => out
end

/-! ### Preparing -/

mutual
/-- The tables named by an expression's subqueries, in the order they are looked up. -/
def Expr.tables : Expr → List String
  | .column .. | .param _ | .integer _ | .text _ => []
  | .eq a b | .and a b | .or a b | .like a b _ => a.tables ++ b.tables
  | .notNull a | .lower a | .max a => a.tables
  | .inList a items => a.tables ++ Expr.tablesOfList items
  | .inQuery a q => a.tables ++ q.tables
  | .scalar q | .exists q => q.tables

/-- The tables named by a list of expressions. -/
def Expr.tablesOfList : List Expr → List String
  | [] => []
  | e :: rest => e.tables ++ Expr.tablesOfList rest

/-- The tables named in join conditions. -/
def Query.tablesOfJoins : List (JoinKind × Source × Expr) → List String
  | [] => []
  | (_, _, on) :: rest => on.tables ++ Query.tablesOfJoins rest

/-- The tables named in sort keys. -/
def Query.tablesOfOrder : List (Expr × Bool) → List String
  | [] => []
  | (e, _) :: rest => e.tables ++ Query.tablesOfOrder rest

/-- The tables a query names, in lookup order: its own, then those of its result columns,
condition, join conditions and sort keys. -/
def Query.tables : Query → List String
  | .select _ columns source joins filter order _ =>
    (source.toList.map (·.table) ++ joins.map (·.2.1.table)) ++ Expr.tablesOfList columns ++
      (match filter with
        | some f => f.tables
        | none => []) ++
      Query.tablesOfJoins joins ++ Query.tablesOfOrder order
end

/-- The text of a column reference. -/
def columnText : Option String → String → String
  | some a, n => a ++ "." ++ n
  | none, n => n

mutual
/-- The first column reference of an expression that names no column in scope. -/
def Expr.unknownColumn? (db : Database) (scope : Scope) : Expr → Option String
  | .column a n => if (scope.lookup a n).isSome then none else some (columnText a n)
  | .param _ | .integer _ | .text _ => none
  | .eq a b | .and a b | .or a b | .like a b _ =>
    (a.unknownColumn? db scope).or (b.unknownColumn? db scope)
  | .notNull a | .lower a | .max a => a.unknownColumn? db scope
  | .inList a items => (a.unknownColumn? db scope).or (Expr.unknownColumnOfList db scope items)
  | .inQuery a q => (a.unknownColumn? db scope).or (q.unknownColumn? db scope)
  | .scalar q | .exists q => q.unknownColumn? db scope

/-- The first unknown column reference of a list of expressions. -/
def Expr.unknownColumnOfList (db : Database) (scope : Scope) : List Expr → Option String
  | [] => none
  | e :: rest => (e.unknownColumn? db scope).or (Expr.unknownColumnOfList db scope rest)

/-- The first unknown column reference of join conditions. -/
def Query.unknownColumnOfJoins (db : Database) (scope : Scope) :
    List (JoinKind × Source × Expr) → Option String
  | [] => none
  | (_, _, on) :: rest => (on.unknownColumn? db scope).or (Query.unknownColumnOfJoins db scope rest)

/-- The first unknown column reference of sort keys. -/
def Query.unknownColumnOfOrder (db : Database) (scope : Scope) : List (Expr × Bool) → Option String
  | [] => none
  | (e, _) :: rest => (e.unknownColumn? db scope).or (Query.unknownColumnOfOrder db scope rest)

/-- The first unknown column reference of a query, with enclosing queries' tables in scope. -/
def Query.unknownColumn? (db : Database) (outer : Scope) : Query → Option String
  | .select _ columns source joins filter order _ =>
    let scope := Query.namingScopeOf db source joins ++ outer
    (Expr.unknownColumnOfList db scope columns).or
      ((match filter with
        | some f => f.unknownColumn? db scope
        | none => none).or
      ((Query.unknownColumnOfJoins db scope joins).or (Query.unknownColumnOfOrder db scope order)))
end

mutual
/-- The subqueries of an expression, each after its own subqueries. -/
def Expr.subqueries : Expr → List Query
  | .column .. | .param _ | .integer _ | .text _ => []
  | .eq a b | .and a b | .or a b | .like a b _ => a.subqueries ++ b.subqueries
  | .notNull a | .lower a | .max a => a.subqueries
  | .inList a items => a.subqueries ++ Expr.subqueriesOfList items
  | .inQuery a q => a.subqueries ++ q.subqueries ++ [q]
  | .scalar q | .exists q => q.subqueries ++ [q]

/-- The subqueries of a list of expressions. -/
def Expr.subqueriesOfList : List Expr → List Query
  | [] => []
  | e :: rest => e.subqueries ++ Expr.subqueriesOfList rest

/-- The subqueries of join conditions. -/
def Query.subqueriesOfJoins : List (JoinKind × Source × Expr) → List Query
  | [] => []
  | (_, _, on) :: rest => on.subqueries ++ Query.subqueriesOfJoins rest

/-- The subqueries of sort keys. -/
def Query.subqueriesOfOrder : List (Expr × Bool) → List Query
  | [] => []
  | (e, _) :: rest => e.subqueries ++ Query.subqueriesOfOrder rest

/-- The subqueries inside a query, each after its own subqueries. -/
def Query.subqueries : Query → List Query
  | .select _ columns _ joins filter order _ =>
    Expr.subqueriesOfList columns ++
      (match filter with
        | some f => f.subqueries
        | none => []) ++
      Query.subqueriesOfJoins joins ++ Query.subqueriesOfOrder order
end

/-- Computes, innermost first, the rows of the subqueries that name no enclosing row. -/
def Query.precompute (text : TextFunctions) (db : Database) (params : List Cell) (q : Query) : Run :=
  let standalone := q.subqueries.filter fun s => (s.unknownColumn? db []).isNone
  standalone.foldl (fun run s => { run with known := run.known ++ [(s, s.rows run [])] })
    ⟨text, db, params, []⟩

/-- The rows of a query with its parameters bound, as it runs above. -/
def Query.result (text : TextFunctions) (db : Database) (params : List Cell) (q : Query) : List (List Cell) :=
  q.rows (q.precompute text db params) []

/-- The rows a query returns with its parameters bound, or the fault of preparing it. -/
def Database.run (text : TextFunctions) (db : Database) (q : Query) (params : List Cell) :
    Except Fault (List (List Cell)) :=
  match db with
  | .unreadable => .error .notADatabase
  | .tables _ =>
    match q.tables.find? fun name => (db.table? name).isNone with
    | some name => .error (.noSuchTable name)
    | none =>
      match q.unknownColumn? db [] with
      | some column => .error (.noSuchColumn column)
      | none => .ok (q.result text db params)

/-! ### Engines -/

/-- A query engine as a store sees it: the text functions its conditions use, and the rows it
returns for a query with its parameters bound, or the fault of preparing it. -/
structure Engine where
  text : TextFunctions
  run : Database → Query → List Cell → Except Fault (List (List Cell))

/-- The engine of this library: queries run as above, with its own text functions. -/
def Engine.reference : Engine := ⟨TextFunctions.reference, Database.run TextFunctions.reference⟩

end PinballScout
