import PinballScout.Relational.Affinity

/-!
# Tables and databases

A table has named columns, each with an affinity and a default, and rows kept in the order of
their row ids. A column declared `INTEGER PRIMARY KEY` is the row id itself: a row stores its
value there, and a row that leaves it empty takes one more than the largest row id so far. A
row written to a table takes each column's affinity.

A database is a list of tables, or a file that holds no database at all. Table and column
names match without regard to ASCII case.
-/

namespace PinballScout

/-- A column of a table. -/
structure Column where
  name : String
  affinity : Affinity
  /-- Whether the column is the row id. -/
  rowid : Bool
  /-- The value of a column a row leaves out. -/
  dflt : Cell

/-- A table: its columns and its rows with their row ids, in row-id order. -/
structure Table where
  name : String
  columns : List Column
  rows : List (Int × List Cell)

/-- A database file: tables, or bytes that are not a database. -/
inductive Database where
  | tables (tables : List Table)
  | unreadable

/-- Whether two names are the same up to ASCII case. -/
def sameName (a b : String) : Bool :=
  a.length == b.length && (a.toList.zip b.toList).all fun (x, y) => x.toLower == y.toLower

/-- Why a change to a database was refused. -/
inductive WriteError where
  | noSuchTable (name : String)
  | tableExists (name : String)
  | noSuchColumn (table column : String)
  | valueCount (table : String) (columns values : Nat)
  | datatypeMismatch
  | duplicateRowid (table : String)
  | notADatabase
  deriving DecidableEq, Repr

/-- The message of a refused change. -/
def WriteError.message : WriteError → String
  | .noSuchTable name => "no such table: " ++ name
  | .tableExists name => "table " ++ name ++ " already exists"
  | .noSuchColumn table column => "table " ++ table ++ " has no column named " ++ column
  | .valueCount table columns values =>
    "table " ++ table ++ " has " ++ toString columns ++ " columns but " ++ toString values ++
      " values were supplied"
  | .datatypeMismatch => "datatype mismatch"
  | .duplicateRowid table => "UNIQUE constraint failed: " ++ table ++ ".rowid"
  | .notADatabase => "file is not a database"

namespace Table

/-- The position of a column by name. -/
def columnIndex? (t : Table) (name : String) : Option Nat :=
  t.columns.findIdx? (sameName ·.name name)

/-- The row id a new row takes when it names none: one more than the largest so far, or one. -/
def nextRowid (t : Table) : Int :=
  match t.rows with
  | [] => 1
  | (r, _) :: rest => rest.foldl (fun m (r', _) => max m r') r + 1

/-- Inserts a row given as column positions and values, applying affinities and defaults. -/
def insert (t : Table) (given : List (Nat × Cell)) : Except WriteError Table := do
  let cells : List Cell := ((List.range t.columns.length).zip t.columns).map fun (i, col) =>
    match given.find? (·.1 == i) with
    | some (_, v) => Cell.store col.affinity v
    | none => Cell.store col.affinity col.dflt
  let rowidCell : Option Cell := ((t.columns.zip cells).find? (·.1.rowid)).map (·.2)
  let rowid ← match rowidCell with
    | none | some .null => pure t.nextRowid
    | some (.integer i) => pure i
    | some _ => throw .datatypeMismatch
  if t.rows.any (·.1 == rowid) then throw (.duplicateRowid t.name)
  let cells := (t.columns.zip cells).map fun (col, c) => if col.rowid then .integer rowid else c
  let before := t.rows.filter (·.1 < rowid)
  let after := t.rows.filter (rowid < ·.1)
  return { t with rows := before ++ [(rowid, cells)] ++ after }

/-- Inserts a row of values for the named columns (all columns, in order, when none are named). -/
def insertValues (t : Table) (names : Option (List String)) (values : List Cell) :
    Except WriteError Table := do
  let positions ← match names with
    | none => pure (List.range t.columns.length)
    | some ns => ns.mapM fun n => match t.columnIndex? n with
      | some i => pure i
      | none => throw (.noSuchColumn t.name n)
  if positions.length != values.length then
    throw (.valueCount t.name positions.length values.length)
  t.insert (positions.zip values)

end Table

namespace Database

/-- The tables of a database, or the fault of a file that holds none. -/
def tableList : Database → Except WriteError (List Table)
  | .tables ts => .ok ts
  | .unreadable => .error .notADatabase

/-- A table by name. -/
def table? (db : Database) (name : String) : Option Table :=
  match db with
  | .tables ts => ts.find? (sameName ·.name name)
  | .unreadable => none

/-- Adds an empty table. -/
def create (db : Database) (t : Table) : Except WriteError Database := do
  let ts ← db.tableList
  if ts.any (sameName ·.name t.name) then throw (.tableExists t.name)
  return .tables (ts ++ [t])

/-- Replaces a table by its new version. -/
def update (db : Database) (t : Table) : Database :=
  match db with
  | .tables ts => .tables (ts.map fun u => if sameName u.name t.name then t else u)
  | .unreadable => .unreadable

/-- Inserts rows of values into a table. -/
def insertRows (db : Database) (table : String) (names : Option (List String))
    (rows : List (List Cell)) : Except WriteError Database := do
  let _ ← db.tableList
  match db.table? table with
  | none => throw (.noSuchTable table)
  | some t =>
    let t ← rows.foldlM (fun t r => t.insertValues names r) t
    return db.update t

end Database

end PinballScout
