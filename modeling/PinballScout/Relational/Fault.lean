import PinballScout.Relational.Cell

/-!
# Database faults

What can go wrong when a database answers a query: a table the query names is absent, the
file holds no database, or a column of a result row holds a value the reader cannot take.
Each fault has a one-line message and a chain of underlying causes; the engine's own faults
carry the engine's numbered result code as their cause.
-/

namespace PinballScout

/-- A failure of the database engine or of reading a result row. -/
inductive Fault where
  /-- A query names a table the database does not have. -/
  | noSuchTable (table : String)
  /-- A query names a column none of its tables has. -/
  | noSuchColumn (column : String)
  /-- The file is not a database. -/
  | notADatabase
  /-- A column of a row holds a value of a class the reader does not take. -/
  | invalidColumnType (index : Nat) (column : String) (found : Cell.Kind)
  /-- An integer column holds a value outside the reader's range. -/
  | outOfRange (index : Nat) (value : Int)
  deriving DecidableEq, Repr

namespace Fault

/-- The one-line message of a fault. -/
def message : Fault → String
  | .noSuchTable table => "no such table: " ++ table
  | .noSuchColumn column => "no such column: " ++ column
  | .notADatabase => "file is not a database"
  | .invalidColumnType index column found =>
    "Invalid column type " ++ found.name ++ " at index: " ++ toString index ++ ", name: " ++ column
  | .outOfRange index value => "Integer " ++ toString value ++ " out of range at index " ++ toString index

/-- The causes beneath a fault, outermost first: the engine's result code and its meaning for
the engine's own faults, nothing for a failed read. -/
def causes : Fault → List String
  | .noSuchTable _ => ["Error code 1: SQL error or missing database"]
  | .noSuchColumn _ => ["Error code 1: SQL error or missing database"]
  | .notADatabase => ["Error code 26: File opened that is not a database file"]
  | .invalidColumnType .. => []
  | .outOfRange .. => []

end Fault

end PinballScout
