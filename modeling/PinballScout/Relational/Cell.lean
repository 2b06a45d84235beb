/-!
# Cells

A cell of a relational table holds one value of five storage classes: nothing, a 64-bit
integer, a double, text or a byte string. The storage class of a cell is its `Kind`, and a
column read that needs another class reports the class it found by name.
-/

namespace PinballScout

/-- One value stored in a table. -/
inductive Cell where
  | null
  /-- A signed integer, within 64 bits. -/
  | integer (value : Int)
  | real (value : Float)
  | text (value : String)
  | blob (bytes : List UInt8)

/-- The storage class of a cell. -/
inductive Cell.Kind where
  | null
  | integer
  | real
  | text
  | blob
  deriving DecidableEq, Repr

namespace Cell

/-- The storage class of a cell. -/
def kind : Cell → Kind
  | .null => .null
  | .integer _ => .integer
  | .real _ => .real
  | .text _ => .text
  | .blob _ => .blob

/-- The name of a storage class, as a failed column read writes it. -/
def Kind.name : Kind → String
  | .null => "Null"
  | .integer => "Integer"
  | .real => "Real"
  | .text => "Text"
  | .blob => "Blob"

end Cell

end PinballScout
