import PinballScout.Json.Read

/-!
# Decoding JSON against a shape

A `Shape` says what a JSON document must hold: 64-bit signed or 32-bit unsigned integers,
strings, optional values, sequences, string-keyed maps and records with named fields (a
field with a default may be missing). Decoding checks a document against a shape and returns
it in normal form: maps with sorted keys (the last of a duplicated key wins), records with
exactly their fields in declaration order, defaults filled in.

There are two decoders, and their faults differ in order and place:

- `Shape.decode` reads an already parsed value. Its objects are first put in key order, so the
  members of a record are checked in key order; a missing field is reported once every
  present one has decoded, in declaration order.
- `Shape.read` reads text as it goes, in document order, and places each fault at the bytes
  read so far: after the offending value, or after the closing brace for a missing field.

Fault texts name the unexpected value (`invalid type: string "big", expected i64`).
-/

namespace PinballScout

/-- What a JSON document must hold. -/
inductive Shape where
  /-- A signed 64-bit integer. -/
  | int64
  /-- An unsigned 32-bit integer. -/
  | uint32
  /-- A string. -/
  | text
  /-- `null` for absent, or the inner shape. -/
  | optional (inner : Shape)
  /-- A sequence of items. -/
  | list (item : Shape)
  /-- An object from string keys to values. -/
  | dict (value : Shape)
  /-- A record: each field's name, shape and default when missing. -/
  | record (name : String) (fields : List (String × Shape × Option Json))

namespace Shape

/-- What a fault says the shape expected. -/
def expecting : Shape → String
  | .int64 => "i64"
  | .uint32 => "u32"
  | .text => "a string"
  | .optional inner => inner.expecting
  | .list _ => "a sequence"
  | .dict _ => "a map"
  | .record name _ => "struct " ++ name

end Shape

/-- How a fault text names a number. -/
def Number.unexpected : Number → String
  | .int i => "integer `" ++ toString i ++ "`"
  | .float x => "floating point `" ++ Decimal.Layout.json.render x ++ "`"

namespace Json

/-- Whether a character is shown as itself inside a quoted string in a fault text: printable
characters other than the quote and the backslash. Control characters, the C1 controls and
combining marks are written as escapes. -/
def shownPlain (c : Char) : Bool :=
  let n := c.toNat
  decide (0x20 ≤ n) && n != 0x7F && !(decide (0x80 ≤ n) && decide (n < 0xA0)) &&
    !(decide (0x300 ≤ n) && decide (n < 0x370)) && n != 0xAD

/-- Lowercase hexadecimal digits of a number, without leading zeros. -/
def hexDigits (n : Nat) : String := String.ofList (Nat.toDigits 16 n)

/-- A string quoted the way fault texts quote it. -/
def debugQuote (s : String) : String :=
  let esc (c : Char) : String :=
    match c with
    | '"' => "\\\""
    | '\\' => "\\\\"
    | '\n' => "\\n"
    | '\r' => "\\r"
    | '\t' => "\\t"
    | '\x00' => "\\0"
    | c => if shownPlain c then c.toString else "\\u\x7b" ++ hexDigits c.toNat ++ "\x7d"
  "\"" ++ String.join (s.toList.map esc) ++ "\""

/-- How a fault text names a value of the wrong kind. -/
def unexpected : Json → String
  | .null => "null"
  | .bool b => "boolean `" ++ (if b then "true" else "false") ++ "`"
  | .number n => n.unexpected
  | .string s => "string " ++ debugQuote s
  | .array _ => "sequence"
  | .object _ => "map"

/-- `invalid type: …, expected …`. -/
def invalidType (found expected : String) : String :=
  "invalid type: " ++ found ++ ", expected " ++ expected

/-- `invalid value: …, expected …`. -/
def invalidValue (found expected : String) : String :=
  "invalid value: " ++ found ++ ", expected " ++ expected

/-- `missing field `name``. -/
def missingField (name : String) : String := "missing field `" ++ name ++ "`"

/-- `duplicate field `name``. -/
def duplicateField (name : String) : String := "duplicate field `" ++ name ++ "`"

/-- `invalid length n, expected …`. -/
def invalidLength (n : Nat) (expected : String) : String :=
  "invalid length " ++ toString n ++ ", expected " ++ expected

/-- What a record read from an array expects. -/
def recordLength (name : String) (n : Nat) : String :=
  "struct " ++ name ++ " with " ++ toString n ++ (if n = 1 then " element" else " elements")

/-- Object members in key order, the last of a duplicated key kept. -/
def keyOrder (members : List (String × Json)) : List (String × Json) :=
  let keys := (members.map (·.1)).eraseDups.mergeSort (fun a b => decide (a ≤ b))
  keys.filterMap fun k => (members.reverse.find? (·.1 == k)).map fun m => (k, m.2)

/-- The largest signed 64-bit integer. -/
def i64Max : Int := Int.pow 2 63 - 1

/-- The largest unsigned 32-bit integer. -/
def u32Max : Int := Int.pow 2 32 - 1

/-- Checks an integer against a fixed-width shape. -/
def checkInt (s : Shape) (i : Int) : Except String Json :=
  match s with
  | .int64 =>
    if i64Max < i then .error (invalidValue (Number.unexpected (.int i)) "i64") else .ok (.int i)
  | _ =>
    if i < 0 ∨ u32Max < i then .error (invalidValue (Number.unexpected (.int i)) "u32")
    else .ok (.int i)

end Json

open Json

/-- Every field of a record, found or defaulted, in declaration order; the first missing field
without a default is the fault. -/
def Shape.fillFields (fields : List (String × Shape × Option Json)) (found : List (String × Json)) :
    Except String (List (String × Json)) :=
  fields.mapM fun (n, _, dflt) =>
    match found.find? (·.1 == n), dflt with
    | some (_, v), _ => .ok (n, v)
    | none, some d => .ok (n, d)
    | none, none => .error (missingField n)

/-- Decodes the members of an object that name fields of a record, in member order; `field`
gives the decoder of a field by name, and members that name no field are skipped. -/
def Shape.collectMembers (field : String → Option (Json → Except String Json)) :
    List (String × Json) → List (String × Json) → Except String (List (String × Json))
  | [], acc => .ok acc
  | (k, v) :: rest, acc =>
    match field k with
    | some decodeField => do
      if (acc.find? (·.1 == k)).isSome then .error (duplicateField k)
      let d ← decodeField v
      Shape.collectMembers field rest (acc ++ [(k, d)])
    | none => Shape.collectMembers field rest acc

mutual
/-- Decodes a parsed value against a shape. -/
def Shape.decode : Shape → Json → Except String Json
  | .int64, .number (.int i) => checkInt .int64 i
  | .uint32, .number (.int i) => checkInt .uint32 i
  | .text, .string s => .ok (.string s)
  | .optional _, .null => .ok .null
  | .optional inner, j => inner.decode j
  | .list item, .array items => do
    return .array (← items.mapM item.decode)
  | .dict value, .object members => do
    let decoded ← (keyOrder members).mapM fun (k, v) => do return (k, ← value.decode v)
    return .object decoded
  | .record _ fields, .object members => do
    let found ← Shape.collectMembers (Shape.fieldDecoder fields) (keyOrder members) []
    return .object (← Shape.fillFields fields found)
  | .record name fields, .array items => do
    let values ← Shape.decodeItems name fields.length fields items 0
    if fields.length < items.length then
      .error (invalidLength items.length "fewer elements in array")
    else return .object values
  | s, j => .error (invalidType j.unexpected s.expecting)

/-- The decoder of a record's field by name. -/
def Shape.fieldDecoder : List (String × Shape × Option Json) → String →
    Option (Json → Except String Json)
  | [], _ => none
  | (n, s, _) :: rest, k => if n == k then some s.decode else Shape.fieldDecoder rest k

/-- A record's fields from an array's items, in declaration order. -/
def Shape.decodeItems (name : String) (total : Nat) :
    List (String × Shape × Option Json) → List Json → Nat → Except String (List (String × Json))
  | [], _, _ => .ok []
  | (n, s, dflt) :: rest, items, i =>
    match items with
    | v :: more => do
      let d ← s.decode v
      return (n, d) :: (← Shape.decodeItems name total rest more (i + 1))
    | [] =>
      match dflt with
      | some d => do return (n, d) :: (← Shape.decodeItems name total rest [] (i + 1))
      | none => .error (invalidLength i (recordLength name total))
end

/-! ### Reading text against a shape -/

/-- Fails at the current place with a decoding fault. -/
def failWith {α : Type} (message : String) : ReadM α := fail (.custom message)

/-- Reads a value of the wrong kind and fails naming it; `[` and `{` are not read. -/
def readInvalid {α : Type} (expected : String) : ReadM α := do
  match ← peek with
  | some 'n' => bump; ident ['u', 'l', 'l']; failWith (invalidType "null" expected)
  | some 't' =>
    bump; ident ['r', 'u', 'e']; failWith (invalidType (Json.bool true).unexpected expected)
  | some 'f' =>
    bump; ident ['a', 'l', 's', 'e']; failWith (invalidType (Json.bool false).unexpected expected)
  | some '-' =>
    bump
    let n ← readNumber false
    failWith (invalidType n.unexpected expected)
  | some '"' =>
    bump
    let s ← readString
    failWith (invalidType (Json.string s).unexpected expected)
  | some '[' => failWith (invalidType "sequence" expected)
  | some '{' => failWith (invalidType "map" expected)
  | some c =>
    if c.isDigit then
      let n ← readNumber true
      failWith (invalidType n.unexpected expected)
    else failPeek .expectedSomeValue
  | none => failPeek .expectedSomeValue

/-- After a failed array: its closing bracket is read if it comes next, or a comma and the
blanks after it. -/
def softEndArray : ReadM Unit := do
  match ← skipBlank with
  | some ']' => bump
  | some ',' => bump; let _ ← skipBlank
  | _ => pure ()

/-- After a failed object: its closing brace is read if it comes next. -/
def softEndObject : ReadM Unit := do
  match ← skipBlank with
  | some '}' => bump
  | _ => pure ()

/-- Runs the inside of an array or object. On a fault the closing is read softly first, and a
fault without a place gets the place reached then. -/
def closing {α : Type} (body : ReadM α) (finish soft : ReadM Unit) : ReadM α :=
  tryCatch (do let a ← body; finish; return a) fun e => do
    soft
    if e.line = 0 then fail e.code else throw e

/-- Reads a number against an integer shape. -/
def readInt (s : Shape) : ReadM Json := do
  let n ← match ← skipBlank with
    | some '-' => do bump; readNumber false
    | some c => if c.isDigit then readNumber true else readInvalid s.expecting
    | none => failPeek .eofWhileParsingValue
  match n with
  | .int i =>
    match checkInt s i with
    | .ok j => return j
    | .error m => failWith m
  | .float x => failWith (invalidType (Number.float x).unexpected s.expecting)

/-- Reads a string. -/
def readText : ReadM Json := do
  match ← skipBlank with
  | some '"' => bump; return .string (← readString)
  | some _ => readInvalid "a string"
  | none => failPeek .eofWhileParsingValue

/-- The field of a record a member names, and its place in the declaration. -/
def fieldIndex (fields : List (String × Shape × Option Json)) (k : String) : Option Shape :=
  (fields.find? (·.1 == k)).map (·.2.1)

mutual
/-- Reads text against a shape. `fuel` bounds the nesting and the items read. -/
def Shape.read : Nat → Nat → Shape → ReadM Json
  | 0, _, _ => fail .recursionLimitExceeded
  | fuel + 1, depth, s => do
    match s with
    | .int64 | .uint32 => readInt s
    | .text => readText
    | .optional inner =>
      match ← skipBlank with
      | some 'n' => bump; ident ['u', 'l', 'l']; return .null
      | _ => inner.read fuel depth
    | .list item =>
      match ← skipBlank with
      | some '[' =>
        enter depth
        let items ← closing (Shape.readItems fuel (depth - 1) item true []) endArray softEndArray
        return .array items
      | some _ => readInvalid s.expecting
      | none => failPeek .eofWhileParsingValue
    | .dict value =>
      match ← skipBlank with
      | some '{' =>
        enter depth
        let members ← closing (Shape.readEntries fuel (depth - 1) value true []) endObject softEndObject
        return .object (keyOrder members)
      | some _ => readInvalid s.expecting
      | none => failPeek .eofWhileParsingValue
    | .record name fields =>
      match ← skipBlank with
      | some '{' =>
        enter depth
        let found ← closing (Shape.readFields fuel (depth - 1) fields true []) endObject softEndObject
        match Shape.fillFields fields found with
        | .ok all => return .object all
        | .error m => failWith m
      | some '[' =>
        enter depth
        let values ← closing (Shape.readSeqFields fuel (depth - 1) name fields.length fields 0)
          endArray softEndArray
        return .object values
      | some _ => readInvalid s.expecting
      | none => failPeek .eofWhileParsingValue

/-- The items of a sequence, up to its closing bracket (not read). -/
def Shape.readItems : Nat → Nat → Shape → Bool → List Json → ReadM (List Json)
  | 0, _, _, _, acc => return acc.reverse
  | fuel + 1, depth, item, first, acc => do
    if ← nextItem first then
      let v ← item.read fuel depth
      Shape.readItems fuel depth item false (v :: acc)
    else return acc.reverse

/-- The entries of a map, up to its closing brace (not read). -/
def Shape.readEntries : Nat → Nat → Shape → Bool → List (String × Json) → ReadM (List (String × Json))
  | 0, _, _, _, acc => return acc.reverse
  | fuel + 1, depth, value, first, acc => do
    match ← nextKey first with
    | some k =>
      colon
      let v ← value.read fuel depth
      Shape.readEntries fuel depth value false ((k, v) :: acc)
    | none => return acc.reverse

/-- The members of a record read from an object, up to its closing brace (not read). Members
that name no field are read and dropped. -/
def Shape.readFields : Nat → Nat → List (String × Shape × Option Json) → Bool →
    List (String × Json) → ReadM (List (String × Json))
  | 0, _, _, _, acc => return acc
  | fuel + 1, depth, fields, first, acc => do
    match ← nextKey first with
    | some k =>
      match fieldIndex fields k with
      | some s =>
        if (acc.find? (·.1 == k)).isSome then throw (Error.custom (duplicateField k))
        colon
        let v ← s.read fuel depth
        Shape.readFields fuel depth fields false (acc ++ [(k, v)])
      | none =>
        colon
        skipValue depth
        Shape.readFields fuel depth fields false acc
    | none => return acc

/-- The fields of a record read from an array, in declaration order. -/
def Shape.readSeqFields : Nat → Nat → String → Nat → List (String × Shape × Option Json) → Nat →
    ReadM (List (String × Json))
  | 0, _, _, _, _, _ => return []
  | _ + 1, _, _, _, [], _ => return []
  | fuel + 1, depth, name, total, (n, s, dflt) :: rest, i => do
    if ← nextItem (i == 0) then
      let v ← s.read fuel depth
      return (n, v) :: (← Shape.readSeqFields fuel depth name total rest (i + 1))
    else
      match dflt with
      | some d => return (n, d) :: (← Shape.readSeqFields fuel depth name total rest (i + 1))
      | none => throw (Error.custom (invalidLength i (recordLength name total)))
end

/-- Reads a whole text against a shape: the value, then only blanks. -/
def Shape.readText (s : Shape) (text : String) : Except Error Json :=
  let run : ReadM Json := do
    let v ← s.read (text.length + 2) depthLimit
    finish
    return v
  run.run' (Cursor.ofString text)

end PinballScout
