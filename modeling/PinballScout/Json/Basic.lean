import PinballScout.Decimal.Layout

/-!
# JSON values

A JSON value as a reader keeps it. Numbers keep the distinction the text makes: an integer
literal that fits in 64 bits (signed when negative, unsigned otherwise) stays an exact
integer, every other number is a double. Object members keep their text order, duplicates
included; a look-up takes the last member of a name, as a map built from the text would.

Two printers write values back: `compact` on one line and `pretty` with two-space indents.
Doubles are written with their shortest digits (`Layout.json`); one that is not finite has
no JSON spelling and is written `null`.
-/

namespace PinballScout

open Decimal

/-- A JSON number: an exact 64-bit integer, or a double. -/
inductive Number where
  | int (value : Int)
  | float (value : Float)

/-- A JSON value. -/
inductive Json where
  | null
  | bool (value : Bool)
  | number (value : Number)
  | string (value : String)
  | array (items : List Json)
  | object (members : List (String × Json))

/-- The text of a number. -/
def Number.text : Number → String
  | .int i => toString i
  | .float x => if x.isFinite then Layout.json.render x else "null"

namespace Json

/-- An integer value. -/
def int (i : Int) : Json := .number (.int i)

/-- A double value. -/
def float (x : Float) : Json := .number (.float x)

/-- A natural number value. -/
def nat (n : Nat) : Json := .number (.int n)

/-- `null` for `none`, else the value. -/
def opt {α : Type} (f : α → Json) : Option α → Json
  | none => .null
  | some a => f a

/-- The last member of an object with this name. -/
def get? (j : Json) (name : String) : Option Json :=
  match j with
  | .object members => (members.reverse.find? (·.1 == name)).map (·.2)
  | _ => none

/-- The member, with a missing one and `null` both read as absent. -/
def field? (j : Json) (name : String) : Option Json :=
  match j.get? name with
  | some .null => none
  | other => other

/-- The text of a string value. -/
def str? : Json → Option String
  | .string s => some s
  | _ => none

/-- The items of an array value. -/
def arr? : Json → Option (List Json)
  | .array items => some items
  | _ => none

/-- The integer of an integer value. -/
def int? : Json → Option Int
  | .number (.int i) => some i
  | _ => none

/-- The number of a numeric value as a double; integers convert by rounding to nearest. -/
def float? : Json → Option Float
  | .number (.int i) => some (Float.ofInt i)
  | .number (.float x) => some x
  | _ => none

/-- The value of a boolean. -/
def bool? : Json → Option Bool
  | .bool b => some b
  | _ => none

/-! ### Printing -/

/-- Four lowercase hexadecimal digits of a code below `0x10000`. -/
def hex4 (n : Nat) : String :=
  let digit (d : Nat) : Char := if d < 10 then Char.ofNat (48 + d) else Char.ofNat (87 + d)
  String.ofList [digit (n / 4096 % 16), digit (n / 256 % 16), digit (n / 16 % 16), digit (n % 16)]

/-- A character inside a quoted string: the quote, the backslash and control characters are
escaped, everything else stands for itself. -/
def escapeChar (c : Char) : String :=
  match c with
  | '"' => "\\\""
  | '\\' => "\\\\"
  | '\n' => "\\n"
  | '\r' => "\\r"
  | '\t' => "\\t"
  | '\x08' => "\\b"
  | '\x0c' => "\\f"
  | c => if c.toNat < 0x20 then "\\u" ++ hex4 c.toNat else c.toString

/-- A string in double quotes, escaped. -/
def quote (s : String) : String :=
  "\"" ++ String.join (s.toList.map escapeChar) ++ "\""

mutual
/-- The value on one line, without spaces. -/
def compact : Json → String
  | .null => "null"
  | .bool b => if b then "true" else "false"
  | .number n => n.text
  | .string s => quote s
  | .array items => "[" ++ compactItems items ++ "]"
  | .object members => "\x7b" ++ compactMembers members ++ "\x7d"

/-- Array items separated by commas. -/
def compactItems : List Json → String
  | [] => ""
  | [j] => compact j
  | j :: rest => compact j ++ "," ++ compactItems rest

/-- Object members separated by commas. -/
def compactMembers : List (String × Json) → String
  | [] => ""
  | [(k, j)] => quote k ++ ":" ++ compact j
  | (k, j) :: rest => quote k ++ ":" ++ compact j ++ "," ++ compactMembers rest
end

/-- `n` levels of two-space indentation. -/
def indent (n : Nat) : String := String.ofList (List.replicate (2 * n) ' ')

mutual
/-- The value over several lines, each nesting level indented by two spaces. -/
def prettyAt (level : Nat) : Json → String
  | .array [] => "[]"
  | .object [] => "\x7b\x7d"
  | .array items => "[\n" ++ prettyItems (level + 1) items ++ "\n" ++ indent level ++ "]"
  | .object members =>
    "\x7b\n" ++ prettyMembers (level + 1) members ++ "\n" ++ indent level ++ "\x7d"
  | j => compact j

/-- Array items, one per line. -/
def prettyItems (level : Nat) : List Json → String
  | [] => ""
  | [j] => indent level ++ prettyAt level j
  | j :: rest => indent level ++ prettyAt level j ++ ",\n" ++ prettyItems level rest

/-- Object members, one per line. -/
def prettyMembers (level : Nat) : List (String × Json) → String
  | [] => ""
  | [(k, j)] => indent level ++ quote k ++ ": " ++ prettyAt level j
  | (k, j) :: rest =>
    indent level ++ quote k ++ ": " ++ prettyAt level j ++ ",\n" ++ prettyMembers level rest
end

/-- The value over several lines. -/
def pretty (j : Json) : String := prettyAt 0 j

end Json

end PinballScout
