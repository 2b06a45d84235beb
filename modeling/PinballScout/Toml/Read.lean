import PinballScout.Toml.Value
import PinballScout.Decimal.Read

/-!
# Reading TOML documents

A reader of TOML 1.0 documents. A document is a sequence of lines, each blank, a comment, a
key/value pair, a table header `[a.b]` or an array-of-tables header `[[a.b]]`. Keys are bare
(letters, digits, `_` and `-`) or quoted, and may be dotted. Values are strings (basic with
escapes, literal, and the multi-line forms of both), integers (decimal with `_` between digits
and no leading zero, or hexadecimal, octal and binary), floats (with a fraction or an exponent,
`inf` and `nan`), booleans, date-times, arrays and inline tables.

A table is defined once: by its header, by dotted keys, or inline. A header may pass through
tables made implicitly by other headers and through tables made by dotted keys, but not define
those made by dotted keys; dotted keys extend only tables made by dotted keys; a key is
defined once in its table.

A fault in the text points at one character: where reading could not go on, or the start of
the key or header that a definition breaks the rules with.
-/

namespace PinballScout

namespace Toml

/-- Where reading stands: the text still to read and the number of bytes read. -/
structure Cursor where
  rest : List Char
  offset : Nat

/-- Reading a document; a fault stops it. -/
abbrev ReadM := StateT Cursor (Except Error)

/-- The next character, not read. -/
def peek : ReadM (Option Char) := do return (← get).rest.head?

/-- The character after the next one, not read. -/
def peek2 : ReadM (Option Char) := do return (← get).rest.tail.head?

/-- Reads one character. -/
def bump : ReadM Unit := modify fun c => match c.rest with
  | [] => c
  | ch :: rest => ⟨rest, c.offset + ch.utf8Size⟩

/-- The number of bytes read. -/
def offset : ReadM Nat := do return (← get).offset

/-- A fault at one position. -/
def faultAt (pos : Nat) (message : String) : Error := ⟨message, ⟨pos, pos + 1⟩⟩

/-- Fails at a position. -/
def failAt {α : Type} (pos : Nat) (message : String) : ReadM α := throw (faultAt pos message)

/-- Fails at the next character. -/
def failHere {α : Type} (message : String) : ReadM α := do failAt (← offset) message

/-- Whether the remaining text starts with these characters. -/
def startsWith (cs : List Char) : ReadM Bool := do return cs.isPrefixOf (← get).rest

/-- Skips spaces and tabs. -/
def skipSpaces : ReadM Unit := do
  let c ← get
  let n := (c.rest.takeWhile fun ch => ch == ' ' || ch == '\t').length
  set (⟨c.rest.drop n, c.offset + n⟩ : Cursor)

/-- Whether a character may stand in a comment: any but the control characters other than tab. -/
def commentChar (c : Char) : Bool := c == '\t' || (c.toNat ≥ 0x20 && c.toNat != 0x7F)

/-- Skips a comment, if one starts here, up to the end of its line or its first character that
may not stand in one. -/
def skipComment : ReadM Unit := do
  if (← peek) == some '#' then
    let c ← get
    let body := c.rest.tail.takeWhile commentChar
    let bytes := body.foldl (fun n ch => n + ch.utf8Size) 1
    set (⟨c.rest.drop (body.length + 1), c.offset + bytes⟩ : Cursor)

/-- Reads a line break (`\n` or `\r\n`), if one comes; whether one did. -/
def newline : ReadM Bool := do
  match ← peek with
  | some '\n' => bump; return true
  | some '\r' =>
    if (← peek2) == some '\n' then bump; bump; return true
    else return false
  | _ => return false

/-- Skips blanks, comments and line breaks; `fuel` bounds the lines. -/
def skipLines : Nat → ReadM Unit
  | 0 => pure ()
  | fuel + 1 => do
    skipSpaces
    skipComment
    if ← newline then skipLines fuel

/-! ### Strings -/

/-- The value of a hexadecimal digit. -/
def hexValue (c : Char) : Option Nat :=
  if c.isDigit then some (c.toNat - '0'.toNat)
  else if 'a' ≤ c && c ≤ 'f' then some (c.toNat - 'a'.toNat + 10)
  else if 'A' ≤ c && c ≤ 'F' then some (c.toNat - 'A'.toNat + 10)
  else none

/-- Reads the `n` hexadecimal digits of a Unicode escape and returns the character; a fault
points at the first digit. -/
def unicodeEscape (n : Nat) : ReadM Char := do
  let c ← get
  let fault := "invalid unicode " ++ toString n ++ "-digit hex code"
  let digits := (c.rest.take n).takeWhile fun ch => (hexValue ch).isSome
  if digits.length < n then failAt c.offset fault
  match digits.mapM hexValue with
  | none => failAt c.offset fault
  | some ds =>
    let v := ds.foldl (fun a d => 16 * a + d) 0
    if v < 0xD800 || (0xDFFF < v && v < 0x110000) then
      set (⟨c.rest.drop n, c.offset + n⟩ : Cursor)
      return Char.ofNat v
    else failAt c.offset fault

/-- The fault of an escape that is none of the known ones. -/
def unknownEscape : String :=
  "invalid escape sequence\nexpected `b`, `f`, `n`, `r`, `t`, `u`, `U`, `\\`, `\"`"

/-- Reads an escape after its backslash; an unknown one is a fault just after it. -/
def escape : ReadM Char := do
  match ← peek with
  | some 'b' => bump; return '\x08'
  | some 't' => bump; return '\t'
  | some 'n' => bump; return '\n'
  | some 'f' => bump; return '\x0c'
  | some 'r' => bump; return '\r'
  | some '"' => bump; return '"'
  | some '\\' => bump; return '\\'
  | some 'u' => bump; unicodeEscape 4
  | some 'U' => bump; unicodeEscape 8
  | _ => bump; failHere unknownEscape

/-- Whether a character may stand in a string as it is. -/
def stringChar (c : Char) : Bool := c == '\t' || (c.toNat ≥ 0x20 && c.toNat != 0x7F)

/-- The rest of a basic string after its opening quote; `fuel` bounds the characters. A fault
points where the closing quote is missing. -/
def basicString : Nat → List Char → ReadM String
  | 0, _ => failHere "invalid basic string"
  | fuel + 1, acc => do
    match ← peek with
    | some '"' => bump; return String.ofList acc.reverse
    | some '\\' =>
      if (← peek2).isNone then failHere "invalid basic string"
      bump
      let c ← escape
      basicString fuel (c :: acc)
    | some c =>
      if stringChar c then bump; basicString fuel (c :: acc)
      else failHere "invalid basic string"
    | none => failHere "invalid basic string"

/-- The rest of a literal string after its opening quote. -/
def literalString : Nat → List Char → ReadM String
  | 0, _ => failHere "invalid literal string"
  | fuel + 1, acc => do
    match ← peek with
    | some '\'' => bump; return String.ofList acc.reverse
    | some c =>
      if stringChar c then bump; literalString fuel (c :: acc)
      else failHere "invalid literal string"
    | none => failHere "invalid literal string"

/-- Skips blanks and line breaks after a line-ending backslash. -/
def skipTrimmed : Nat → ReadM Unit
  | 0 => pure ()
  | fuel + 1 => do
    match ← peek with
    | some ' ' | some '\t' => bump; skipTrimmed fuel
    | _ => if ← newline then skipTrimmed fuel else pure ()

/-- The closing of a multi-line string: three quotes, and up to two more that belong to the
content; the quotes of the content. -/
def closingQuotes (q : Char) : ReadM (Option (List Char)) := do
  if ← startsWith [q, q, q] then
    bump; bump; bump
    if (← peek) == some q then
      bump
      if (← peek) == some q then bump; return some [q, q]
      return some [q]
    return some []
  return none

/-- The rest of a multi-line string after its opening quotes. Basic strings (`basic`) read
escapes and line-ending backslashes. -/
def multilineString (q : Char) (basic : Bool) : Nat → List Char → ReadM String
  | 0, _ => failHere "invalid multiline string"
  | fuel + 1, acc => do
    let fault := if basic then "invalid multiline basic string" else "invalid multiline literal string"
    match ← closingQuotes q with
    | some extra => return String.ofList (acc.reverse ++ extra)
    | none =>
    if ← newline then multilineString q basic fuel ('\n' :: acc)
    else
    match ← peek with
    | some '\\' =>
      if basic then
        if (← peek2).isNone then failHere fault
        bump
        -- a backslash ending a line drops the line break and the blanks after it
        let c ← get
        let blanks := c.rest.takeWhile fun ch => ch == ' ' || ch == '\t'
        let after := c.rest.drop blanks.length
        if after.head? == some '\n' || ([ '\r', '\n' ].isPrefixOf after) then
          skipTrimmed fuel
          multilineString q basic fuel acc
        else
          let ch ← escape
          multilineString q basic fuel (ch :: acc)
      else bump; multilineString q basic fuel ('\\' :: acc)
    | some c =>
      if stringChar c then bump; multilineString q basic fuel (c :: acc)
      else failHere fault
    | none => failHere fault

/-- Reads a string of any of the four kinds, at its opening quote. -/
def string (fuel : Nat) : ReadM String := do
  if ← startsWith ['"', '"', '"'] then
    bump; bump; bump
    let _ ← newline
    multilineString '"' true fuel []
  else if ← startsWith ['\'', '\'', '\''] then
    bump; bump; bump
    let _ ← newline
    multilineString '\'' false fuel []
  else if (← peek) == some '"' then bump; basicString fuel []
  else bump; literalString fuel []

/-! ### Keys -/

/-- Whether a character may stand in a bare key. -/
def bareKeyChar (c : Char) : Bool := c.isAlphanum || c == '_' || c == '-'

/-- Whether a key part can begin at the start of this text. -/
def keyStarts (rest : List Char) : Bool :=
  match rest with
  | c :: _ => bareKeyChar c || c == '"' || c == '\''
  | [] => false

/-- Reads one part of a key: bare, or a one-line string. -/
def simpleKey (fuel : Nat) : ReadM String := do
  match ← peek with
  | some '"' => bump; basicString fuel []
  | some '\'' => bump; literalString fuel []
  | _ =>
    let c ← get
    let name := c.rest.takeWhile bareKeyChar
    if name.isEmpty then failHere "invalid key"
    set (⟨c.rest.drop name.length, c.offset + name.length⟩ : Cursor)
    return String.ofList name

/-- Reads a dotted key and the blanks around its parts; `fuel` bounds its parts. A dot that no
part follows is left unread. -/
def key (fuel : Nat) : ReadM (List String) := do
  let rec more : Nat → List String → ReadM (List String)
    | 0, acc => return acc.reverse
    | n + 1, acc => do
      skipSpaces
      if (← peek) == some '.' then
        let beforeDot ← get
        bump
        skipSpaces
        if keyStarts (← get).rest then
          let k ← simpleKey fuel
          more n (k :: acc)
        else
          set beforeDot
          return acc.reverse
      else return acc.reverse
  skipSpaces
  let first ← simpleKey fuel
  more fuel [first]

/-! ### Numbers and other bare values -/

/-- Whether a character is a digit of a base (2, 8, 10 or 16). -/
def isDigitOf (base : Nat) (c : Char) : Bool :=
  match hexValue c with
  | some d => d < base
  | none => false

/-- Reads more digits of a base after a first one, an underscore only between two digits;
`fault` is the fault of an underscore that no digit follows. -/
def moreDigits (base : Nat) (fault : String) : Nat → List Char → ReadM (List Char)
  | 0, acc => return acc.reverse
  | fuel + 1, acc => do
    match ← peek with
    | some c =>
      if isDigitOf base c then bump; moreDigits base fault fuel (c :: acc)
      else if c == '_' then
        bump
        match ← peek with
        | some d =>
          if isDigitOf base d then bump; moreDigits base fault fuel (d :: acc)
          else failHere fault
        | none => failHere fault
      else return acc.reverse
    | none => return acc.reverse

/-- The value of digits of a base. -/
def digitValue (base : Nat) (ds : List Char) : Nat :=
  ds.foldl (fun v c => base * v + ((hexValue c).getD 0)) 0

/-- The sign of a number and the rest. -/
def splitSign (cs : List Char) : Bool × List Char :=
  match cs with
  | '+' :: rest => (false, rest)
  | '-' :: rest => (true, rest)
  | _ => (false, cs)

/-- Whether a text looks like a date or a time: four digits and `-`, or two digits and `:`. -/
def looksLikeDateTime (cs : List Char) : Bool :=
  match cs with
  | a :: b :: c :: d :: '-' :: _ => a.isDigit && b.isDigit && c.isDigit && d.isDigit
  | a :: b :: ':' :: _ => a.isDigit && b.isDigit
  | _ => false

/-- Whether a character may stand in a date-time. -/
def dateTimeChar (c : Char) : Bool := c.isAlphanum || c == '+' || c == '-' || c == '.' || c == ':'

/-- Reads a date-time as written: a date, a time, or both with `T`, `t` or one space between. -/
def dateTime : ReadM Value := do
  let c ← get
  let token := c.rest.takeWhile dateTimeChar
  let token :=
    match c.rest.drop token.length with
    | ' ' :: a :: b :: ':' :: _ =>
      if token.length == 10 && a.isDigit && b.isDigit then
        token ++ ' ' :: (c.rest.drop (token.length + 1)).takeWhile dateTimeChar
      else token
    | _ => token
  set (⟨c.rest.drop token.length, c.offset + token.length⟩ : Cursor)
  return .datetime (String.ofList token) ⟨c.offset, c.offset + token.length⟩

/-- Reads an integer in base 2, 8 or 16 after its prefix `0b`, `0o` or `0x`; `name` names the
kind in faults. -/
def radixInteger (fuel base : Nat) (name : String) : ReadM Value := do
  let start ← offset
  bump; bump
  match ← peek with
  | some d =>
    if !isDigitOf base d then failHere ("invalid " ++ name)
    bump
    let ds ← moreDigits base ("invalid " ++ name ++ "\nexpected digit") fuel [d]
    let v := digitValue base ds
    if v < Nat.pow 2 63 then return .integer v ⟨start, ← offset⟩
    else failAt start "number too large to fit in target type"
  | none => failHere ("invalid " ++ name)

/-- Reads a decimal number at its sign or first digit: an integer part without leading zeros,
then a fraction, an exponent, both or neither. An integer lies in 64 bits; a float that is too
large for a double is a fault. -/
def decimal (fuel : Nat) : ReadM Value := do
  let start ← offset
  let (negative, _) := splitSign (← get).rest
  if (← peek) == some '+' || (← peek) == some '-' then bump
  let intDigits ← match ← peek with
    | some '0' => bump; pure ['0']
    | some d =>
      if d.isDigit then bump; moreDigits 10 "invalid integer\nexpected digit" fuel [d]
      else failHere "invalid integer"
    | none => failHere "invalid integer"
  let frac ← if (← peek) == some '.' then do
      bump
      match ← peek with
      | some d =>
        if d.isDigit then do
          bump
          let ds ← moreDigits 10 "invalid floating-point number\nexpected digit, digit" fuel [d]
          pure (some ds)
        else failHere "invalid floating-point number\nexpected digit"
      | none => failHere "invalid floating-point number\nexpected digit"
    else pure none
  let expo ← if (← peek) == some 'e' || (← peek) == some 'E' then do
      bump
      let eneg ← match ← peek with
        | some '+' => bump; pure false
        | some '-' => bump; pure true
        | _ => pure false
      match ← peek with
      | some d =>
        if d.isDigit then do
          bump
          let ds ← moreDigits 10 "invalid floating-point number\nexpected digit" fuel [d]
          let e : Int := digitValue 10 ds
          pure (some (if eneg then -e else e))
        else failHere "invalid floating-point number"
      | none => failHere "invalid floating-point number"
    else pure none
  let span : Span := ⟨start, ← offset⟩
  let whole := digitValue 10 intDigits
  match frac, expo with
  | none, none =>
    let i : Int := if negative then -(whole : Int) else whole
    if i < -(Int.pow 2 63) then failAt start "number too small to fit in target type"
    else if Int.pow 2 63 ≤ i then failAt start "number too large to fit in target type"
    else return .integer i span
  | _, _ =>
    let fracDigits := frac.getD []
    let x := Decimal.toFloat (whole * Nat.pow 10 fracDigits.length + digitValue 10 fracDigits)
      (expo.getD 0 - fracDigits.length)
    let x := if negative then -x else x
    if x == 1 / 0 then failAt start "invalid floating-point number"
    else return .float x span

/-- Reads a number or date-time at a sign or digit. -/
def number (fuel : Nat) : ReadM Value := do
  let rest := (← get).rest
  let start ← offset
  let (negative, body) := splitSign rest
  let sign := rest.length - body.length
  let special (word : List Char) (x : Float) : ReadM (Option Value) := do
    if word.isPrefixOf body then
      for _ in List.range (sign + word.length) do bump
      return some (.float (if negative then -x else x) ⟨start, ← offset⟩)
    return none
  if sign == 0 && looksLikeDateTime rest then return ← dateTime
  if let some v ← special ['i', 'n', 'f'] (1 / 0) then return v
  if let some v ← special ['n', 'a', 'n'] (0 / 0) then return v
  match rest with
  | '0' :: 'x' :: _ => radixInteger fuel 16 "hexadecimal integer"
  | '0' :: 'o' :: _ => radixInteger fuel 8 "octal integer"
  | '0' :: 'b' :: _ => radixInteger fuel 2 "binary integer"
  | _ => decimal fuel

/-- The fault of a value that is none of the kinds: it is taken for a string without quotes. -/
def notAValue : String := "invalid string\nexpected `\"`, `'`"

/-- Whether no value can begin at the start of this text, so that reading one fails before
taking in anything (a sign may be taken). -/
def noValueStarts (rest : List Char) : Bool :=
  match rest with
  | '"' :: _ | '\'' :: _ | '[' :: _ | '{' :: _ => false
  | 't' :: _ => !(['t', 'r', 'u', 'e'].isPrefixOf rest)
  | 'f' :: _ => !(['f', 'a', 'l', 's', 'e'].isPrefixOf rest)
  | 'i' :: _ => !(['i', 'n', 'f'].isPrefixOf rest)
  | 'n' :: _ => !(['n', 'a', 'n'].isPrefixOf rest)
  | '+' :: r | '-' :: r =>
    !((r.head?.map Char.isDigit).getD false || ['i', 'n', 'f'].isPrefixOf r || ['n', 'a', 'n'].isPrefixOf r)
  | c :: _ => !c.isDigit
  | [] => true

/-- The fault of a value that cannot begin at `pos`, before `rest`. -/
def noValueFault (rest : List Char) (pos : Nat) : Error :=
  match rest with
  | '_' :: _ => faultAt pos "invalid integer\nexpected leading digit"
  | '.' :: _ => faultAt pos "invalid floating-point number\nexpected leading digit"
  | '+' :: _ | '-' :: _ => faultAt (pos + 1) "invalid integer"
  | _ => faultAt pos notAValue

/-! ### Values -/

/-- How a table came to be: by its header, implicitly by a header below it, or by dotted keys. -/
inductive Origin where
  | header
  | implicit
  | dotted
  deriving DecidableEq, Repr

/-- A table under construction. -/
inductive Node where
  | leaf (v : Value)
  | table (entries : List (String × Node)) (origin : Origin) (span : Span)
  | tables (items : List (List (String × Node))) (span : Span)

/-- The entries with the one at `k` replaced (or added at the end). -/
def setEntry (entries : List (String × Node)) (k : String) (n : Node) : List (String × Node) :=
  if entries.any (·.1 == k) then entries.map fun (k', m) => if k' == k then (k', n) else (k', m)
  else entries ++ [(k, n)]

/-- The name of the kind of a value, as faults name it. -/
def Value.kindName : Value → String
  | .string .. => "string"
  | .integer .. => "integer"
  | .float .. => "float"
  | .bool .. => "boolean"
  | .datetime .. => "datetime"
  | .array .. => "array"
  | .table .. => "inline table"

/-- The fault of a key defined twice, naming the table it was defined in when known: the
document's root or a table by its dotted path. -/
def duplicateKey (k : String) (table : Option (List String)) : String :=
  "duplicate key `" ++ k ++ "`" ++
    match table with
    | none => ""
    | some [] => " in document root"
    | some path => " in table `" ++ ".".intercalate path ++ "`"

/-- The fault of a dotted key that passes through a value. -/
def extendsValue (path : List String) (v : Value) : String :=
  "dotted key `" ++ ".".intercalate path ++ "` attempted to extend non-table type (" ++ v.kindName ++ ")"

/-- Follows `path` down from a table's entries and changes the table at its end by `f`, which
is told whether that table was made by dotted keys. Missing tables are made on the way (as
dotted ones when `dotted`, else as implicit ones) and put last; an array of tables leads to its
last table; a value on the way is a fault, and so, when `dotted`, is a table with a header. -/
def descend {β : Type} (dotted : Bool) (span : Span)
    (f : Bool → List (String × Node) → Except String (List (String × Node) × β)) :
    List String → List String → Bool → List (String × Node) →
      Except String (List (String × Node) × β)
  | _, [], isDotted, entries => f isDotted entries
  | walked, k :: rest, _, entries =>
    let here := walked ++ [k]
    match entries.lookup k with
    | none => do
      let (inner, b) ← descend dotted span f here rest dotted []
      return (entries ++ [(k, .table inner (if dotted then .dotted else .implicit) span)], b)
    | some (.leaf v) => .error (extendsValue here v)
    | some (.tables items tspan) =>
      match items.reverse with
      | last :: earlier => do
        let (changed, b) ← descend dotted span f here rest false last
        return (setEntry entries k (.tables ((changed :: earlier).reverse) tspan), b)
      | [] => .error (duplicateKey k none)
    | some (.table inner origin tspan) =>
      if dotted && origin == .header then .error (duplicateKey k none)
      else do
        let (changed, b) ← descend dotted span f here rest (origin == .dotted) inner
        return (setEntry entries k (.table changed origin tspan), b)

/-- Follows the dotted part of a key inside an inline table, making dotted tables on the way,
and changes the table at its end by `f`. A value on the way is a fault, and so is a table
written out inline. -/
def descendInline (span : Span) (f : List (String × Node) → Except String (List (String × Node))) :
    List String → List String → List (String × Node) → Except String (List (String × Node))
  | _, [], entries => f entries
  | walked, k :: rest, entries =>
    let here := walked ++ [k]
    match entries.lookup k with
    | none => do return entries ++ [(k, .table (← descendInline span f here rest []) .dotted span)]
    | some (.table inner .dotted tspan) => do
      return setEntry entries k (.table (← descendInline span f here rest inner) .dotted tspan)
    | some (.leaf (.table _ _)) => .error (duplicateKey k none)
    | some (.leaf v) => .error (extendsValue here v)
    | some _ => .error (duplicateKey k none)

/-- The entries of an inline table from its pairs, in order. -/
def inlineEntries (span : Span) : List (List String × Value) → List (String × Node) →
    Except String (List (String × Node))
  | [], entries => .ok entries
  | (path, v) :: rest, entries =>
    match path.reverse with
    | [] => inlineEntries span rest entries
    | last :: parents => do
      let entries ← descendInline span (fun inner =>
        if inner.any (·.1 == last) then .error (duplicateKey last none)
        else .ok (inner ++ [(last, .leaf v)])) [] parents.reverse entries
      inlineEntries span rest entries

mutual
/-- The value of a finished table. -/
def Node.toValue : Node → Value
  | .leaf v => v
  | .table entries _ span => .table (Node.entriesToValue entries) span
  | .tables items span => .array (Node.itemsToValue span items) span

/-- The values of a table's entries. -/
def Node.entriesToValue : List (String × Node) → List (String × Value)
  | [] => []
  | (k, n) :: rest => (k, n.toValue) :: Node.entriesToValue rest

/-- The tables of an array of tables. -/
def Node.itemsToValue (span : Span) : List (List (String × Node)) → List Value
  | [] => []
  | item :: rest => .table (Node.entriesToValue item) span :: Node.itemsToValue span rest
end

mutual
/-- Reads a value; `fuel` bounds nesting and length. -/
def value : Nat → ReadM Value
  | 0 => failHere "invalid value"
  | fuel + 1 => do
    let c ← get
    let start := c.offset
    if noValueStarts c.rest then throw (noValueFault c.rest start)
    let word (n : Nat) (v : Span → Value) : ReadM Value := do
      for _ in List.range n do bump
      return v ⟨start, start + n⟩
    match c.rest with
    | '"' :: _ | '\'' :: _ =>
      let s ← string fuel
      return .string s ⟨start, ← offset⟩
    | '[' :: _ => bump; array fuel start []
    | '{' :: _ => bump; inlineTable fuel start
    | 't' :: _ => word 4 (.bool true)
    | 'f' :: _ => word 5 (.bool false)
    | 'i' :: _ => word 3 (.float (1 / 0))
    | 'n' :: _ => word 3 (.float (0 / 0))
    | _ => number fuel

/-- The rest of an array after its opening bracket or a comma. -/
def array : Nat → Nat → List Value → ReadM Value
  | 0, _, _ => failHere "invalid array"
  | fuel + 1, start, acc => do
    skipLines fuel
    if (← peek) == some ']' then bump; return .array acc.reverse ⟨start, ← offset⟩
    if noValueStarts (← get).rest then failHere "invalid array\nexpected `]`"
    let v ← value fuel
    skipLines fuel
    match ← peek with
    | some ',' => bump; array fuel start (v :: acc)
    | some ']' => bump; return .array (v :: acc).reverse ⟨start, ← offset⟩
    | _ => failHere "invalid array\nexpected `]`"

/-- The pairs of an inline table, separated by commas; a comma that no key follows is left
unread. -/
def inlinePairs : Nat → List (List String × Value) → ReadM (List (List String × Value))
  | 0, acc => return acc.reverse
  | fuel + 1, acc => do
    let before ← get
    skipSpaces
    if !keyStarts (← get).rest then
      set before
      return acc.reverse
    let path ← key fuel
    if (← peek) != some '=' then failHere "expected `.`, `=`"
    bump
    skipSpaces
    let v ← value fuel
    skipSpaces
    let acc := (path, v) :: acc
    if (← peek) != some ',' then return acc.reverse
    let atComma ← get
    bump
    let afterComma ← get
    skipSpaces
    if keyStarts (← get).rest then
      set afterComma
      inlinePairs fuel acc
    else
      set atComma
      return acc.reverse

/-- The rest of an inline table after its opening brace. Its pairs are read first, then put
together; a fault in putting them together points just after the brace. -/
def inlineTable : Nat → Nat → ReadM Value
  | 0, _ => failHere "invalid inline table"
  | fuel + 1, start => do
    let inner ← offset
    let pairs ← inlinePairs fuel []
    skipSpaces
    match inlineEntries ⟨start, start + 1⟩ pairs [] with
    | .error m => failAt inner m
    | .ok entries =>
      if (← peek) != some '}' then failHere "invalid inline table\nexpected `\x7d`"
      bump
      return .table (Node.entriesToValue entries) ⟨start, ← offset⟩
end

/-- Ends a line: blanks, an optional comment, then a line break or the end of the text.
`label` heads the fault. -/
def endLine (label : String) : ReadM Unit := do
  skipSpaces
  skipComment
  if ← newline then return
  if (← peek).isNone then return
  failHere (label ++ "expected newline, `#`")

/-! ### Documents -/

/-- A document being read: the tables finished so far, and the table being filled with its
path (empty for the root), whether it is the newest of an array of tables, and its header. -/
structure Document where
  root : List (String × Node)
  current : List (String × Node)
  path : List String
  isArray : Bool
  span : Span

namespace Document

/-- The document before its first line. -/
def empty : Document := ⟨[], [], [], false, ⟨0, 0⟩⟩

/-- The finished tables with the current one put in its place. -/
def finish (doc : Document) : Except String (List (String × Node)) :=
  match doc.path.reverse with
  | [] => .ok (doc.root ++ doc.current)
  | last :: parents =>
    let place (_ : Bool) (inner : List (String × Node)) :
        Except String (List (String × Node) × Unit) :=
      if doc.isArray then
        match inner.lookup last with
        | some (.tables items s) => .ok (setEntry inner last (.tables (items ++ [doc.current]) s), ())
        | none => .ok (inner ++ [(last, .tables [doc.current] doc.span)], ())
        | some _ => .error (duplicateKey last (some parents.reverse))
      else
        match inner.lookup last with
        | none => .ok (inner ++ [(last, .table doc.current .header doc.span)], ())
        | some (.table _ .header _) | some (.leaf _) | some (.tables _ _) => .error (duplicateKey last none)
        | some (.table _ _ _) => .ok (setEntry inner last (.table doc.current .header doc.span), ())
    (descend false doc.span place [] parents.reverse false doc.root).map (·.1)

/-- Starts the table of a header `[path]` (or `[[path]]` when `arrayOf`). A table made only
implicitly so far is taken up with what it holds, and taken out of its place until it is
finished; any other table or value there is a fault, and so is anything but an array of tables
under an array-of-tables header. -/
def openTable (doc : Document) (path : List String) (arrayOf : Bool) (span : Span) :
    Except String Document := do
  let root ← doc.finish
  match path.reverse with
  | [] => .ok { doc with root }
  | last :: parents =>
    let parentPath := parents.reverse
    if arrayOf then
      let add (_ : Bool) (inner : List (String × Node)) :
          Except String (List (String × Node) × Unit) :=
        match inner.lookup last with
        | none => .ok (inner ++ [(last, .tables [] span)], ())
        | some (.tables _ _) => .ok (inner, ())
        | some _ => .error (duplicateKey last (some parentPath))
      let (root, _) ← descend false span add [] parentPath false root
      .ok ⟨root, [], path, true, span⟩
    else
      let take (_ : Bool) (inner : List (String × Node)) :
          Except String (List (String × Node) × List (String × Node)) :=
        match inner.lookup last with
        | none => .ok (inner, [])
        | some (.table entries .implicit _) => .ok (inner.filter (·.1 != last), entries)
        | some _ => .error (duplicateKey last (some parentPath))
      let (root, current) ← descend false span take [] parentPath false root
      .ok ⟨root, current, path, false, span⟩

/-- Defines a dotted key's value in the current table. Its dotted part may pass only through
tables made by dotted keys, and its last part must be new in the table it lands in. -/
def define (doc : Document) (path : List String) (v : Value) (span : Span) : Except String Document :=
  match path.reverse with
  | [] => .ok doc
  | last :: parents =>
    let put (isDotted : Bool) (inner : List (String × Node)) :
        Except String (List (String × Node) × Unit) :=
      if !parents.isEmpty && !isDotted then .error (duplicateKey last none)
      else if inner.any (·.1 == last) then .error (duplicateKey last (some doc.path))
      else .ok (inner ++ [(last, .leaf v)], ())
    (descend true span put [] parents.reverse false doc.current).map fun (current, _) =>
      { doc with current }

end Document

/-- Reads a table header at its opening bracket. -/
def header (fuel : Nat) (doc : Document) : ReadM Document := do
  let bracket ← offset
  bump
  let arrayOf := (← peek) == some '['
  if arrayOf then bump
  let path ← key fuel
  let close := if arrayOf then [']', ']'] else [']']
  if !(← startsWith close) then
    failHere (if arrayOf then "invalid table header\nexpected `.`, `]]`"
      else "invalid table header\nexpected `.`, `]`")
  for _ in close do bump
  let span : Span := ⟨bracket, ← offset⟩
  endLine "invalid table header\n"
  match doc.openTable path arrayOf span with
  | .ok doc => return doc
  | .error m => failAt bracket ("invalid table header\n" ++ m)

/-- Reads a key/value pair and the rest of its line into the current table. -/
def keyValue (fuel : Nat) (doc : Document) : ReadM Document := do
  let start ← offset
  let path ← key fuel
  let stop ← offset
  if (← peek) != some '=' then failHere "expected `.`, `=`"
  bump
  skipSpaces
  let v ← value fuel
  endLine ""
  match doc.define path v ⟨start, stop⟩ with
  | .ok doc => return doc
  | .error m => failAt start m

/-- Reads the lines of a document; `fuel` bounds them. -/
def lines (fuel : Nat) : Nat → Document → ReadM Document
  | 0, doc => return doc
  | n + 1, doc => do
    skipSpaces
    match ← peek with
    | none => return doc
    | some '#' =>
      skipComment
      if ← newline then lines fuel n doc
      else if (← peek).isNone then return doc
      else failHere ""
    | some '\n' => bump; lines fuel n doc
    | some '\r' =>
      if ← newline then lines fuel n doc
      else failHere ""
    | some '[' =>
      let doc ← header fuel doc
      lines fuel n doc
    | some _ =>
      let doc ← keyValue fuel doc
      lines fuel n doc

/-- Reads a TOML document as its root table, or the first fault in it. -/
def parse (text : String) : Except Error (List (String × Value)) :=
  let fuel := text.length + 1
  match (lines fuel fuel Document.empty).run ⟨text.toList, 0⟩ with
  | .ok (doc, _) =>
    match doc.finish with
    | .ok root => .ok (Node.entriesToValue root)
    | .error m => .error (faultAt text.utf8ByteSize m)
  | .error e => .error e

end Toml

end PinballScout
