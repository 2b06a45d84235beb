import PinballScout.Json.Basic

/-!
# Reading JSON text

A reader of JSON text that reports the first fault with its line and byte column, the way
a streaming reader sees it: a fault is found where the text stops making sense, and its place
is the number of bytes read on its line (`column 0` before anything is read).

Numbers follow the text: an integer literal that fits in 64 bits stays exact, any other
number becomes a double built from its leading digits (those that fit in 64 bits) times or
divided by a power of ten. Nesting deeper than 127 arrays or objects is refused.

The pieces (`Cursor`, `skipBlank`, `readString`, `readNumber`, `skipValue`) are shared with
the schema-directed decoders of league snapshots.
-/

namespace PinballScout.Json

/-- Why reading failed. -/
inductive ErrorCode where
  | eofWhileParsingList
  | eofWhileParsingObject
  | eofWhileParsingString
  | eofWhileParsingValue
  | expectedColon
  | expectedListCommaOrEnd
  | expectedObjectCommaOrEnd
  | expectedSomeIdent
  | expectedSomeValue
  | invalidEscape
  | invalidNumber
  | numberOutOfRange
  | controlCharacterWhileParsingString
  | keyMustBeAString
  | loneLeadingSurrogateInHexEscape
  | trailingComma
  | trailingCharacters
  | unexpectedEndOfHexEscape
  | recursionLimitExceeded
  /-- A value that is well formed but not what the reader wanted. -/
  | custom (message : String)
  deriving BEq, Repr

/-- The words for each fault. -/
def ErrorCode.message : ErrorCode → String
  | .eofWhileParsingList => "EOF while parsing a list"
  | .eofWhileParsingObject => "EOF while parsing an object"
  | .eofWhileParsingString => "EOF while parsing a string"
  | .eofWhileParsingValue => "EOF while parsing a value"
  | .expectedColon => "expected `:`"
  | .expectedListCommaOrEnd => "expected `,` or `]`"
  | .expectedObjectCommaOrEnd => "expected `,` or `\x7d`"
  | .expectedSomeIdent => "expected ident"
  | .expectedSomeValue => "expected value"
  | .invalidEscape => "invalid escape"
  | .invalidNumber => "invalid number"
  | .numberOutOfRange => "number out of range"
  | .controlCharacterWhileParsingString =>
    "control character (\\u0000-\\u001F) found while parsing a string"
  | .keyMustBeAString => "key must be a string"
  | .loneLeadingSurrogateInHexEscape => "lone leading surrogate in hex escape"
  | .trailingComma => "trailing comma"
  | .trailingCharacters => "trailing characters"
  | .unexpectedEndOfHexEscape => "unexpected end of hex escape"
  | .recursionLimitExceeded => "recursion limit exceeded"
  | .custom message => message

/-- A fault and its place; `line = 0` when it has none. -/
structure Error where
  code : ErrorCode
  line : Nat
  column : Nat
  deriving BEq, Repr

/-- An error without a place. -/
def Error.custom (message : String) : Error := ⟨.custom message, 0, 0⟩

/-- The fault in words, followed by its place when it has one. -/
def Error.message (e : Error) : String :=
  let text := e.code.message
  let line := e.line
  let column := e.column
  if line = 0 then text else s!"{text} at line {line} column {column}"

/-- Where reading stands: the text still to read, the current line (from one) and the number
of bytes read on it. -/
structure Cursor where
  rest : List Char
  line : Nat
  column : Nat

/-- A cursor at the start of a text. -/
def Cursor.ofString (s : String) : Cursor := ⟨s.toList, 1, 0⟩

/-- The cursor after reading one more character. -/
def Cursor.bump (c : Cursor) : Cursor :=
  match c.rest with
  | [] => c
  | ch :: rest => if ch = '\n' then ⟨rest, c.line + 1, 0⟩ else ⟨rest, c.line, c.column + ch.utf8Size⟩

/-- The place of a fault that involves the next byte: one byte further on. -/
def Cursor.peekPlace (c : Cursor) : Nat × Nat :=
  match c.rest with
  | [] => (c.line, c.column)
  | ch :: _ => if ch = '\n' then (c.line + 1, 0) else (c.line, c.column + 1)

/-- Reading with a cursor; a fault stops it. -/
abbrev ReadM := StateT Cursor (Except Error)

/-- The next character, not read. -/
def peek : ReadM (Option Char) := do return (← get).rest.head?

/-- Reads one character. -/
def bump : ReadM Unit := modify Cursor.bump

/-- Reads the next character, if any. -/
def next : ReadM (Option Char) := do
  let c ← peek
  bump
  return c

/-- Fails at the current place. -/
def fail {α : Type} (code : ErrorCode) : ReadM α := do
  let c ← get
  throw ⟨code, c.line, c.column⟩

/-- Fails at the place of the next byte. -/
def failPeek {α : Type} (code : ErrorCode) : ReadM α := do
  let (line, column) := (← get).peekPlace
  throw ⟨code, line, column⟩

/-- Gives an error without a place the current one. -/
def placed (e : Error) : ReadM Error := do
  if e.line = 0 then
    let c ← get
    return { e with line := c.line, column := c.column }
  else return e

/-- Runs a step; an error of it without a place gets the place reached by then. -/
def fixPosition {α : Type} (step : ReadM α) : ReadM α := do
  let start ← get
  match step.run start with
  | .ok (a, after) => set after; return a
  | .error e =>
    if e.line = 0 then
      -- The place is not known to the step that failed: the caller's place stands in.
      fail e.code
    else throw e

/-- Skips spaces, tabs and line breaks; the list form. -/
def skipBlankList : List Char → Nat → Nat → Cursor
  | [], line, column => ⟨[], line, column⟩
  | ch :: rest, line, column =>
    if ch = '\n' then skipBlankList rest (line + 1) 0
    else if ch = ' ' ∨ ch = '\t' ∨ ch = '\r' then skipBlankList rest line (column + 1)
    else ⟨ch :: rest, line, column⟩

/-- Skips blanks and shows the next character. -/
def skipBlank : ReadM (Option Char) := do
  let c ← get
  let c' := skipBlankList c.rest c.line c.column
  set c'
  return c'.rest.head?

/-- Reads the rest of a keyword (`ull`, `rue`, `alse`). -/
def ident : List Char → ReadM Unit
  | [] => pure ()
  | ch :: more => do
    match ← next with
    | none => fail .eofWhileParsingValue
    | some c => if c = ch then ident more else fail .expectedSomeIdent

/-! ### Strings -/

/-- The value of a hexadecimal digit. -/
def hexValue (c : Char) : Option Nat :=
  if '0' ≤ c ∧ c ≤ '9' then some (c.toNat - 48)
  else if 'a' ≤ c ∧ c ≤ 'f' then some (c.toNat - 87)
  else if 'A' ≤ c ∧ c ≤ 'F' then some (c.toNat - 55)
  else none

/-- Reads four hexadecimal digits of a `\u` escape. -/
def hexEscape : ReadM Nat := do
  let c ← get
  match c.rest with
  | a :: b :: d :: e :: _ =>
    bump; bump; bump; bump
    match hexValue a, hexValue b, hexValue d, hexValue e with
    | some a, some b, some d, some e => return ((a * 16 + b) * 16 + d) * 16 + e
    | _, _, _, _ => fail .invalidEscape
  | _ =>
    for _ in c.rest do bump
    fail .eofWhileParsingString

/-- Reads the rest of a `\u` escape: one code unit, or a surrogate pair. -/
def unicodeEscape : ReadM Char := do
  let n ← hexEscape
  if 0xDC00 ≤ n ∧ n ≤ 0xDFFF then fail .loneLeadingSurrogateInHexEscape
  else if n < 0xD800 ∨ 0xDBFF < n then return Char.ofNat n
  else
    match ← peek with
    | none => fail .eofWhileParsingString
    | some '\\' => bump
    | some _ => bump; fail .unexpectedEndOfHexEscape
    match ← peek with
    | none => fail .eofWhileParsingString
    | some 'u' => bump
    | some _ => bump; fail .unexpectedEndOfHexEscape
    let n2 ← hexEscape
    if n2 < 0xDC00 ∨ 0xDFFF < n2 then fail .loneLeadingSurrogateInHexEscape
    else return Char.ofNat ((n - 0xD800) * 0x400 + (n2 - 0xDC00) + 0x10000)

/-- Reads the character after a backslash. -/
def escape : ReadM Char := do
  match ← next with
  | none => fail .eofWhileParsingString
  | some '"' => return '"'
  | some '\\' => return '\\'
  | some '/' => return '/'
  | some 'b' => return '\x08'
  | some 'f' => return '\x0c'
  | some 'n' => return '\n'
  | some 'r' => return '\r'
  | some 't' => return '\t'
  | some 'u' => unicodeEscape
  | some _ => fail .invalidEscape

/-- Reads string characters up to and including the closing quote. -/
def stringChars : Nat → List Char → ReadM String
  | 0, acc => return String.ofList acc.reverse
  | fuel + 1, acc => do
    match ← peek with
    | none => fail .eofWhileParsingString
    | some '"' => bump; return String.ofList acc.reverse
    | some '\\' => bump; let c ← escape; stringChars fuel (c :: acc)
    | some c =>
      bump
      if c.toNat < 0x20 then fail .controlCharacterWhileParsingString
      else stringChars fuel (c :: acc)

/-- Reads a string whose opening quote has been read. -/
def readString : ReadM String := do
  let c ← get
  stringChars (c.rest.length + 1) []

/-! ### Numbers -/

/-- `10 ^ n` as a double, for `n ≤ 308`. -/
def pow10 (n : Nat) : Float := Float.ofScientific 1 false n

/-- Divides by `1e308` until the power of ten left fits the table, then by that power. -/
def scaleDown (f : Float) (e : Nat) : Float :=
  if h : e ≤ 308 then f / pow10 e
  else if f == 0 then f
  else scaleDown (f / pow10 308) (e - 308)
termination_by e
decreasing_by omega

/-- The double `significand · 10 ^ exponent`, by one multiplication or division. -/
def fromParts (positive : Bool) (significand : Nat) (exponent : Int) : ReadM Float := do
  let f := Float.ofNat significand
  let f ← if 0 ≤ exponent then
      if exponent ≤ 308 then
        let g := f * pow10 exponent.toNat
        if g.isInf then fail .numberOutOfRange else pure g
      else if f == 0 then pure f
      else fail .numberOutOfRange
    else pure (scaleDown f (-exponent).toNat)
  return if positive then f else -f

/-- The largest unsigned 64-bit integer. -/
def u64Max : Nat := Nat.pow 2 64 - 1

/-- The largest signed 32-bit integer, the bound on exponents. -/
def i32Max : Int := 2147483647

/-- Digits read while they come. -/
def digitsWhile : Nat → ReadM Unit
  | 0 => pure ()
  | fuel + 1 => do
    match ← peek with
    | some c => if c.isDigit then bump; digitsWhile fuel else pure ()
    | none => pure ()

/-- The digits of an exponent, after its first. -/
def exponentDigits : Nat → Int → ReadM (Option Int)
  | 0, e => return some e
  | fuel + 1, e => do
    match ← peek with
    | some c =>
      if c.isDigit then
        bump
        let e' := e * 10 + (c.toNat - 48)
        if i32Max < e' then return none else exponentDigits fuel e'
      else return some e
    | none => return some e

/-- The fuel of a loop over the rest of the text. -/
def restFuel : ReadM Nat := do return (← get).rest.length + 1

/-- Reads an exponent part (its `e` not yet read) and builds the double. -/
def readExponent (positive : Bool) (significand : Nat) (start : Int) : ReadM Float := do
  bump
  let positiveExp ← match ← peek with
    | some '+' => do bump; pure true
    | some '-' => do bump; pure false
    | _ => pure true
  match ← next with
  | none => fail .eofWhileParsingValue
  | some c =>
    if c.isDigit then
      match ← exponentDigits (← restFuel) (c.toNat - 48) with
      | some e =>
        let total := if positiveExp then start + e else start - e
        let total := max (-i32Max - 1) (min i32Max total)
        fromParts positive significand total
      | none =>
        if significand ≠ 0 ∧ positiveExp then fail .numberOutOfRange
        else
          digitsWhile (← restFuel)
          return if positive then 0.0 else -0.0
    else fail .invalidNumber

/-- Digits after a decimal point, kept while the significand fits in 64 bits. -/
def fractionDigits : Nat → Nat → Int → ReadM (Nat × Int × Bool)
  | 0, s, e => return (s, e, false)
  | fuel + 1, s, e => do
    match ← peek with
    | some c =>
      if c.isDigit then
        let s' := s * 10 + (c.toNat - 48)
        if u64Max < s' then return (s, e, true)
        else bump; fractionDigits fuel s' (e - 1)
      else return (s, e, false)
    | none => return (s, e, false)

/-- Reads a fraction (its point not yet read) and what follows it. -/
def readDecimal (positive : Bool) (significand : Nat) (start : Int) : ReadM Float := do
  bump
  let (s, e, overflow) ← fractionDigits (← restFuel) significand 0
  if overflow then
    digitsWhile (← restFuel)
    match ← peek with
    | some 'e' | some 'E' => readExponent positive s (start + e)
    | _ => fromParts positive s (start + e)
  else
    if e = 0 then
      match ← peek with
      | some _ => failPeek .invalidNumber
      | none => failPeek .eofWhileParsingValue
    else
      match ← peek with
      | some 'e' | some 'E' => readExponent positive s (start + e)
      | _ => fromParts positive s (start + e)

/-- An integer too long for 64 bits: its further digits only raise the exponent. -/
def longInteger : Nat → Bool → Nat → Int → ReadM Float
  | 0, positive, s, e => fromParts positive s e
  | fuel + 1, positive, s, e => do
    match ← peek with
    | some '.' => readDecimal positive s e
    | some 'e' | some 'E' => readExponent positive s e
    | some c => if c.isDigit then bump; longInteger fuel positive s (e + 1) else fromParts positive s e
    | none => fromParts positive s e

/-- What follows the integer digits: a fraction, an exponent, or nothing. -/
def numberTail (positive : Bool) (significand : Nat) : ReadM Number := do
  match ← peek with
  | some '.' => return .float (← readDecimal positive significand 0)
  | some 'e' | some 'E' => return .float (← readExponent positive significand 0)
  | _ =>
    if positive then return .int significand
    else if 0 < significand ∧ significand ≤ Nat.pow 2 63 then return .int (-(significand : Int))
    else return .float (-(Float.ofNat significand))

/-- Integer digits after the first, while they fit in 64 bits. -/
def integerDigits : Nat → Bool → Nat → ReadM Number
  | 0, positive, s => numberTail positive s
  | fuel + 1, positive, s => do
    match ← peek with
    | some c =>
      if c.isDigit then
        let s' := s * 10 + (c.toNat - 48)
        if u64Max < s' then return .float (← longInteger (← restFuel) positive s 0)
        else bump; integerDigits fuel positive s'
      else numberTail positive s
    | none => numberTail positive s

/-- Reads a number whose sign, if any, has been read. -/
def readNumber (positive : Bool) : ReadM Number := do
  match ← next with
  | none => fail .eofWhileParsingValue
  | some '0' =>
    match ← peek with
    | some c => if c.isDigit then failPeek .invalidNumber else numberTail positive 0
    | none => numberTail positive 0
  | some c =>
    if c.isDigit then integerDigits (← restFuel) positive (c.toNat - 48)
    else fail .invalidNumber

/-! ### Values -/

/-- After the items of an array: its closing bracket. -/
def endArray : ReadM Unit := do
  match ← skipBlank with
  | some ']' => bump
  | some ',' =>
    bump
    match ← skipBlank with
    | some ']' => failPeek .trailingComma
    | _ => failPeek .trailingCharacters
  | some _ => failPeek .trailingCharacters
  | none => failPeek .eofWhileParsingList

/-- After the members of an object: its closing brace. -/
def endObject : ReadM Unit := do
  match ← skipBlank with
  | some '}' => bump
  | some ',' => failPeek .trailingComma
  | some _ => failPeek .trailingCharacters
  | none => failPeek .eofWhileParsingObject

/-- Before the next item of an array: `true` when there is one. -/
def nextItem (first : Bool) : ReadM Bool := do
  let p ← match ← skipBlank with
    | some ']' => return false
    | some ',' => if first then failPeek .expectedListCommaOrEnd else do bump; skipBlank
    | some b => if first then pure (some b) else failPeek .expectedListCommaOrEnd
    | none => failPeek .eofWhileParsingList
  match p with
  | some ']' => failPeek .trailingComma
  | some _ => return true
  | none => failPeek .eofWhileParsingValue

/-- Before the next member of an object: its name, when there is one. -/
def nextKey (first : Bool) : ReadM (Option String) := do
  let p ← match ← skipBlank with
    | some '}' => return none
    | some ',' => if first then failPeek .expectedObjectCommaOrEnd else do bump; skipBlank
    | some b => if first then pure (some b) else failPeek .expectedObjectCommaOrEnd
    | none => failPeek .eofWhileParsingObject
  match p with
  | some '"' => bump; return some (← readString)
  | some '}' => failPeek .trailingComma
  | some _ => failPeek .keyMustBeAString
  | none => failPeek .eofWhileParsingValue

/-- The colon between a member's name and value. -/
def colon : ReadM Unit := do
  match ← skipBlank with
  | some ':' => bump
  | some _ => failPeek .expectedColon
  | none => failPeek .eofWhileParsingObject

/-- Enters an array or object: refused when `depth` nestings are used up. -/
def enter (depth : Nat) : ReadM Unit := do
  if depth ≤ 1 then failPeek .recursionLimitExceeded else bump

mutual
/-- Reads one value. `depth` is the nesting still allowed. -/
def readValue : Nat → Nat → ReadM Json
  | 0, _ => fail .recursionLimitExceeded
  | fuel + 1, depth => do
    match ← skipBlank with
    | none => failPeek .eofWhileParsingValue
    | some 'n' => bump; ident ['u', 'l', 'l']; return .null
    | some 't' => bump; ident ['r', 'u', 'e']; return .bool true
    | some 'f' => bump; ident ['a', 'l', 's', 'e']; return .bool false
    | some '-' => bump; return .number (← readNumber false)
    | some '"' => bump; return .string (← readString)
    | some '[' =>
      enter depth
      let items ← readItems fuel (depth - 1) true []
      endArray
      return .array items
    | some '{' =>
      enter depth
      let members ← readMembers fuel (depth - 1) true []
      endObject
      return .object members
    | some c =>
      if c.isDigit then return .number (← readNumber true) else failPeek .expectedSomeValue

/-- Reads the items of an array, up to its closing bracket (not read). -/
def readItems : Nat → Nat → Bool → List Json → ReadM (List Json)
  | 0, _, _, acc => return acc.reverse
  | fuel + 1, depth, first, acc => do
    if ← nextItem first then
      let v ← readValue fuel depth
      readItems fuel depth false (v :: acc)
    else return acc.reverse

/-- Reads the members of an object, up to its closing brace (not read). -/
def readMembers : Nat → Nat → Bool → List (String × Json) → ReadM (List (String × Json))
  | 0, _, _, acc => return acc.reverse
  | fuel + 1, depth, first, acc => do
    match ← nextKey first with
    | some key =>
      colon
      let v ← readValue fuel depth
      readMembers fuel depth false ((key, v) :: acc)
    | none => return acc.reverse
end

/-- Skips one value of any shape, checking only that it is well formed. -/
def skipValue (depth : Nat) : ReadM Unit := do
  let _ ← readValue ((← get).rest.length + 2) depth

/-- After the value: only blanks may follow. -/
def finish : ReadM Unit := do
  match ← skipBlank with
  | none => pure ()
  | some _ => failPeek .trailingCharacters

/-- The nesting a reader allows. -/
def depthLimit : Nat := 128

/-- Reads a whole text as one value. -/
def parse (text : String) : Except Error Json :=
  let run : ReadM Json := do
    let v ← readValue (text.length + 2) depthLimit
    finish
    return v
  run.run' (Cursor.ofString text)

end PinballScout.Json
