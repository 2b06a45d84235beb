import PinballScout.Relational.Table

/-!
# Database scripts

A script is a list of statements separated by semicolons, run in order on a database:

- `CREATE TABLE [IF NOT EXISTS] name (column [type] [constraints], …)` adds a table. A
  column's affinity comes from its declared type (see `Affinity.ofDeclared`); a column
  declared `INTEGER PRIMARY KEY` is the row id; `DEFAULT` gives the value of a column a row
  leaves out. Other constraints, and constraints of the whole table, are read and not
  enforced.
- `INSERT INTO name [(column, …)] VALUES (value, …), …` adds rows. Values are `NULL`,
  numbers with an optional sign, quoted text (a quote doubled inside), `X'…'` byte strings and
  `TRUE`/`FALSE`.
- `CREATE INDEX`, `PRAGMA`, `BEGIN` and `COMMIT` change nothing a query can see.

Comments run from `--` to the end of the line or between `/*` and `*/`.
-/

namespace PinballScout

namespace Script

/-- A token of a script. -/
inductive Token where
  | word (text : String)
  | number (text : String)
  | string (text : String)
  | bytes (value : List UInt8)
  | symbol (c : Char)
  deriving DecidableEq, Repr

/-- Whether a character may continue a name. -/
def isNameChar (c : Char) : Bool := c.isAlphanum || c == '_' || c == '$' || c.toNat ≥ 128

/-- The value of a hexadecimal digit. -/
def hexDigit? (c : Char) : Option Nat :=
  if c.isDigit then some (c.toNat - '0'.toNat)
  else if 'a' ≤ c && c ≤ 'f' then some (c.toNat - 'a'.toNat + 10)
  else if 'A' ≤ c && c ≤ 'F' then some (c.toNat - 'A'.toNat + 10)
  else none

/-- Bytes from pairs of hexadecimal digits. -/
def hexBytes : List Char → Option (List UInt8)
  | [] => some []
  | a :: b :: rest => do
    let hi ← hexDigit? a
    let lo ← hexDigit? b
    return (16 * hi + lo).toUInt8 :: (← hexBytes rest)
  | [_] => none

/-- A quoted text up to its closing quote, a doubled quote standing for one; the rest after it. -/
def quoted (q : Char) : List Char → List Char → Option (String × List Char)
  | [], _ => none
  | c :: rest, acc =>
    if c == q then
      match rest with
      | d :: rest' => if d == q then quoted q rest' (q :: acc) else some (String.ofList acc.reverse, rest)
      | [] => some (String.ofList acc.reverse, [])
    else quoted q rest (c :: acc)

/-- The rest of a text after the end of a block comment. -/
def afterBlockComment : List Char → List Char
  | [] => []
  | '*' :: '/' :: rest => rest
  | _ :: rest => afterBlockComment rest

/-- A number's characters: digits, a point and digits, an exponent. -/
def numberChars (cs : List Char) : List Char × List Char :=
  let whole := cs.takeWhile Char.isDigit
  let rest := cs.dropWhile Char.isDigit
  let (frac, rest) := match rest with
    | '.' :: r => ('.' :: r.takeWhile Char.isDigit, r.dropWhile Char.isDigit)
    | _ => ([], rest)
  let (expo, rest) := match rest with
    | e :: r =>
      if e == 'e' || e == 'E' then
        let (sign, r') := match r with
          | s :: r' => if s == '+' || s == '-' then ([s], r') else ([], r)
          | [] => ([], r)
        let ds := r'.takeWhile Char.isDigit
        if ds.isEmpty then ([], rest) else (e :: sign ++ ds, r'.dropWhile Char.isDigit)
      else ([], rest)
    | [] => ([], rest)
  (whole ++ frac ++ expo, rest)

/-- The tokens of a script; `fuel` bounds the steps and is the text's length. -/
def tokens : Nat → List Char → Except String (List Token)
  | 0, _ => .ok []
  | _ + 1, [] => .ok []
  | fuel + 1, c :: rest =>
    if c.isWhitespace then tokens fuel rest
    else if c == '-' && rest.head? == some '-' then tokens fuel (rest.dropWhile (· != '\n'))
    else if c == '/' && rest.head? == some '*' then tokens fuel (afterBlockComment rest.tail)
    else if (c == 'x' || c == 'X') && rest.head? == some '\'' then
      match quoted '\'' rest.tail [] with
      | some (hex, after) => match hexBytes hex.toList with
        | some bs => do return .bytes bs :: (← tokens fuel after)
        | none => .error "malformed blob literal"
      | none => .error "unrecognized token"
    else if c == '\'' then
      match quoted '\'' rest [] with
      | some (s, after) => do return .string s :: (← tokens fuel after)
      | none => .error "unrecognized token"
    else if c == '"' then
      match quoted '"' rest [] with
      | some (s, after) => do return .word s :: (← tokens fuel after)
      | none => .error "unrecognized token"
    else if c.isDigit || (c == '.' && (rest.head?.map Char.isDigit).getD false) then
      let (num, after) := numberChars (c :: rest)
      do return .number (String.ofList num) :: (← tokens fuel after)
    else if isNameChar c then
      let name := (c :: rest).takeWhile isNameChar
      do return .word (String.ofList name) :: (← tokens fuel ((c :: rest).dropWhile isNameChar))
    else do return .symbol c :: (← tokens fuel rest)

/-- Whether a token is the keyword `k`, in any case. -/
def Token.is (t : Token) (k : String) : Bool :=
  match t with
  | .word w => sameName w k
  | _ => false

/-- A statement of a script. -/
inductive Statement where
  | createTable (ifNotExists : Bool) (table : Table)
  | insert (table : String) (columns : Option (List String)) (rows : List (List Cell))
  | nothing

/-- The tokens of one statement: up to the next semicolon at the outer level. -/
def splitStatements : List Token → List Token → List (List Token)
  | [], acc => if acc.isEmpty then [] else [acc.reverse]
  | .symbol ';' :: rest, acc => acc.reverse :: splitStatements rest []
  | t :: rest, acc => splitStatements rest (t :: acc)

/-- Splits a parenthesised list at its top-level commas; the tokens after the closing
parenthesis come back too. -/
def commaGroups : Nat → List Token → List Token → List (List Token) →
    Option (List (List Token) × List Token)
  | _, [], _, _ => none
  | depth, t :: rest, cur, groups =>
    match t with
    | .symbol '(' => commaGroups (depth + 1) rest (t :: cur) groups
    | .symbol ')' =>
      if depth = 0 then some ((groups ++ [cur.reverse]).filter (!·.isEmpty), rest)
      else commaGroups (depth - 1) rest (t :: cur) groups
    | .symbol ',' =>
      if depth = 0 then commaGroups depth rest [] (groups ++ [cur.reverse])
      else commaGroups depth rest (t :: cur) groups
    | _ => commaGroups depth rest (t :: cur) groups

/-- The value of a literal's tokens. -/
def literal : List Token → Option Cell
  | [.word w] =>
    if sameName w "NULL" then some .null
    else if sameName w "TRUE" then some (.integer 1)
    else if sameName w "FALSE" then some (.integer 0)
    else none
  | [.number n] => Cell.numberOfText? n
  | [.symbol '-', .number n] => (Cell.numberOfText? ("-" ++ n))
  | [.symbol '+', .number n] => Cell.numberOfText? n
  | [.string s] => some (.text s)
  | [.bytes bs] => some (.blob bs)
  | [.symbol '(', t, .symbol ')'] => literal [t]
  | _ => none

/-- The words that end a column's type and start its constraints. -/
def constraintWords : List String :=
  ["CONSTRAINT", "PRIMARY", "NOT", "NULL", "UNIQUE", "CHECK", "DEFAULT", "COLLATE",
    "REFERENCES", "GENERATED", "AS"]

/-- The text of a type's tokens. -/
def typeText (ts : List Token) : String :=
  " ".intercalate (ts.filterMap fun
    | .word w => some w
    | .number n => some n
    | _ => none)

/-- The default value among a column's constraint tokens. -/
def defaultOf : List Token → Cell
  | [] => .null
  | t :: rest =>
    if t.is "DEFAULT" then
      match rest with
      | .symbol '-' :: n :: _ => (literal [.symbol '-', n]).getD .null
      | .symbol '(' :: v :: .symbol ')' :: _ => (literal [v]).getD .null
      | v :: _ => (literal [v]).getD .null
      | [] => .null
    else defaultOf rest

/-- Whether constraint tokens say `PRIMARY KEY` without `DESC`. -/
def primaryKey (ts : List Token) : Bool :=
  let rec go : List Token → Bool
    | a :: b :: rest => (a.is "PRIMARY" && b.is "KEY" && !((rest.head?.map (·.is "DESC")).getD false)) || go (b :: rest)
    | _ => false
  go ts

/-- A column definition after its name: the declared type, whether it is a primary key, and
the default. -/
def columnRest (name : String) (rest : List Token) : String × String × Bool × Cell :=
  let typeToks := rest.takeWhile fun t => !(constraintWords.any t.is)
  let constraints := rest.dropWhile fun t => !(constraintWords.any t.is)
  (name, typeText typeToks, primaryKey constraints, defaultOf constraints)

/-- A column definition: its name, declared type, whether it is a primary key, and default. -/
def columnDef : List Token → Option (String × String × Bool × Cell)
  | .word name :: rest => some (columnRest name rest)
  | .string name :: rest => some (columnRest name rest)
  | _ => none

/-- Whether a definition is a constraint of the whole table. -/
def isTableConstraint (ts : List Token) : Bool :=
  match ts with
  | t :: _ => t.is "PRIMARY" || t.is "UNIQUE" || t.is "CHECK" || t.is "FOREIGN" || t.is "CONSTRAINT"
  | [] => false

/-- The single column a table constraint `PRIMARY KEY (c)` names. -/
def tablePrimaryKey : List (List Token) → Option String
  | [] => none
  | (a :: b :: .symbol '(' :: .word c :: .symbol ')' :: _) :: rest =>
    if a.is "PRIMARY" && b.is "KEY" then some c else tablePrimaryKey rest
  | _ :: rest => tablePrimaryKey rest

/-- A `CREATE TABLE` statement after its keywords. -/
def createTable (ts : List Token) : Except String Statement := do
  let (ifNotExists, ts) := match ts with
    | a :: b :: c :: rest => if a.is "IF" && b.is "NOT" && c.is "EXISTS" then (true, rest) else (false, ts)
    | _ => (false, ts)
  match ts with
  | .word name :: .symbol '(' :: rest =>
    match commaGroups 0 rest [] [] with
    | none => throw "incomplete input"
    | some (defs, _) =>
      let pk := tablePrimaryKey (defs.filter isTableConstraint)
      let cols ← (defs.filter (!isTableConstraint ·)).mapM fun d => match columnDef d with
        | some c => pure c
        | none => throw "near column definition: syntax error"
      let columns := cols.map fun (n, ty, isPk, dflt) =>
        let keyed := isPk || (pk.map (sameName n ·)).getD false
        { name := n, affinity := Affinity.ofDeclared ty, rowid := keyed && sameName ty "INTEGER",
          dflt := dflt : Column }
      return .createTable ifNotExists ⟨name, columns, []⟩
  | _ => throw "near CREATE: syntax error"

/-- An `INSERT INTO` statement after its keywords. -/
def insert (ts : List Token) : Except String Statement := do
  match ts with
  | .word name :: rest =>
    let (columns, rest) ← match rest with
      | .symbol '(' :: r => match commaGroups 0 r [] [] with
        | some (groups, after) =>
          let names ← groups.mapM fun
            | [.word n] => pure n
            | _ => throw "near column list: syntax error"
          pure (some names, after)
        | none => throw "incomplete input"
      | _ => pure (none, rest)
    match rest with
    | v :: tuples =>
      if !v.is "VALUES" then throw "near INSERT: syntax error"
      let rows ← valueRows tuples.length tuples
      return .insert name columns rows
    | [] => throw "incomplete input"
  | _ => throw "near INSERT: syntax error"
where
  /-- Rows of values: parenthesised tuples separated by commas. -/
  valueRows : Nat → List Token → Except String (List (List Cell))
    | 0, _ => .ok []
    | _, [] => .ok []
    | fuel + 1, .symbol ',' :: rest => valueRows fuel rest
    | fuel + 1, .symbol '(' :: rest =>
      match commaGroups 0 rest [] [] with
      | some (groups, after) => do
        let row ← groups.mapM fun g => match literal g with
          | some c => pure c
          | none => throw "unsupported value"
        return row :: (← valueRows fuel after)
      | none => .error "incomplete input"
    | _ + 1, _ => .error "near VALUES: syntax error"

/-- One statement from its tokens. -/
def statement (ts : List Token) : Except String Statement :=
  match ts with
  | a :: b :: rest =>
    if a.is "CREATE" && b.is "TABLE" then createTable rest
    else if a.is "CREATE" && b.is "TEMP" then
      match rest with
      | c :: rest' => if c.is "TABLE" then createTable rest' else .ok .nothing
      | [] => .ok .nothing
    else if a.is "INSERT" && b.is "INTO" then insert rest
    else if a.is "CREATE" || a.is "PRAGMA" || a.is "BEGIN" || a.is "COMMIT" || a.is "END" then .ok .nothing
    else .error "syntax error"
  | [a] => if a.is "BEGIN" || a.is "COMMIT" || a.is "END" then .ok .nothing else .error "syntax error"
  | [] => .ok .nothing

/-- Runs one statement on a database. -/
def Statement.run (db : Database) : Statement → Except String Database
  | .createTable ifNotExists t =>
    if ifNotExists && (db.table? t.name).isSome then .ok db
    else (db.create t).mapError WriteError.message
  | .insert table columns rows => (db.insertRows table columns rows).mapError WriteError.message
  | .nothing => .ok db

end Script

/-- Runs a script on a database, stopping at the first statement that fails. -/
def Database.runScript (db : Database) (script : String) : Except String Database := do
  let toks ← Script.tokens (script.length + 1) script.toList
  let stmts ← (Script.splitStatements toks []).mapM Script.statement
  stmts.foldlM Script.Statement.run db

end PinballScout
