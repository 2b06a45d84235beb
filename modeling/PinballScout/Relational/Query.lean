import PinballScout.Relational.Cell

/-!
# Queries

A query selects expressions from a table joined to others, keeps the rows a condition holds
for, and may drop repeated rows, sort and cut the result. Expressions name columns through
their table's alias, take numbered parameters, and compare, combine, test membership in a
list or a subquery, lower-case and match patterns; `MAX` makes a query an aggregate.

Every query has a text (`Query.render`), and parameters only ever appear in it as numbered
placeholders `?1`, `?2`, …, never as the values bound to them.
-/

namespace PinballScout

/-- How a table joins the ones before it. -/
inductive JoinKind where
  /-- Only combined rows the condition holds for. -/
  | inner
  /-- As `inner`, and a row with no partner is kept with an empty partner. -/
  | left
  deriving DecidableEq, Repr

/-- A table in a query, with the alias its columns are named by. -/
structure Source where
  table : String
  «alias» : String
  deriving DecidableEq, Repr

mutual
/-- An expression over the rows in scope. -/
inductive Expr where
  /-- A column, through the alias of its table when one is given. -/
  | column («alias» : Option String) (name : String)
  /-- The parameter bound at this position, counted from one. -/
  | param (index : Nat)
  | integer (value : Int)
  | text (value : String)
  | eq (a b : Expr)
  | notNull (a : Expr)
  | and (a b : Expr)
  | or (a b : Expr)
  /-- Membership in a list of expressions. -/
  | inList (a : Expr) (items : List Expr)
  /-- Membership in the first column of a subquery. -/
  | inQuery (a : Expr) (q : Query)
  /-- The first column of a subquery's first row. -/
  | scalar (q : Query)
  | exists (q : Query)
  | lower (a : Expr)
  /-- `a LIKE pattern ESCAPE escape`. -/
  | like (a pattern : Expr) (escape : Char)
  /-- The largest value over the rows, in an aggregate query. -/
  | max (a : Expr)

/-- `SELECT [DISTINCT] columns [FROM source joins] [WHERE filter] [ORDER BY …] [LIMIT n]`; each
sort key is descending when flagged. Without a source the query has one row. -/
inductive Query where
  | select (distinct : Bool) (columns : List Expr) (source : Option Source)
      (joins : List (JoinKind × Source × Expr)) (filter : Option Expr)
      (order : List (Expr × Bool)) (limit : Option Nat)
end

/-! ### Equality -/

mutual
/-- Whether two expressions are the same expression. -/
def Expr.beq : Expr → Expr → Bool
  | .column a n, .column b m => a == b && n == m
  | .param i, .param j => i == j
  | .integer v, .integer w => v == w
  | .text v, .text w => v == w
  | .eq a b, .eq c d => a.beq c && b.beq d
  | .notNull a, .notNull b => a.beq b
  | .and a b, .and c d => a.beq c && b.beq d
  | .or a b, .or c d => a.beq c && b.beq d
  | .inList a items, .inList b others => a.beq b && Expr.beqList items others
  | .inQuery a q, .inQuery b r => a.beq b && q.beq r
  | .scalar q, .scalar r => q.beq r
  | .exists q, .exists r => q.beq r
  | .lower a, .lower b => a.beq b
  | .like a p e, .like b q f => a.beq b && p.beq q && e == f
  | .max a, .max b => a.beq b
  | _, _ => false
termination_by structural x _ => x

/-- Whether two lists of expressions are the same, item by item. -/
def Expr.beqList : List Expr → List Expr → Bool
  | [], [] => true
  | a :: rest, b :: others => a.beq b && Expr.beqList rest others
  | _, _ => false
termination_by structural x _ => x

/-- Whether two lists of joins are the same. -/
def Query.beqJoins : List (JoinKind × Source × Expr) → List (JoinKind × Source × Expr) → Bool
  | [], [] => true
  | (k, s, on) :: rest, (k', s', on') :: others => k == k' && s == s' && on.beq on' && Query.beqJoins rest others
  | _, _ => false
termination_by structural x _ => x

/-- Whether two lists of sort keys are the same. -/
def Query.beqOrder : List (Expr × Bool) → List (Expr × Bool) → Bool
  | [], [] => true
  | (e, d) :: rest, (e', d') :: others => e.beq e' && d == d' && Query.beqOrder rest others
  | _, _ => false
termination_by structural x _ => x

/-- Whether two optional conditions are the same. -/
def Query.beqFilter : Option Expr → Option Expr → Bool
  | none, none => true
  | some e, some e' => e.beq e'
  | _, _ => false
termination_by structural x _ => x

/-- Whether two queries are the same query. -/
def Query.beq : Query → Query → Bool
  | .select d c s j f o l, .select d' c' s' j' f' o' l' =>
    d == d' && Expr.beqList c c' && s == s' && Query.beqJoins j j' && Query.beqFilter f f' &&
      Query.beqOrder o o' && l == l'
termination_by structural x _ => x
end

instance : BEq Expr := ⟨Expr.beq⟩

instance : BEq Query := ⟨Query.beq⟩

/-! ### Text -/

/-- A text literal, its quotes doubled. -/
def quoteText (s : String) : String :=
  "'" ++ String.join (s.toList.map fun c => if c == '\'' then "''" else c.toString) ++ "'"

/-- A table with its alias. -/
def Source.render (s : Source) : String :=
  if s.alias == s.table then s.table else s.table ++ " " ++ s.alias

/-- The keyword of a join. -/
def JoinKind.render : JoinKind → String
  | .inner => "JOIN"
  | .left => "LEFT JOIN"

mutual
/-- The text of an expression. -/
def Expr.render : Expr → String
  | .column none name => name
  | .column (some «alias») name => «alias» ++ "." ++ name
  | .param i => "?" ++ toString i
  | .integer v => toString v
  | .text v => quoteText v
  | .eq a b => a.render ++ " = " ++ b.render
  | .notNull a => a.render ++ " IS NOT NULL"
  | .and a b => a.render ++ " AND " ++ b.render
  | .or a b => "(" ++ a.render ++ " OR " ++ b.render ++ ")"
  | .inList a items => a.render ++ " IN (" ++ Expr.renderList items ++ ")"
  | .inQuery a q => a.render ++ " IN (" ++ q.render ++ ")"
  | .scalar q => "(" ++ q.render ++ ")"
  | .exists q => "EXISTS(" ++ q.render ++ ")"
  | .lower a => "LOWER(" ++ a.render ++ ")"
  | .like a p e => a.render ++ " LIKE " ++ p.render ++ " ESCAPE " ++ quoteText e.toString
  | .max a => "MAX(" ++ a.render ++ ")"

/-- Expressions separated by commas. -/
def Expr.renderList : List Expr → String
  | [] => ""
  | [e] => e.render
  | e :: rest => e.render ++ ", " ++ Expr.renderList rest

/-- The joins of a query. -/
def Query.renderJoins : List (JoinKind × Source × Expr) → String
  | [] => ""
  | (k, s, on) :: rest => " " ++ k.render ++ " " ++ s.render ++ " ON " ++ on.render ++ Query.renderJoins rest

/-- Sort keys separated by commas. -/
def Query.renderOrder : List (Expr × Bool) → String
  | [] => ""
  | [(e, desc)] => e.render ++ (if desc then " DESC" else "")
  | (e, desc) :: rest => e.render ++ (if desc then " DESC" else "") ++ ", " ++ Query.renderOrder rest

/-- The text of a query. -/
def Query.render : Query → String
  | .select distinct columns source joins filter order limit =>
    "SELECT " ++ (if distinct then "DISTINCT " else "") ++ Expr.renderList columns ++
      (match source with
        | some s => " FROM " ++ s.render
        | none => "") ++ Query.renderJoins joins ++
      (match filter with
        | some f => " WHERE " ++ f.render
        | none => "") ++
      (if order.isEmpty then "" else " ORDER BY " ++ Query.renderOrder order) ++
      (match limit with
        | some n => " LIMIT " ++ toString n
        | none => "")
end

end PinballScout
