/-!
# TOML values

A TOML document is a table: keys in the order they were defined, each holding a string, an
integer (64-bit), a float, a boolean, a date-time (kept as written), an array or a table.
Every value remembers the bytes of the document it was read from, so a fault found while
interpreting a value can point at it.
-/

namespace PinballScout

namespace Toml

/-- Where a piece of a document lies: its first byte and the byte after it. -/
structure Span where
  start : Nat
  stop : Nat
  deriving DecidableEq, Repr

/-- A value of a TOML document, with its span. -/
inductive Value where
  | string (s : String) (span : Span)
  | integer (i : Int) (span : Span)
  | float (x : Float) (span : Span)
  | bool (b : Bool) (span : Span)
  | datetime (text : String) (span : Span)
  | array (items : List Value) (span : Span)
  | table (entries : List (String × Value)) (span : Span)

/-- The span of a value. -/
def Value.span : Value → Span
  | .string _ s | .integer _ s | .float _ s | .bool _ s | .datetime _ s | .array _ s | .table _ s => s

/-- A fault of a document: what is wrong and where. -/
structure Error where
  message : String
  span : Span
  deriving Repr

/-- The line (from zero) and column (from zero) of a byte offset in a text. The column counts
characters, or bytes when the offset splits a character; an offset past the end counts on. -/
def position (text : String) (index : Nat) : Nat × Nat :=
  let bytes := text.toUTF8.toList
  if bytes.isEmpty then (0, index)
  else
    let safe := min index (bytes.length - 1)
    let before := bytes.take safe
    let lineStart := before.length - (before.reverse.takeWhile (· != 10)).length
    let line := (bytes.take lineStart).count 10
    let piece := (bytes.drop lineStart).take (safe + 1 - lineStart)
    let column := match String.fromUTF8? ⟨piece.toArray⟩ with
      | some s => s.length - 1
      | none => safe - lineStart
    (line, column + (index - safe))

/-- A fault shown with the line it lies on: the position, the line under a gutter with its
number, carets under the span (at least one, at most to the end of the line), and the
message. -/
def Error.render (e : Error) (text : String) : String :=
  let (line, column) := position text e.span.start
  let number := toString (line + 1)
  let gutter := String.ofList (List.replicate (number.length + 1) ' ')
  let content := (text.splitOn "\n").getD line ""
  let width := min (e.span.stop - e.span.start) (content.utf8ByteSize - column)
  "TOML parse error at line " ++ number ++ ", column " ++ toString (column + 1) ++ "\n" ++
    gutter ++ "|\n" ++
    number ++ " | " ++ content ++ "\n" ++
    gutter ++ "|" ++ String.ofList (List.replicate (column + 1) ' ') ++ "^" ++
      String.ofList (List.replicate (width - 1) '^') ++ "\n" ++
    e.message ++ "\n"

end Toml

end PinballScout
