/-!
# Failure reports

When a call fails, the tool reports what failed and the faults behind it, outermost first:

```
Error: failed to open database at nowhere.db

Caused by:
    league database not found at nowhere.db
```

With several faults behind it, each is numbered, right-aligned in five places. A fault of
several lines keeps its later lines under its first.
-/

namespace PinballScout

/-- A failure: what failed, and the faults behind it, outermost first. -/
structure Failure where
  message : String
  causes : List String
  deriving DecidableEq, Repr

namespace Failure

/-- A failure with no fault behind it. -/
def plain (message : String) : Failure := ⟨message, []⟩

/-- The failure `inner` seen from a step that needed it. -/
def within (context : String) (inner : Failure) : Failure :=
  ⟨context, inner.message :: inner.causes⟩

/-- A number right-aligned in five places. -/
def numberMark (n : Nat) : String :=
  let digits := toString n
  String.ofList (List.replicate (5 - digits.length) ' ') ++ digits ++ ": "

/-- The report, ending in a line break. -/
def render (f : Failure) : String :=
  let behind := match f.causes with
    | [] => ""
    | [c] => "\n\nCaused by:\n    " ++ c.replace "\n" "\n    "
    | cs => "\n\nCaused by:" ++ String.join (cs.zipIdx.map fun (c, i) =>
        "\n" ++ numberMark i ++ c.replace "\n" "\n       ")
  "Error: " ++ f.message ++ behind ++ "\n"

end Failure

end PinballScout
