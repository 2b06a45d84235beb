/-!
# Strength and edges

`relativeStrength value baseline` is the percentage by which a value deviates from a league
baseline; a zero baseline means no comparison and gives zero.

An `Edge` says how much one side's value exceeds the other's: `even` when they are equal,
`lopsided` toward the side with data when the other side's value is zero, and otherwise the
percentage of the difference over the smaller value. All arithmetic is on doubles, in the
order written, so that results are the same to the last bit.

Edges sort from the first side's biggest advantage to the second side's (`sortKey`
descending); a value that is not a number compares equal to everything.
-/

namespace PinballScout

/-- Percentage by which `value` deviates from `baseline`; zero for a zero baseline. -/
def relativeStrength (value baseline : Float) : Float :=
  if baseline == 0.0 then 0.0 else (value - baseline) / baseline * 100.0

/-- One side of a two-way comparison. -/
inductive Side where
  | first
  | second
  deriving DecidableEq, Repr

/-- The other side. -/
def Side.other : Side → Side
  | .first => .second
  | .second => .first

/-- The name of a side as written in reports. -/
def Side.name : Side → String
  | .first => "First"
  | .second => "Second"

/-- How much one side's value exceeds the other's. -/
inductive Edge where
  /-- Both sides equal, including both having no data. -/
  | even
  /-- One side has data and the other none: that side wins outright. -/
  | lopsided (side : Side)
  /-- Percentage by which the first side exceeds the second; negative favours the second. -/
  | percent (value : Float)

/-- The smaller of two doubles, ignoring a value that is not a number. -/
def minNum (a b : Float) : Float :=
  if a.isNaN then b else if b.isNaN then a else if a ≤ b then a else b

/-- The edge of `a` over `b`, measured against the smaller of the two. -/
def edgePercent (a b : Float) : Edge :=
  if a == b then .even
  else
    let lo := minNum a b
    if lo == 0.0 then (if a > b then .lopsided .first else .lopsided .second)
    else .percent ((a - b) / lo * 100.0)

namespace Edge

/-- The side an edge favours, or `none` when it favours neither. -/
def favors : Edge → Option Side
  | .even => none
  | .lopsided side => some side
  | .percent p => if p > 0.0 then some .first else if p < 0.0 then some .second else none

/-- The key edges sort by, descending: a lopsided edge stands beyond every percentage. -/
def sortKey : Edge → Float
  | .even => 0.0
  | .lopsided .first => 1.0 / 0.0
  | .lopsided .second => -(1.0 / 0.0)
  | .percent p => p

/-- The same comparison seen from the other side. -/
def neg : Edge → Edge
  | .even => .even
  | .lopsided side => .lopsided side.other
  | .percent p => .percent (-p)

/-- Whether `a` may stand before `b` in descending order of sort keys. -/
def before (a b : Edge) : Bool := !(a.sortKey < b.sortKey)

end Edge

/-- Edges sorted stably from the first side's biggest advantage to the second side's. -/
def sortEdges (edges : List Edge) : List Edge := edges.mergeSort Edge.before

end PinballScout
