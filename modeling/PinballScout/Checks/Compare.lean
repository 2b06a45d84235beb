import PinballScout.Checks.Basic
import PinballScout.Compare.Confidence

/-!
# Checks of comparisons

Relative strength against a baseline, the edge between two sides and its order, and the
confidence and likely score of the likely players.
-/

namespace PinballScout.Checks.Compare

/-- A likely player named after its games and median. -/
def likely (games : Nat) (p50 : Score) : LikelyPlayer := ⟨"p" ++ toString games ++ "-" ++ toString p50, games, p50⟩

/-- Relative strength is the percentage above the baseline. -/
def strengthBasic : Check := fun _ =>
  relativeStrength 1500000.0 1000000.0 == 50.0 && relativeStrength 750000.0 1000000.0 == -25.0 &&
    relativeStrength 1000000.0 1000000.0 == 0.0

/-- A zero baseline compares nothing. -/
def strengthZeroBaseline : Check := fun _ => relativeStrength 500000.0 0.0 == 0.0

/-- Relative strength grows with the value. -/
def strengthIncreasing : Check := fun _ =>
  let values := (List.range 286).map fun i => Float.ofNat (7 * i)
  (values.foldl (fun (ok, prev) v =>
    let rs := relativeStrength v 300.0
    (ok && rs > prev, rs)) (true, -(1.0 / 0.0))).1

/-- The edge is relative to the smaller value. -/
def edgeSmallerDenominator : Check := fun _ =>
  sameEdge (edgePercent 60.0 40.0) (.percent 50.0) && sameEdge (edgePercent 40.0 60.0) (.percent (-50.0))

/-- Equal values are even. -/
def edgeEqualEven : Check := fun _ =>
  sameEdge (edgePercent 0.0 0.0) .even && sameEdge (edgePercent 7.0 7.0) .even

/-- Against zero the edge is lopsided. -/
def edgeOneSided : Check := fun _ =>
  sameEdge (edgePercent 100.0 0.0) (.lopsided .first) && sameEdge (edgePercent 0.0 100.0) (.lopsided .second)

/-- Swapping the sides negates the edge. -/
def edgeAntisymmetric : Check := fun _ =>
  let values : List Float := [0.0, 1.0, 150.0, 2500000.0, 40000000.0]
  values.all fun a => values.all fun b =>
    (a == 0.0 && b == 0.0) || sameEdge (edgePercent a b) (edgePercent b a).neg

/-- In edge order lopsided edges stand at the ends. -/
def edgeOrder : Check := fun _ =>
  let sorted := sortEdges [.percent (-10.0), .lopsided .second, .even, .lopsided .first, .percent 25.0]
  let expected : List Edge := [.lopsided .first, .percent 25.0, .even, .percent (-10.0), .lopsided .second]
  sorted.length == expected.length && (sorted.zip expected).all fun (a, b) => sameEdge a b

/-- The side an edge favors. -/
def edgeFavors : Check := fun _ =>
  Edge.even.favors == none && (Edge.percent 3.0).favors == some .first &&
    (Edge.percent (-3.0)).favors == some .second && (Edge.lopsided .second).favors == some .second

/-- The thresholds are inclusive. -/
def confidenceBoundaries : Check := fun _ =>
  let t := Thresholds.default
  Confidence.ofAverage 2.9 t == .low && Confidence.ofAverage 3.0 t == .medium &&
    Confidence.ofAverage 9.9 t == .medium && Confidence.ofAverage 10.0 t == .high

/-- The thinner side decides the confidence. -/
def confidenceThinner : Check := fun _ =>
  let t := Thresholds.default
  let deep := [likely 12 1, likely 8 1]
  let thin := [likely 4 1]
  confidence deep deep t == .high && confidence deep thin t == .medium && confidence deep [] t == .low

/-- The likely score is the mean median. -/
def likelyScoreMean : Check := fun _ =>
  likelyScore [likely 12 60, likely 8 40] == some 50.0 && (likelyScore []).isNone

end PinballScout.Checks.Compare
