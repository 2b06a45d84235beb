/-!
# Similar words

When a word on the command line is unknown, messages suggest known words that look alike.
Likeness is the Jaro similarity: characters of one word match equal characters of the other
that stand at most `max(|a|, |b|) / 2 - 1` places away, each used once; with `m` matches and
`t` half the number of matched pairs out of order,

  `jaro a b = (m / |a| + m / |b| + (m - t) / m) / 3`

(zero without matches, one for two empty words). A word is suggested when its similarity
exceeds 0.7; suggestions go from the least to the most similar.
-/

namespace PinballScout.CommandLine

/-- The first unused position in `[lo, hi)` of `ys` holding `c`. -/
def matchAt (ys : Array Char) (used : Array Bool) (c : Char) (lo hi : Nat) : Option Nat :=
  (List.range hi).find? fun j => lo ≤ j && ys.getD j ' ' == c && !used.getD j true

/-- The Jaro similarity of two words, computed in doubles. -/
def jaro (a b : String) : Float :=
  let xs := a.toList
  let ys := b.toList.toArray
  let la := xs.length
  let lb := ys.size
  if la == 0 && lb == 0 then 1.0
  else if la == 0 || lb == 0 then 0.0
  else
    let range := max la lb / 2 - 1
    let start : List Bool × Array Bool := ([], Array.replicate lb false)
    let (aFlags, bFlags) := (xs.zipIdx).foldl (fun (af, bf) (c, i) =>
      match matchAt ys bf c (i - range) (min lb (i + range + 1)) with
      | some j => (true :: af, bf.set! j true)
      | none => (false :: af, bf)) start
    let aMatched := (xs.zip aFlags.reverse).filterMap fun (c, f) => if f then some c else none
    let bMatched := (ys.toList.zip bFlags.toList).filterMap fun (c, f) => if f then some c else none
    let m := aMatched.length
    let t := ((aMatched.zip bMatched).filter fun (x, y) => x != y).length / 2
    if m == 0 then 0.0
    else
      let mf := Float.ofNat m
      (mf / Float.ofNat la + mf / Float.ofNat lb + Float.ofNat (m - t) / mf) / 3.0

/-- The known words similar to `word`, from the least to the most similar; equally similar
words keep their order. -/
def similar (word : String) (known : List String) : List String :=
  let scored := (known.map fun k => (jaro word k, k)).filter fun (s, _) => s > 0.7
  (scored.mergeSort fun x y => x.1 ≤ y.1).map (·.2)

/-- The known word most similar to `word`, if any is similar enough. -/
def mostSimilar? (word : String) (known : List String) : Option String :=
  (similar word known).getLast?

end PinballScout.CommandLine
