/-!
Similarity of words, for suggesting what a mistyped word may have meant.

The Jaro similarity of two words counts their matching characters (equal characters no farther
apart than half the longer word's length, less one) and the transpositions among them (matched
characters out of order, halved), and averages three ratios: matches over each word's length, and
matches that are not transpositions over matches. A suggestion is a candidate whose similarity
exceeds 0.7. Similarities are compared exactly, as fractions.
-/

namespace PromRules.Cli

/-- Marks the first unmarked position in `[lo, hi)` of `b` holding `ch`; reports whether one was
marked. -/
def markMatch (b : List Char) (flags : List Bool) (ch : Char) (lo hi : Nat) : Option (List Bool) :=
  let rec go (i : Nat) : List Char → List Bool → Option (List Bool)
    | x :: xs, f :: fs =>
      if lo ≤ i && i < hi && x == ch && !f then some (true :: fs)
      else (go (i + 1) xs fs).map (f :: ·)
    | _, _ => none
  go 0 b flags

/-- The matches of `a` in `b`: which positions of each are matched. -/
def matchFlags (a b : List Char) : List Bool × List Bool :=
  let range := max a.length b.length / 2 - 1
  let step (acc : List Bool × List Bool × Nat) (ch : Char) : List Bool × List Bool × Nat :=
    let (aFlags, bFlags, i) := acc
    let lo := i - range
    let hi := min b.length (i + range + 1)
    match markMatch b bFlags ch lo hi with
    | some bFlags' => (aFlags ++ [true], bFlags', i + 1)
    | none => (aFlags ++ [false], bFlags, i + 1)
  let (aFlags, bFlags, _) := a.foldl step ([], List.replicate b.length false, 0)
  (aFlags, bFlags)

/-- The Jaro similarity of two words as a fraction `(numerator, denominator)`. -/
def jaro (a b : String) : Nat × Nat :=
  let a := a.toList
  let b := b.toList
  if a.isEmpty && b.isEmpty then (1, 1)
  else if a.isEmpty || b.isEmpty then (0, 1)
  else
    let (aFlags, bFlags) := matchFlags a b
    let aMatched := (a.zip aFlags).filterMap fun p => if p.2 then some p.1 else none
    let bMatched := (b.zip bFlags).filterMap fun p => if p.2 then some p.1 else none
    let m := aMatched.length
    if m == 0 then (0, 1)
    else
      let t := ((aMatched.zip bMatched).filter fun p => p.1 != p.2).length / 2
      (m * b.length * m + m * a.length * m + (m - t) * a.length * b.length,
        3 * a.length * b.length * m)

/-- Whether a similarity exceeds 0.7. -/
def isSimilar (s : Nat × Nat) : Bool := 7 * s.2 < 10 * s.1

/-- Whether one similarity is at most another. -/
def similarityLe (x y : Nat × Nat) : Bool := x.1 * y.2 ≤ y.1 * x.2

/-- The candidates similar to `word`, least similar first, ties in the given order. -/
def similarWords (word : String) (candidates : List String) : List String :=
  let scored := candidates.filterMap fun c =>
    let s := jaro word c
    if isSimilar s then some (s, c) else none
  (scored.mergeSort (fun x y => similarityLe x.1 y.1)).map (·.2)

/-- The most similar candidate, the last of equals. -/
def bestMatch? (word : String) (candidates : List String) : Option String :=
  (similarWords word candidates).getLast?

end PromRules.Cli
