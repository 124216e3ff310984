import PromRules.Number.Binary64

/-!
Shortest decimal digits of a binary64 value.

A finite positive value `v = m * 2^e` is the nearest pattern to every real in its rounding
interval: the reals within half a gap of `v` on either side. Below a power of two whose
mantissa is the hidden bit alone the lower gap is half as wide. The interval's ends belong to
it when `m` is even, and always for a value below the normal range.

`shortest` gives digits `d` and an exponent `t` with `d * 10^t` in that interval, and
`d` having as few significant digits as possible: for `k = 1, 2, …` it takes the two
neighbours of `v` on the grid of `k` significant digits and stops at the first `k` where one
of them lies in the interval. Of two that do, the nearer to `v` wins, and an exact tie goes to
the upper one. Everything is computed on integers, with the interval's ends scaled by four so
that they are whole multiples of `2^(e-2)`.
-/

namespace PromRules.Number

/-- Compares `a * 10^t` with `b * 2^s` on integers. -/
def compareScaled (a : Nat) (t : Int) (b : Nat) (s : Int) : Ordering :=
  compare (a * Nat.pow 10 t.toNat * Nat.pow 2 (-s).toNat) (b * Nat.pow 2 s.toNat * Nat.pow 10 (-t).toNat)

/-- The exponent of the highest power of ten not above `m * 2^e`, for `m > 0`. -/
def floorLog10 (m : Nat) (e : Int) : Int :=
  let bits : Int := (Nat.log2 m : Int) + e
  let guess : Int := (bits * 30103).fdiv 100000
  -- the guess is off by at most one in either direction
  let candidates := [guess + 1, guess, guess - 1]
  match candidates.find? (fun p => compareScaled 1 p m e != .gt) with
  | some p => p
  | none => guess - 2

/-- The rounding interval of a finite positive value `m * 2^e`, scaled by `2^(2-e)`: the lower
end, the value and the upper end, and whether the ends belong to it. -/
structure Interval where
  low : Nat
  value : Nat
  high : Nat
  inclusive : Bool

/-- The rounding interval of `m * 2^e`, in units of `2^(e-2)`. -/
def interval (m : Nat) : Interval :=
  if m = Binary64.hiddenBit then
    { low := 4 * m - 1, value := 4 * m, high := 4 * m + 2, inclusive := true }
  else
    { low := 4 * m - 2, value := 4 * m, high := 4 * m + 2,
      inclusive := m < Binary64.hiddenBit || m % 2 == 0 }

/-- Whether `c * 10^t` lies in the interval whose unit is `2^s`. -/
def Interval.admits (iv : Interval) (c : Nat) (t s : Int) : Bool :=
  let aboveLow := match compareScaled c t iv.low s with
    | .gt => true
    | .eq => iv.inclusive
    | .lt => false
  let belowHigh := match compareScaled c t iv.high s with
    | .lt => true
    | .eq => iv.inclusive
    | .gt => false
  aboveLow && belowHigh

/-- The digits at the grid of step `10^t` nearest to the value when one of its two neighbours
lies in the interval: the nearer neighbour, a tie going up. -/
def pickOnGrid (iv : Interval) (t s : Int) : Option Nat :=
  let num := iv.value * Nat.pow 2 s.toNat * Nat.pow 10 (-t).toNat
  let den := Nat.pow 2 (-s).toNat * Nat.pow 10 t.toNat
  let q := num / den
  let r := num % den
  let downIn := iv.admits q t s
  let upIn := iv.admits (q + 1) t s
  if downIn && upIn then
    if 2 * r < den then some q else some (q + 1)
  else if downIn then some q
  else if upIn then some (q + 1)
  else none

/-- Drops the trailing zeros of `d * 10^t`, raising the exponent. -/
def stripZeros (d : Nat) (t : Int) : Nat → Nat × Int
  | 0 => (d, t)
  | fuel + 1 => if d ≠ 0 ∧ d % 10 = 0 then stripZeros (d / 10) (t + 1) fuel else (d, t)

/-- Tries the grids of `k, k+1, …` significant digits, at most `fuel` of them. -/
def searchGrids (iv : Interval) (p s : Int) (k : Nat) : Nat → Nat × Int
  | 0 => (iv.value, s)
  | fuel + 1 =>
    let t := p - k + 1
    match pickOnGrid iv t s with
    | some d => stripZeros d t 20
    | none => searchGrids iv p s (k + 1) fuel

/-- The shortest digits and exponent of the finite positive value `m * 2^e`, for `m > 0`. -/
def shortest (m : Nat) (e : Int) : Nat × Int :=
  searchGrids (interval m) (floorLog10 m e) (e - 2) 1 17

end PromRules.Number
