/-!
IEEE 754 binary64 numbers, kept as their 64-bit pattern.

A pattern is a sign bit, an 11-bit biased exponent and a 52-bit fraction. `classify` reads a
pattern as not-a-number, an infinity, or a finite magnitude `mantissa * 2^exponent`. The one
rounding rule used to make patterns from exact values is `roundRatio`: the nearest
representable magnitude, a tie going to the even mantissa, and anything at or past the
largest finite binade's end becoming an infinity. Products and conversions from integers and
decimals are exact computations followed by that rounding, so they agree with hardware
arithmetic in round-to-nearest mode.
-/

namespace PromRules

/-- An IEEE 754 binary64 value, kept as its bit pattern. -/
structure Binary64 where
  bits : UInt64
deriving DecidableEq, Inhabited

/-- What a binary64 pattern denotes: a magnitude is `mantissa * 2^exponent`. -/
inductive Binary64.Class where
  | nan
  | infinite
  | finite (mantissa : Nat) (exponent : Int)
deriving DecidableEq, Repr

namespace Binary64

/-- The weight `2^52` of the hidden bit of a normal mantissa. -/
def hiddenBit : Nat := 4503599627370496

/-- Whether the sign bit is set; true also for negative zero and for a NaN with the bit set. -/
def isNegative (x : Binary64) : Bool := decide (9223372036854775808 ≤ x.bits.toNat)

/-- The biased exponent field. -/
def exponentField (x : Binary64) : Nat := (x.bits.toNat / hiddenBit) % 2048

/-- The fraction field. -/
def fraction (x : Binary64) : Nat := x.bits.toNat % hiddenBit

/-- Reads a pattern as a NaN, an infinity or a finite magnitude. -/
def classify (x : Binary64) : Class :=
  if x.exponentField = 2047 then
    if x.fraction = 0 then .infinite else .nan
  else if x.exponentField = 0 then
    .finite x.fraction (-1074)
  else
    .finite (x.fraction + hiddenBit) ((x.exponentField : Int) - 1075)

/-- Whether the pattern is a NaN. -/
def isNaN (x : Binary64) : Bool := x.classify == .nan

/-- Whether the pattern is an infinity. -/
def isInfinite (x : Binary64) : Bool := x.classify == .infinite

/-- The pattern made of a sign, a biased exponent field and a fraction field. -/
def ofFields (negative : Bool) (field fraction : Nat) : Binary64 :=
  ⟨UInt64.ofNat ((if negative then 9223372036854775808 else 0) + field * hiddenBit + fraction)⟩

/-- Positive and negative infinity. -/
def infinity (negative : Bool) : Binary64 := ofFields negative 2047 0

/-- The quiet NaN with a clear sign bit. -/
def nan : Binary64 := ofFields false 2047 2251799813685248

/-- Zero with the given sign. -/
def zero (negative : Bool) : Binary64 := ofFields negative 0 0

/-- The same pattern with the sign bit flipped. -/
def negate (x : Binary64) : Binary64 :=
  ofFields (!x.isNegative) x.exponentField x.fraction

/-- Whether `num / den ≥ 2^k`, decided on integers. -/
def ratioAtLeastPow2 (num den : Nat) (k : Int) : Bool :=
  if 0 ≤ k then decide (den * Nat.pow 2 k.toNat ≤ num) else decide (den ≤ num * Nat.pow 2 (-k).toNat)

/-- The exponent of the highest power of two not above `num / den`, for `num, den > 0`. -/
def floorLog2Ratio (num den : Nat) : Int :=
  let guess : Int := (Nat.log2 num : Int) - (Nat.log2 den : Int)
  if ratioAtLeastPow2 num den guess then guess else guess - 1

/-- Divides `num` by `den * 2^e` and rounds to the nearest integer, a tie going to even. -/
def roundScaled (num den : Nat) (e : Int) : Nat :=
  let (n, d) := if 0 ≤ e then (num, den * Nat.pow 2 e.toNat) else (num * Nat.pow 2 (-e).toNat, den)
  let q := n / d
  let r := n % d
  if d < 2 * r || (2 * r = d && q % 2 = 1) then q + 1 else q

/-- The pattern nearest to `num / den` with the given sign, a tie going to the even mantissa;
magnitudes from the end of the largest binade up become infinities. -/
def roundRatio (negative : Bool) (num den : Nat) : Binary64 :=
  if num = 0 || den = 0 then zero negative
  else
    let e := max (floorLog2Ratio num den - 52) (-1074)
    let q := roundScaled num den e
    let (q, e) := if q = 2 * hiddenBit then (hiddenBit, e + 1) else (q, e)
    if q < hiddenBit then ofFields negative 0 q
    else
      let field := e + 1075
      if 2047 ≤ field then infinity negative
      else ofFields negative field.toNat (q - hiddenBit)

/-- The pattern nearest to an integer. -/
def ofInt (n : Int) : Binary64 := roundRatio (n < 0) n.natAbs 1

/-- The pattern nearest to `mantissa * 10^exponent`. Exponents far outside the finite range
are settled without computing the power: the result is then zero or an infinity. -/
def ofDecimal (negative : Bool) (mantissa : Nat) (exponent : Int) : Binary64 :=
  let width : Int := (Nat.toDigits 10 mantissa).length
  if mantissa = 0 then zero negative
  else if 310 < width + exponent then infinity negative
  else if width + exponent < -330 then zero negative
  else if 0 ≤ exponent then roundRatio negative (mantissa * Nat.pow 10 exponent.toNat) 1
  else roundRatio negative mantissa (Nat.pow 10 (-exponent).toNat)

/-- The product, rounded as hardware does: a NaN operand or an infinity times zero gives a NaN,
an infinity operand otherwise gives an infinity, and finite operands give the nearest pattern to
the exact product. -/
def mul (x y : Binary64) : Binary64 :=
  let negative := x.isNegative != y.isNegative
  match x.classify, y.classify with
  | .nan, _ => nan
  | _, .nan => nan
  | .infinite, .finite 0 _ => nan
  | .finite 0 _, .infinite => nan
  | .infinite, _ => infinity negative
  | _, .infinite => infinity negative
  | .finite m e, .finite n f =>
    let k := e + f
    if 0 ≤ k then roundRatio negative (m * n * Nat.pow 2 k.toNat) 1
    else roundRatio negative (m * n) (Nat.pow 2 (-k).toNat)

/-- The quotient, rounded as hardware does: a NaN operand, zero over zero or an infinity over an
infinity gives a NaN; an infinity over a finite value, or a nonzero value over zero, gives an
infinity; a finite value over an infinity gives zero; finite operands give the nearest pattern to
the exact quotient. -/
def div (x y : Binary64) : Binary64 :=
  let negative := x.isNegative != y.isNegative
  match x.classify, y.classify with
  | .nan, _ => nan
  | _, .nan => nan
  | .infinite, .infinite => nan
  | .infinite, _ => infinity negative
  | _, .infinite => zero negative
  | .finite 0 _, .finite 0 _ => nan
  | .finite _ _, .finite 0 _ => infinity negative
  | .finite m e, .finite n f =>
    let k := e - f
    if 0 ≤ k then roundRatio negative (m * Nat.pow 2 k.toNat) n
    else roundRatio negative m (n * Nat.pow 2 (-k).toNat)

/-- The integer nearest to a finite magnitude `m * 2^e`, a half going away from zero. -/
def roundHalfAway (m : Nat) (e : Int) : Nat :=
  if 0 ≤ e then m * Nat.pow 2 e.toNat
  else
    let d := Nat.pow 2 (-e).toNat
    if d ≤ 2 * (m % d) then m / d + 1 else m / d

/-- The integer nearest to the value, a half going away from zero, clamped into `[lo, hi]`;
a NaN gives zero and the infinities give the ends. -/
def roundClamped (x : Binary64) (lo hi : Int) : Int :=
  match x.classify with
  | .nan => 0
  | .infinite => if x.isNegative then lo else hi
  | .finite m e =>
    let n : Int := roundHalfAway m e
    max lo (min hi (if x.isNegative then -n else n))

/-- Whether a finite value is a whole number. -/
def isIntegral (x : Binary64) : Bool :=
  match x.classify with
  | .finite m e => 0 ≤ e || m % Nat.pow 2 (-e).toNat == 0
  | _ => false

theorem ofInt_zero : ofInt 0 = zero false := rfl

end Binary64

end PromRules
