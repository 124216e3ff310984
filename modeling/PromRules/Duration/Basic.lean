import PromRules.Number.Binary64

/-!
Durations: signed spans of time counted in milliseconds.

A duration holds any count of milliseconds that fits a 64-bit signed word, from `-2^63` to
`2^63 - 1`, and carries those bounds as proof fields. Arithmetic is done exactly on `Int` and
then clamped into the range once (`Duration.clamp`), so every operation saturates at the two
ends instead of wrapping. The units are the week, day, hour, minute, second and millisecond.
-/

namespace PromRules

/-- The least millisecond count a duration holds, `-2^63`. -/
def Duration.minMillis : Int := -9223372036854775808

/-- The greatest millisecond count a duration holds, `2^63 - 1`. -/
def Duration.maxMillis : Int := 9223372036854775807

/-- A signed span of time in milliseconds, within the 64-bit signed range. -/
structure Duration where
  millis : Int
  min_le : Duration.minMillis ≤ millis
  le_max : millis ≤ Duration.maxMillis
deriving DecidableEq

namespace Duration

/-- Moves an exact count to the nearest count in range: the saturation of every operation. -/
def clamp (n : Int) : Duration :=
  ⟨max minMillis (min n maxMillis),
   by unfold minMillis maxMillis; omega,
   by unfold minMillis maxMillis; omega⟩

/-- The duration of a count that is already in range, and nothing otherwise. -/
def ofMillis? (n : Int) : Option Duration :=
  if h : minMillis ≤ n ∧ n ≤ maxMillis then some ⟨n, h.1, h.2⟩ else none

/-- The empty span. -/
def zero : Duration := ⟨0, by decide, by decide⟩

instance : Inhabited Duration := ⟨zero⟩

/-- Milliseconds in one millisecond, second, minute, hour, day and week. -/
def millisPerSecond : Int := 1000
def millisPerMinute : Int := 60000
def millisPerHour : Int := 3600000
def millisPerDay : Int := 86400000
def millisPerWeek : Int := 604800000

def millisecond : Duration := clamp 1
def second : Duration := clamp millisPerSecond
def minute : Duration := clamp millisPerMinute
def hour : Duration := clamp millisPerHour
def day : Duration := clamp millisPerDay
def week : Duration := clamp millisPerWeek

/-- Saturating sum. -/
def add (a b : Duration) : Duration := clamp (a.millis + b.millis)

/-- Saturating difference. -/
def sub (a b : Duration) : Duration := clamp (a.millis - b.millis)

/-- Saturating negation: the negation of the least duration is the greatest one. -/
def neg (a : Duration) : Duration := clamp (-a.millis)

/-- Saturating product with a whole factor. -/
def scale (a : Duration) (n : Int) : Duration := clamp (a.millis * n)

/-- The product with a binary64 factor: the count is rounded to the nearest binary64 value, the
product rounded as hardware does, and the result rounded to a whole count with halves away from
zero, saturating; a NaN product gives zero. -/
def scaleBy (a : Duration) (f : Binary64) : Duration :=
  clamp ((Binary64.mul (Binary64.ofInt a.millis) f).roundClamped minMillis maxMillis)

instance : Add Duration := ⟨add⟩
instance : Sub Duration := ⟨sub⟩
instance : Neg Duration := ⟨neg⟩

/-- The duration of `count` times `unit`, saturating. -/
def ofCount (count : Int) (unit : Duration) : Duration := unit.scale count

def ofSeconds (n : Int) : Duration := ofCount n second
def ofMinutes (n : Int) : Duration := ofCount n minute
def ofHours (n : Int) : Duration := ofCount n hour
def ofDays (n : Int) : Duration := ofCount n day

/-- Whether the span is empty. -/
def isZero (a : Duration) : Bool := a.millis == 0

/-- Whether the span is longer than zero. -/
def isPositive (a : Duration) : Bool := decide (0 < a.millis)

/-- Nanoseconds in one second. -/
def nanosPerSecond : Int := 1000000000

/-- The span of `seconds` plus `nanos` nanoseconds, counted in whole milliseconds toward zero.
A span is refused when `nanos` is a whole second or more, or when its magnitude is more than
`2^63 - 1` milliseconds. -/
def ofSpan? (seconds : Int) (nanos : Nat) : Option Duration :=
  let total := seconds * nanosPerSecond + nanos
  if nanos < 1000000000 ∧ total.natAbs ≤ maxMillis.natAbs * 1000000 then
    some (clamp (total.tdiv 1000000))
  else
    none

@[simp] theorem clamp_millis (n : Int) : (clamp n).millis = max minMillis (min n maxMillis) := rfl

theorem clamp_of_mem (n : Int) (hlow : minMillis ≤ n) (hhigh : n ≤ maxMillis) :
    (clamp n).millis = n := by
  simp only [clamp_millis]
  omega

theorem clamp_millis_self (a : Duration) : clamp a.millis = a := by
  have hlow := a.min_le
  have hhigh := a.le_max
  cases a
  simp only [clamp, mk.injEq]
  omega

theorem eq_of_millis_eq {a b : Duration} (h : a.millis = b.millis) : a = b := by
  rw [← clamp_millis_self a, ← clamp_millis_self b, h]

end Duration

end PromRules
