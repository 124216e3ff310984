import PromRules.Query.Build

/-!
The time an `@` modifier pins evaluation to, as a caller gives it.

A caller gives a time in seconds as a binary64, a whole count of seconds, a UTC date-time, or an
expression. A count of seconds becomes the nearest binary64, which is the count itself for every
count of 32 bits. A date-time becomes its milliseconds since the epoch, as the nearest binary64,
divided by a thousand.

A date-time is a count of seconds since the epoch with the nanoseconds past it. The nanoseconds
reach a second or more only in a leap second, which stands at the last second of a minute, and
the seconds run from the second day of the year -262144 to the last second of the year 262143.
-/

namespace PromRules.Query

/-- A UTC date-time: whole seconds since the epoch and the nanoseconds past them. -/
structure UtcTime where
  seconds : Int
  nanos : Nat
deriving DecidableEq, Repr

namespace UtcTime

/-- The date-time of a count of seconds and nanoseconds, if it is one: the seconds lie between
-262144-01-02 and the end of 262143, the nanoseconds are below two seconds, and a second or more
of them is a leap second, at the last second of a minute. -/
def ofTimestamp? (seconds : Int) (nanos : Nat) : Option UtcTime :=
  let secondOfDay := seconds % 86400
  if seconds < -8334632851200 || 8210298412799 < seconds || 2000000000 ≤ nanos then none
  else if 1000000000 ≤ nanos && secondOfDay % 60 != 59 then none
  else some ⟨seconds, nanos⟩

/-- Milliseconds since the epoch, the nanoseconds cut to whole milliseconds. -/
def timestampMillis (t : UtcTime) : Int := t.seconds * 1000 + (t.nanos / 1000000 : Nat)

end UtcTime

/-- The right-hand side of an `@` modifier: a time in seconds, or an expression. -/
inductive AtTarget where
  | timestamp (seconds : Binary64)
  | expr (e : Expr)

namespace AtTarget

/-- A whole count of seconds, as the nearest binary64. -/
def ofSeconds (seconds : Int) : AtTarget := .timestamp (Binary64.ofInt seconds)

/-- A date-time: its milliseconds since the epoch over a thousand, each step rounded to
nearest. -/
def ofTime (t : UtcTime) : AtTarget :=
  .timestamp (Binary64.div (Binary64.ofInt t.timestampMillis) (Binary64.ofInt 1000))

end AtTarget

/-- Pins evaluation to a time or to the value of another expression; an expression that gives a
range vector is refused (`atExpr`). -/
def Expr.atTarget (e : Expr) : AtTarget → Except QueryError Expr
  | .timestamp seconds => e.atTime seconds
  | .expr target => e.atExpr target

@[simp] theorem Expr.atTarget_timestamp (e : Expr) (seconds : Binary64) :
    e.atTarget (.timestamp seconds) = e.atTime seconds := rfl

@[simp] theorem Expr.atTarget_expr (e target : Expr) :
    e.atTarget (.expr target) = e.atExpr target := rfl

end PromRules.Query
