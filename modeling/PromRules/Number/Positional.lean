import PromRules.Number.Shortest

/-!
Positional decimal text: `d * 10^t` written with all its digits and never with an exponent.

A whole number is its digits followed by `t` zeros and no point; any other number has a point,
with a `0` before it when it is below one, and exactly the digits of `d` after the leading zeros
the exponent asks for. `shortestText` writes a binary64 value this way with its shortest digits.
-/

namespace PromRules.Number

/-- A run of `n` zero digits. -/
def zeros (n : Nat) : String := String.ofList (List.replicate n '0')

/-- The positional text of `d * 10^t`, with no sign. -/
def positional (d : Nat) (t : Int) : String :=
  let digits := toString d
  if 0 ≤ t then digits ++ zeros t.toNat
  else
    let fracLen := (-t).toNat
    let n := digits.length
    if fracLen < n then
      String.ofList (digits.toList.take (n - fracLen)) ++ "." ++
        String.ofList (digits.toList.drop (n - fracLen))
    else "0." ++ zeros (fracLen - n) ++ digits

/-- The shortest positional text of a finite magnitude `m * 2^e`, with no sign. -/
def shortestText (m : Nat) (e : Int) : String :=
  if m = 0 then "0"
  else
    let (d, t) := shortest m e
    positional d t

end PromRules.Number
