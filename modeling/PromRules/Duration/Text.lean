import PromRules.Duration.Basic
import PromRules.Query.Error
import PromRules.Text.Blank

/-!
The text of a duration.

Writing: a zero span is `0ms`. Any other span is a `-` when it is negative, then the nonzero
digits of its magnitude in the mixed radix week, day, hour, minute, second, millisecond, each
followed by its unit and with no separators: `1h30m`, `-59s`, `2w1d`.

Reading: blanks at both ends are dropped; what remains is an optional `-` and then one or more
groups, each a run of ASCII digits followed by a unit. The units are tried in the order `ms`,
`w`, `d`, `h`, `m`, `s`, so `5ms` is five milliseconds. A digit run above `2^63 - 1` is refused.
Each group's count times its unit, and then the sum of the groups, saturate at `2^63 - 1`; a
leading `-` negates the total.
-/

namespace PromRules.Duration

/-- The units of the written form, largest first, with their sizes in milliseconds. -/
def writtenUnits : List (String × Nat) :=
  [("w", 604800000), ("d", 86400000), ("h", 3600000), ("m", 60000), ("s", 1000), ("ms", 1)]

/-- The nonzero mixed-radix digits of a magnitude, each with its unit, largest first. -/
def components : List (String × Nat) → Nat → List (Nat × String)
  | [], _ => []
  | (suffix, size) :: rest, n =>
    if n / size > 0 then (n / size, suffix) :: components rest (n % size)
    else components rest n

/-- The canonical text of a duration. -/
def render (d : Duration) : String :=
  if d.millis = 0 then "0ms"
  else
    let body := (components writtenUnits d.millis.natAbs).foldl
      (fun acc p => acc ++ toString p.1 ++ p.2) ""
    if d.millis < 0 then "-" ++ body else body

instance : ToString Duration := ⟨render⟩

/-- The unit that starts a text, tried in the order `ms`, `w`, `d`, `h`, `m`, `s`, with its
size in milliseconds and the rest of the text. -/
def readUnit : List Char → Option (Nat × List Char)
  | 'm' :: 's' :: rest => some (1, rest)
  | 'w' :: rest => some (604800000, rest)
  | 'd' :: rest => some (86400000, rest)
  | 'h' :: rest => some (3600000, rest)
  | 'm' :: rest => some (60000, rest)
  | 's' :: rest => some (1000, rest)
  | _ => none

/-- The value of a run of decimal digits. -/
def digitsValue (ds : List Char) : Nat :=
  ds.foldl (fun acc c => acc * 10 + (c.toNat - '0'.toNat)) 0

/-- Reads one group, a digit run and a unit, and gives the product of count and unit clamped
at `2^63 - 1`, with the rest of the text. -/
def readGroup (cs : List Char) : Option (Nat × List Char) :=
  let ds := cs.takeWhile Char.isDigit
  if ds.isEmpty then none
  else
    let count := digitsValue ds
    if maxMillis.toNat < count then none
    else
      match readUnit (cs.dropWhile Char.isDigit) with
      | some (size, rest) => some (min (count * size) maxMillis.toNat, rest)
      | none => none

theorem readUnit_length {cs rest : List Char} {size : Nat}
    (h : readUnit cs = some (size, rest)) : rest.length < cs.length := by
  unfold readUnit at h
  split at h <;> simp_all
  all_goals omega

theorem readGroup_length {cs rest : List Char} {value : Nat}
    (h : readGroup cs = some (value, rest)) : rest.length < cs.length := by
  unfold readGroup at h
  simp only at h
  split at h
  · simp at h
  · split at h
    · simp at h
    · split at h
      · rename_i size rest' hunit
        simp only [Option.some.injEq, Prod.mk.injEq] at h
        rw [← h.2]
        have hshort := readUnit_length hunit
        have hdrop : (cs.dropWhile Char.isDigit).length ≤ cs.length :=
          (List.dropWhile_suffix _).length_le
        omega
      · simp at h

/-- Reads groups up to the end of the text; `none` if some part is not a group. -/
def readGroups (cs : List Char) : Option (List Nat) :=
  if cs.isEmpty then some []
  else
    match h : readGroup cs with
    | some (value, rest) =>
      have : rest.length < cs.length := readGroup_length h
      (readGroups rest).map (value :: ·)
    | none => none
termination_by cs.length

/-- The sum of group values, clamped at `2^63 - 1` after each addition. -/
def sumGroups (values : List Nat) : Nat :=
  values.foldl (fun acc v => min (acc + v) maxMillis.toNat) 0

/-- Reads a duration from trimmed text: an optional `-` and at least one group. -/
def readSigned (cs : List Char) : Option Duration :=
  let (negative, body) := match cs with
    | '-' :: rest => (true, rest)
    | _ => (false, cs)
  match readGroups body with
  | some (v :: vs) =>
    let total : Int := sumGroups (v :: vs)
    some (clamp (if negative then -total else total))
  | _ => none

/-- Reads a duration text, refusing what the grammar does not admit. -/
def parse? (s : String) : Option Duration :=
  readSigned (Text.trimBlank s).toList

/-- Reads a duration text, or refuses it with the text as it was given, blanks included. -/
def fromText (s : String) : Except Query.QueryError Duration :=
  match parse? s with
  | some d => .ok d
  | none => .error (.invalidDuration s)

end PromRules.Duration
