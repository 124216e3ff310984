import PromRules.Toml.Scan

/-!
Reading TOML numbers and date-times.

Integers are decimal, with an optional sign, no leading zero and single underscores between
digits, or hexadecimal, octal or binary after `0x`, `0o` or `0b`; each must fit a signed 64-bit
word. Floats add a fraction, an exponent or both to a decimal integer, or are `inf` or `nan` with
an optional sign; they are rounded to the nearest binary64 value, and one that overflows to
positive infinity is refused. A date-time is a date `YYYY-MM-DD` optionally followed by `T`, `t`
or a space and a time `HH:MM:SS` with optional fraction and offset, or a time alone; each field has
its range.
-/

namespace PromRules.Toml

/-- The value of decimal digits. -/
def decimalValue (ds : List Char) : Nat := ds.foldl (fun acc d => acc * 10 + (d.toNat - '0'.toNat)) 0

/-- Reads a field of exactly `width` digits whose value lies in `[lo, hi]`. -/
def readField (width lo hi : Nat) (c : Cursor) : Except Failure (Nat × Cursor) :=
  let (ds, c') := c.takeUpTo Char.isDigit width
  if ds.length != width then .error c.fail
  else
    let v := decimalValue ds
    if lo ≤ v && v ≤ hi then .ok (v, c') else .error (Failure.because c.offset "value is out of range")

/-- Reads one expected character. -/
def expectChar (ch : Char) (c : Cursor) : Except Failure Cursor :=
  if c.peek? == some ch then .ok c.next else .error c.fail

/-- Makes a failure final. -/
def cutting {α : Type} (r : Except Failure α) : Except Failure α := r.mapError Failure.toCut

/-- Reads a time `HH:MM:SS` with an optional fraction; after `HH:` every failure is final. -/
def readTime (c : Cursor) : Except Failure Cursor := do
  let (_, c) ← readField 2 0 23 c
  let c ← expectChar ':' c
  cutting do
    let (_, c) ← readField 2 0 59 c
    let c ← expectChar ':' c
    let (_, c) ← readField 2 0 60 c
    if c.peek? == some '.' then
      let (ds, c') := c.next.takeWhile Char.isDigit
      pure (if ds.isEmpty then c else c')
    else pure c

/-- Reads an optional time offset: `Z`, or a sign with `HH:MM`. -/
def readOffset (c : Cursor) : Except Failure Cursor :=
  let body : Except Failure Cursor :=
    match c.peek? with
    | some 'Z' | some 'z' => .ok c.next
    | some '+' | some '-' => cutting do
      let (_, c') ← readField 2 0 23 c.next
      let c' ← expectChar ':' c'
      let (_, c') ← readField 2 0 59 c'
      pure c'
    | _ => .ok c
  body.mapError (·.label "time offset")

/-- Reads a date with an optional time and offset. -/
def readDate (c : Cursor) : Except Failure Cursor := do
  let (_, c) ← readField 4 0 9999 c
  let c ← expectChar '-' c
  let c ← cutting do
    let (_, c) ← readField 2 1 12 c
    let c ← expectChar '-' c
    let (_, c) ← readField 2 1 31 c
    pure c
  match c.peek? with
  | some 'T' | some 't' | some ' ' =>
    match readTime c.next with
    | .ok c' => readOffset c'
    | .error f => if f.cut then .error f else .ok c
  | _ => .ok c

/-- Reads a date-time or a time, giving its text. -/
def readDateTime (c : Cursor) : Except Failure (String × Cursor) :=
  let text (c' : Cursor) : String := String.ofList (c.rest.take (c.rest.length - c'.rest.length))
  match readDate c with
  | .ok c' => .ok (text c', c')
  | .error f =>
    if f.cut then .error (f.label "date-time")
    else match readTime c with
      | .ok c' => .ok (text c', c')
      | .error g => .error (g.label "time")

/-- Reads digits with single underscores between them, after a first digit is read; `isDigit`
says which digits count. -/
def readDigitRun (isDigit : Char → Bool) (acc : List Char) (c : Cursor) :
    Nat → Except Failure (List Char × Cursor)
  | 0 => .ok (acc, c)
  | fuel + 1 =>
    match c.peek? with
    | some ch =>
      if isDigit ch then readDigitRun isDigit (acc ++ [ch]) c.next fuel
      else if ch == '_' then
        match c.next.peek? with
        | some d =>
          if isDigit d then readDigitRun isDigit (acc ++ ['_', d]) c.next.next fuel
          else .error ((c.next.fail.expect (.describe "digit")).toCut)
        | none => .error ((c.next.fail.expect (.describe "digit")).toCut)
      else .ok (acc, c)
    | none => .ok (acc, c)

/-- Reads a digit and the run after it. -/
def readZeroPrefixable (c : Cursor) : Except Failure (List Char × Cursor) :=
  match c.peek? with
  | some d => if d.isDigit then readDigitRun Char.isDigit [d] c.next (c.rest.length + 1)
    else .error c.fail
  | none => .error c.fail

/-- Reads a decimal integer's text: an optional sign, then `0` or a digit run not starting with
`0`. -/
def readDecimal (c : Cursor) : Except Failure (List Char × Cursor) :=
  let body : Except Failure (List Char × Cursor) :=
    let (sign, c1) : List Char × Cursor := match c.peek? with
      | some '+' => (['+'], c.next)
      | some '-' => (['-'], c.next)
      | _ => ([], c)
    match c1.peek? with
    | some '0' => .ok (sign ++ ['0'], c1.next)
    | some d =>
      if d.isDigit then readDigitRun Char.isDigit (sign ++ [d]) c1.next (c1.rest.length + 1)
      else .error c1.fail
    | none => .error c1.fail
  body.mapError (·.label "integer")

/-- Reads an exponent: `e` or `E`, an optional sign and digits. -/
def readExponent (c : Cursor) : Except Failure (List Char × Cursor) :=
  match c.peek? with
  | some e =>
    if e == 'e' || e == 'E' then
      let (sign, c1) : List Char × Cursor := match c.next.peek? with
        | some '+' => (['+'], c.next.next)
        | some '-' => (['-'], c.next.next)
        | _ => ([], c.next)
      match readZeroPrefixable c1 with
      | .ok (ds, c2) => .ok (e :: sign ++ ds, c2)
      | .error f => .error f.toCut
    else .error c.fail
  | none => .error c.fail

/-- Reads a fraction: a point and digits. -/
def readFraction (c : Cursor) : Except Failure (List Char × Cursor) :=
  if c.peek? == some '.' then
    match readZeroPrefixable c.next with
    | .ok (ds, c') => .ok ('.' :: ds, c')
    | .error f => .error ((f.expect (.describe "digit")).toCut)
  else .error c.fail

/-- Reads the text of a float with a fraction, an exponent or both. -/
def readFloatText (c : Cursor) : Except Failure (List Char × Cursor) := do
  let (whole, c1) ← readDecimal c
  match readExponent c1 with
  | .ok (ex, c2) => .ok (whole ++ ex, c2)
  | .error f =>
    if f.cut then .error f
    else do
      let (frac, c2) ← readFraction c1
      match readExponent c2 with
      | .ok (ex, c3) => .ok (whole ++ frac ++ ex, c3)
      | .error g => if g.cut then .error g else .ok (whole ++ frac, c2)

/-- The binary64 value of a float text without underscores: sign, digits with an optional point,
and an optional exponent. -/
def floatValue (text : List Char) : Binary64 :=
  let (negative, body) := match text with
    | '-' :: r => (true, r)
    | '+' :: r => (false, r)
    | _ => (false, text)
  let mantissaPart := body.takeWhile (fun ch => ch != 'e' && ch != 'E')
  let expPart := (body.dropWhile (fun ch => ch != 'e' && ch != 'E')).drop 1
  let intDigits := mantissaPart.takeWhile (· != '.')
  let fracDigits := (mantissaPart.dropWhile (· != '.')).drop 1
  let expValue : Int := match expPart with
    | '-' :: ds => -(decimalValue ds : Int)
    | '+' :: ds => decimalValue ds
    | ds => decimalValue ds
  Binary64.ofDecimal negative (decimalValue (intDigits ++ fracDigits)) (expValue - fracDigits.length)

/-- Reads a float. -/
def readFloat (c : Cursor) : Except Failure (Binary64 × Cursor) :=
  let body : Except Failure (Binary64 × Cursor) :=
    match readFloatText c with
    | .ok (text, c') =>
      let v := floatValue (text.filter (· != '_'))
      if v == Binary64.infinity false then .error c.fail.toCut else .ok (v, c')
    | .error f =>
      if f.cut then .error f
      else
        let (negative, c1) : Bool × Cursor := match c.peek? with
          | some '+' => (false, c.next)
          | some '-' => (true, c.next)
          | _ => (false, c)
        if c1.startsWith "inf" then .ok (Binary64.infinity negative, c1.skip 3)
        else if c1.startsWith "nan" then
          .ok ((if negative then Binary64.negate Binary64.nan else Binary64.nan), c1.skip 3)
        else .error c1.fail
  body.mapError (·.label "floating-point number")

/-- The least and greatest values of a signed 64-bit word. -/
def int64Min : Int := -9223372036854775808

/-- The greatest value of a signed 64-bit word. -/
def int64Max : Int := 9223372036854775807

/-- Checks that an integer fits a signed 64-bit word, failing at `c` otherwise. -/
def fitInt64 (c : Cursor) (v : Int) : Except Failure Int :=
  if int64Max < v then .error (Failure.because c.offset "number too large to fit in target type").toCut
  else if v < int64Min then
    .error (Failure.because c.offset "number too small to fit in target type").toCut
  else .ok v

/-- Reads an integer in a base after its two-character prefix. -/
def readRadix (base : Nat) (name : String) (isDigit : Char → Bool) (c : Cursor) :
    Except Failure (Int × Cursor) := do
  let c1 := c.skip 2
  let digits : Except Failure (List Char × Cursor) := match c1.peek? with
    | some d =>
      if isDigit d then readDigitRun isDigit [d] c1.next (c1.rest.length + 1)
      else .error c1.fail
    | none => .error c1.fail
  let (ds, c2) ← digits.mapError (fun f => (f.label name).toCut)
  let v := (ds.filter (· != '_')).foldl (fun acc d => acc * base + hexValue [d]) 0
  let v ← fitInt64 c v
  pure (v, c2)

/-- Reads an integer. -/
def readInteger (c : Cursor) : Except Failure (Int × Cursor) :=
  if c.startsWith "0x" then readRadix 16 "hexadecimal integer" isHexDigit c
  else if c.startsWith "0o" then readRadix 8 "octal integer" (fun d => '0' ≤ d && d ≤ '7') c
  else if c.startsWith "0b" then readRadix 2 "binary integer" (fun d => d == '0' || d == '1') c
  else do
    let (text, c') ← readDecimal c
    let digits := text.filter (fun ch => ch.isDigit)
    let magnitude : Int := decimalValue digits
    let v ← fitInt64 c (if text.head? == some '-' then -magnitude else magnitude)
    pure (v, c')

end PromRules.Toml
