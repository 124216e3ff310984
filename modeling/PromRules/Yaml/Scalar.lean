import PromRules.Number.Binary64

/-!
How a YAML string scalar is written.

A string is first checked for a reading as some other YAML value: the empty string, a null
(`null`, `Null`, `NULL`, `~`), a boolean (`true`, `True`, `TRUE` and the same for false), an
integer in decimal, hexadecimal (`0x`), octal (`0o`) or binary (`0b`) that fits 128 bits, or a
finite float (including `.inf`, `-.inf`, `.nan`). A run of digits with a leading zero, such as
`00`, also counts. Such a string is asked for in single quotes, a string holding a line feed as a
literal block, and any other string plainly.

The request then gives way to what the text allows, by the usual emitter rules: a plain scalar
may not start or end with a space or a break, hold a break, a character outside the printable
set, or an indicator where one would be read (`# , [ ] { } & * ! | > ' " % @` and a backquote
at the start; `-`, `?` or `:` at the start before a blank; `:` before a blank or `#` after one
anywhere; a leading `---` or `...`). A single-quoted scalar may hold no unprintable character and
no space next to a break. A literal block may hold no unprintable character, no trailing space
and no space before a break, and may not be a simple key. What is refused falls back to double
quotes, which can write everything.
-/

namespace PromRules.Yaml

/-- The value of a digit in bases up to 36. -/
def digitValue (c : Char) : Option Nat :=
  if c.isDigit then some (c.toNat - '0'.toNat)
  else if 'a' ≤ c ∧ c ≤ 'z' then some (c.toNat - 'a'.toNat + 10)
  else if 'A' ≤ c ∧ c ≤ 'Z' then some (c.toNat - 'A'.toNat + 10)
  else none

/-- The value of a nonempty run of digits in a base, if every character is such a digit. -/
def radixValue (radix : Nat) (ds : List Char) : Option Nat :=
  if ds.isEmpty then none
  else ds.foldl (fun acc c => acc.bind fun v =>
    (digitValue c).bind fun d => if d < radix then some (v * radix + d) else none) (some 0)

/-- Whether a text is an integer in a base that fits 128 bits: an optional `+`, or a `-` when
negative numbers are allowed, then digits. -/
def fitsInteger (radix : Nat) (signed : Bool) (cs : List Char) : Bool :=
  let limit := if signed then Nat.pow 2 127 - 1 else Nat.pow 2 128 - 1
  match cs with
  | '+' :: rest => (radixValue radix rest).any (· ≤ limit)
  | '-' :: rest => signed && (radixValue radix rest).any (· ≤ Nat.pow 2 127)
  | rest => (radixValue radix rest).any (· ≤ limit)

/-- Whether a text starts with a sign. -/
def startsWithSign : List Char → Bool
  | '+' :: _ | '-' :: _ => true
  | _ => false

/-- Digits with a leading zero, after an optional sign: text, not a number. -/
def digitsButNotNumber (cs : List Char) : Bool :=
  let t := match cs with
    | '+' :: r | '-' :: r => r
    | r => r
  match t with
  | '0' :: d :: rest => (d :: rest).all Char.isDigit
  | _ => false

/-- The radix prefixes, tried in order. -/
def radixPrefixes : List (List Char × Nat) := [(['0', 'x'], 16), (['0', 'o'], 8), (['0', 'b'], 2)]

/-- Reads as a nonnegative integer: an optional `+`, then a prefixed integer or decimal digits. A
sign right after a radix prefix makes the text no integer. -/
def readsAsUnsigned (cs : List Char) : Bool :=
  let unpositive := match cs with
    | '+' :: r => r
    | r => r
  let rec tryPrefixes : List (List Char × Nat) → Option Bool
    | [] => none
    | (pre, radix) :: more =>
      if pre.isPrefixOf unpositive then
        let rest := unpositive.drop pre.length
        if startsWithSign rest then some false
        else if fitsInteger radix false rest then some true
        else tryPrefixes more
      else tryPrefixes more
  match tryPrefixes radixPrefixes with
  | some answer => answer
  | none =>
    !startsWithSign unpositive && !digitsButNotNumber cs && fitsInteger 10 false unpositive

/-- Reads as a negative (or any signed) integer: `-0x`, `-0o`, `-0b` and digits, or decimal. -/
def readsAsSigned (cs : List Char) : Bool :=
  let prefixed := radixPrefixes.any fun (pre, radix) =>
    ('-' :: pre).isPrefixOf cs && fitsInteger radix true ('-' :: cs.drop (pre.length + 1))
  prefixed || (!digitsButNotNumber cs && fitsInteger 10 true cs)

/-- The parts of a decimal number text: digits with an optional point and exponent. Gives the
digits as one integer and the power of ten that scales them. -/
def readDecimal (cs : List Char) : Option (Nat × Int) :=
  let intPart := cs.takeWhile Char.isDigit
  let rest := cs.dropWhile Char.isDigit
  let (fracPart, rest) := match rest with
    | '.' :: r => (r.takeWhile Char.isDigit, r.dropWhile Char.isDigit)
    | r => ([], r)
  if intPart.isEmpty && fracPart.isEmpty then none
  else
    let mantissa := (intPart ++ fracPart).foldl (fun acc c => acc * 10 + (c.toNat - '0'.toNat)) 0
    let scale : Int := -(fracPart.length : Int)
    match rest with
    | [] => some (mantissa, scale)
    | e :: r =>
      if e == 'e' || e == 'E' then
        let (negative, ds) := match r with
          | '+' :: d => (false, d)
          | '-' :: d => (true, d)
          | d => (false, d)
        if !ds.isEmpty && ds.all Char.isDigit then
          let v : Int := ds.foldl (fun acc c => acc * 10 + (c.toNat - '0'.toNat)) 0
          some (mantissa, scale + (if negative then -v else v))
        else none
      else none

/-- Whether a text reads as a finite float: an optional sign, then a decimal number whose value
does not overflow. The words for infinity and NaN read, but not as finite values. -/
def readsAsFiniteFloat (cs : List Char) : Bool :=
  let (negative, body) := match cs with
    | '+' :: r => (false, r)
    | '-' :: r => (true, r)
    | r => (false, r)
  match readDecimal body with
  | some (m, e) => !(Binary64.ofDecimal negative m e).isInfinite
  | none => false

/-- Whether a text reads as a float value of YAML: `.inf`, `-.inf`, `.nan` in their three
spellings, or a finite decimal after at most one sign. -/
def readsAsFloat (s : String) : Bool :=
  let cs := s.toList
  let unpositive := match cs with
    | '+' :: r => if startsWithSign r then none else some r
    | r => some r
  match unpositive with
  | none => false
  | some u =>
    [".inf", ".Inf", ".INF"].contains (String.ofList u) ||
      ["-.inf", "-.Inf", "-.INF", ".nan", ".NaN", ".NAN"].contains s ||
      readsAsFiniteFloat u

/-- Whether a string would be read back as something other than a string, or is digits with
a leading zero: such a string is asked for in single quotes. -/
def readsAsOtherValue (s : String) : Bool :=
  let cs := s.toList
  s.isEmpty || ["null", "Null", "NULL", "~", "true", "True", "TRUE", "false", "False",
    "FALSE"].contains s ||
    readsAsUnsigned cs || readsAsSigned cs ||
    (!digitsButNotNumber cs && readsAsFloat s) || digitsButNotNumber cs

/-- A line break character: line feed, carriage return, next line, line and paragraph
separators. -/
def isBreak (c : Char) : Bool :=
  c == '\n' || c == '\r' || c.toNat == 0x85 || c.toNat == 0x2028 || c.toNat == 0x2029

/-- A blank, a break or the end: what may follow an indicator for it to be one. -/
def isBlankOrBreak (c : Char) : Bool :=
  c == ' ' || c == '\t' || isBreak c || c.toNat == 0

/-- The printable characters: line feed, ASCII from space to tilde, and the code points from
U+00A0 up except the surrogates, U+FEFF, U+FFFE and U+FFFF. -/
def isPrintable (c : Char) : Bool :=
  let n := c.toNat
  n == 0x0A || (0x20 ≤ n && n ≤ 0x7E) || (0xA0 ≤ n && n ≤ 0xD7FF) ||
    (0xE000 ≤ n && n ≤ 0xFFFD && n != 0xFEFF) || 0x10000 ≤ n

/-- What the characters of a string allow. -/
structure ScalarFacts where
  multiline : Bool
  plainAllowed : Bool
  singleQuotedAllowed : Bool
  blockAllowed : Bool
deriving DecidableEq, Repr

/-- The flags gathered in one pass over the characters. -/
structure Scan where
  indicators : Bool := false
  lineBreaks : Bool := false
  special : Bool := false
  leadingSpace : Bool := false
  leadingBreak : Bool := false
  trailingSpace : Bool := false
  trailingBreak : Bool := false
  breakSpace : Bool := false
  spaceBreak : Bool := false
  previousSpace : Bool := false
  previousBreak : Bool := false

/-- The characters that are indicators at the start of a scalar. -/
def leadingIndicators : List Char :=
  ['#', ',', '[', ']', '{', '}', '&', '*', '!', '|', '>', '\'', '"', '%', '@', Char.ofNat 96]

/-- Scans characters; `first` marks the first one and `prev` is the character before. -/
def scanChars (st : Scan) (first : Bool) (prev : Option Char) : List Char → Scan
  | [] => st
  | c :: rest =>
    let followedByBlank := match rest with
      | [] => true
      | d :: _ => isBlankOrBreak d
    let precededByBlank := match prev with
      | none => true
      | some p => isBlankOrBreak p
    let indicator :=
      if first then
        leadingIndicators.contains c || ((c == '?' || c == ':' || c == '-') && followedByBlank)
      else (c == ':' && followedByBlank) || (c == '#' && precededByBlank)
    let last := rest.isEmpty
    let st := { st with
      indicators := st.indicators || indicator
      special := st.special || !isPrintable c
      lineBreaks := st.lineBreaks || isBreak c }
    let st :=
      if c == ' ' then
        { st with
          leadingSpace := st.leadingSpace || first
          trailingSpace := st.trailingSpace || last
          breakSpace := st.breakSpace || st.previousBreak
          previousSpace := true, previousBreak := false }
      else if isBreak c then
        { st with
          leadingBreak := st.leadingBreak || first
          trailingBreak := st.trailingBreak || last
          spaceBreak := st.spaceBreak || st.previousSpace
          previousSpace := false, previousBreak := true }
      else { st with previousSpace := false, previousBreak := false }
    scanChars st false (some c) rest

/-- What the characters of a string allow. -/
def analyze (s : String) : ScalarFacts :=
  let cs := s.toList
  if cs.isEmpty then ⟨false, true, true, false⟩
  else
    let marker := ['-', '-', '-'].isPrefixOf cs || ['.', '.', '.'].isPrefixOf cs
    let st := scanChars { indicators := marker } true none cs
    let spaced := st.leadingSpace || st.leadingBreak || st.trailingSpace || st.trailingBreak
    { multiline := st.lineBreaks
      plainAllowed := !(spaced || st.breakSpace || st.spaceBreak || st.special ||
        st.lineBreaks || st.indicators)
      singleQuotedAllowed := !(st.breakSpace || st.spaceBreak || st.special)
      blockAllowed := !(st.trailingSpace || st.spaceBreak || st.special) }

/-- The ways a scalar is written. -/
inductive Style where
  | plain
  | singleQuoted
  | doubleQuoted
  | literal
deriving DecidableEq, Repr

/-- Whether a key can be written in the simple `key: value` form: on one line and at most 128
bytes long. -/
def isSimpleKey (s : String) : Bool :=
  !(analyze s).multiline && s.utf8ByteSize ≤ 128

/-- The style a string is written in; `simpleKey` marks a key in the simple form. -/
def chooseStyle (s : String) (simpleKey : Bool) : Style :=
  let facts := analyze s
  let requested : Style :=
    if s.contains '\n' then .literal
    else if readsAsOtherValue s then .singleQuoted
    else .plain
  let style := if simpleKey && facts.multiline then .doubleQuoted else requested
  let style :=
    if style == .plain && (!facts.plainAllowed || (s.isEmpty && simpleKey)) then .singleQuoted
    else style
  let style := if style == .singleQuoted && !facts.singleQuotedAllowed then .doubleQuoted else style
  if style == .literal && (!facts.blockAllowed || simpleKey) then .doubleQuoted else style

end PromRules.Yaml
