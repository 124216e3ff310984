import PromRules.Json.Value

/-!
Reading JSON text.

The grammar is the strict one: blanks are space, tab, line feed and carriage return; strings
hold no raw control character and only the escapes `\" \\ \/ \b \f \n \r \t \uXXXX`, where a
surrogate escape must be a high one followed by a low one; numbers have no leading zeros, no
bare point and no missing digits; nothing may follow the document but blanks. Arrays and
objects nest at most 127 deep. Every step consumes input, and the recursion is bounded by the
text's length.
-/

namespace PromRules.Json

/-- The nesting depth a document may reach. -/
def maxDepth : Nat := 127

/-- Skips JSON blanks. -/
def skipBlanks : List Char → List Char
  | ' ' :: rest => skipBlanks rest
  | '\t' :: rest => skipBlanks rest
  | '\n' :: rest => skipBlanks rest
  | '\r' :: rest => skipBlanks rest
  | cs => cs

/-- The value of a hexadecimal digit. -/
def hexValue? (c : Char) : Option Nat :=
  if '0' ≤ c ∧ c ≤ '9' then some (c.toNat - '0'.toNat)
  else if 'a' ≤ c ∧ c ≤ 'f' then some (c.toNat - 'a'.toNat + 10)
  else if 'A' ≤ c ∧ c ≤ 'F' then some (c.toNat - 'A'.toNat + 10)
  else none

/-- Reads four hexadecimal digits. -/
def readHex4 : List Char → Option (Nat × List Char)
  | a :: b :: c :: d :: rest => do
    let va ← hexValue? a
    let vb ← hexValue? b
    let vc ← hexValue? c
    let vd ← hexValue? d
    pure (((va * 16 + vb) * 16 + vc) * 16 + vd, rest)
  | _ => none

/-- Reads the rest of a `\u` escape, joining a surrogate pair into one character. -/
def readUnicodeEscape (cs : List Char) : Option (Char × List Char) := do
  let (hi, rest) ← readHex4 cs
  if 0xD800 ≤ hi ∧ hi < 0xDC00 then
    match rest with
    | '\\' :: 'u' :: more =>
      let (lo, rest') ← readHex4 more
      if 0xDC00 ≤ lo ∧ lo < 0xE000 then
        pure (Char.ofNat (0x10000 + (hi - 0xD800) * 0x400 + (lo - 0xDC00)), rest')
      else none
    | _ => none
  else if 0xDC00 ≤ hi ∧ hi < 0xE000 then none
  else pure (Char.ofNat hi, rest)

/-- Reads the body of a string after its opening quote; the characters so far are given in
reverse. -/
def readStringBody (acc : List Char) : List Char → Option (String × List Char)
  | [] => none
  | '"' :: rest => some (String.ofList acc.reverse, rest)
  | '\\' :: c :: rest =>
    let simple : Option Char := match c with
      | '"' => some '"'
      | '\\' => some '\\'
      | '/' => some '/'
      | 'b' => some (Char.ofNat 8)
      | 'f' => some (Char.ofNat 12)
      | 'n' => some '\n'
      | 'r' => some '\r'
      | 't' => some '\t'
      | _ => none
    match simple with
    | some d => readStringBody (d :: acc) rest
    | none =>
      if c == 'u' then
        match readUnicodeEscape rest with
        | some (d, rest') =>
          if rest'.length < rest.length then readStringBody (d :: acc) rest' else none
        | none => none
      else none
  | c :: rest => if c.toNat < 0x20 then none else readStringBody (c :: acc) rest
termination_by cs => cs.length

/-- Reads a run of ASCII digits. -/
def readDigits (cs : List Char) : List Char × List Char :=
  (cs.takeWhile Char.isDigit, cs.dropWhile Char.isDigit)

/-- The value of a run of decimal digits. -/
def digitsToNat (ds : List Char) : Nat :=
  ds.foldl (fun acc c => acc * 10 + (c.toNat - '0'.toNat)) 0

/-- Reads a number. -/
def readNumber (cs : List Char) : Option (JsonNumber × List Char) := do
  let (negative, cs) := match cs with
    | '-' :: rest => (true, rest)
    | _ => (false, cs)
  let (intDigits, cs) := readDigits cs
  if intDigits.isEmpty then none
  else if intDigits.length > 1 && intDigits.head? == some '0' then none
  else
    let (fracDigits, cs, hasFrac) := match cs with
      | '.' :: rest => let (ds, rest') := readDigits rest; (ds, rest', true)
      | _ => ([], cs, false)
    if hasFrac && fracDigits.isEmpty then none
    else
      let (expValue, cs, hasExp, expOk) : Int × List Char × Bool × Bool := match cs with
        | e :: rest =>
          if e == 'e' || e == 'E' then
            let (expNegative, rest) := match rest with
              | '-' :: r => (true, r)
              | '+' :: r => (false, r)
              | r => (false, r)
            let (ds, rest') := readDigits rest
            let v : Int := digitsToNat ds
            (if expNegative then -v else v, rest', true, !ds.isEmpty)
          else (0, cs, false, true)
        | [] => (0, [], false, true)
      if !expOk then none
      else
        some (⟨negative, digitsToNat (intDigits ++ fracDigits), expValue - fracDigits.length,
          !hasFrac && !hasExp⟩, cs)

mutual

/-- Reads one value, at most `fuel` steps deep and `depth` containers further. -/
def readValue (fuel depth : Nat) (cs : List Char) : Option (Json × List Char) :=
  match fuel with
  | 0 => none
  | fuel + 1 =>
    match skipBlanks cs with
    | 'n' :: 'u' :: 'l' :: 'l' :: rest => some (.null, rest)
    | 't' :: 'r' :: 'u' :: 'e' :: rest => some (.bool true, rest)
    | 'f' :: 'a' :: 'l' :: 's' :: 'e' :: rest => some (.bool false, rest)
    | '"' :: rest => (readStringBody [] rest).map fun (s, r) => (.string s, r)
    | '[' :: rest =>
      if depth = 0 then none
      else
        match skipBlanks rest with
        | ']' :: rest' => some (.array [], rest')
        | _ => (readItems fuel (depth - 1) [] rest).map fun (items, r) => (.array items, r)
    | '{' :: rest =>
      if depth = 0 then none
      else
        match skipBlanks rest with
        | '}' :: rest' => some (.object [], rest')
        | _ => (readMembers fuel (depth - 1) [] rest).map fun (ms, r) => (.object ms, r)
    | cs' => (readNumber cs').map fun (n, r) => (.number n, r)

/-- Reads array items after `[` or a comma; the items so far are given in reverse. -/
def readItems (fuel depth : Nat) (acc : List Json) (cs : List Char) :
    Option (List Json × List Char) :=
  match fuel with
  | 0 => none
  | fuel + 1 =>
    match readValue fuel depth cs with
    | none => none
    | some (v, rest) =>
      match skipBlanks rest with
      | ',' :: rest' => readItems fuel depth (v :: acc) rest'
      | ']' :: rest' => some ((v :: acc).reverse, rest')
      | _ => none

/-- Reads object members after `{` or a comma; the members so far are given in reverse. -/
def readMembers (fuel depth : Nat) (acc : List (String × Json)) (cs : List Char) :
    Option (List (String × Json) × List Char) :=
  match fuel with
  | 0 => none
  | fuel + 1 =>
    match skipBlanks cs with
    | '"' :: rest =>
      match readStringBody [] rest with
      | none => none
      | some (key, rest) =>
        match skipBlanks rest with
        | ':' :: rest =>
          match readValue fuel depth rest with
          | none => none
          | some (v, rest) =>
            match skipBlanks rest with
            | ',' :: rest' => readMembers fuel depth ((key, v) :: acc) rest'
            | '}' :: rest' => some (((key, v) :: acc).reverse, rest')
            | _ => none
        | _ => none
    | _ => none

end

/-- Reads a whole JSON document, refusing anything but blanks after it. -/
def parse? (s : String) : Option Json :=
  let cs := s.toList
  match readValue (cs.length + 1) maxDepth cs with
  | some (v, rest) => if (skipBlanks rest).isEmpty then some v else none
  | none => none

end PromRules.Json
