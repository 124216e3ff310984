import PromRules.Toml.Error
import PromRules.Toml.Item

/-!
Reading the lexical parts of TOML: blanks, comments, line ends, strings and keys.

Each reader takes a cursor and gives back what it read with the cursor after it, or a failure.
A failure that is cut ends the whole read; any other lets the caller try something else, from
where it started. Strings come in four kinds: basic strings in double quotes with backslash
escapes, literal strings in single quotes, and multi-line forms of both in tripled quotes, where a
line break right after the opening quotes is dropped and line breaks stand for themselves. A key
is a run of letters, digits, `-` and `_`, or a quoted string; keys joined by dots name nested
tables.
-/

namespace PromRules.Toml

/-- A reading position: the characters left and the byte offset of the first of them. -/
structure Cursor where
  rest : List Char
  offset : Nat
deriving Inhabited

namespace Cursor

/-- The next character. -/
def peek? (c : Cursor) : Option Char := c.rest.head?

/-- The cursor past one character. -/
def next (c : Cursor) : Cursor :=
  match c.rest with
  | [] => c
  | ch :: r => ⟨r, c.offset + ch.utf8Size⟩

/-- The cursor past `n` characters. -/
def skip (c : Cursor) : Nat → Cursor
  | 0 => c
  | n + 1 => c.next.skip n

/-- Whether the text left starts with `s`. -/
def startsWith (c : Cursor) (s : String) : Bool := s.toList.isPrefixOf c.rest

/-- A plain failure here. -/
def fail (c : Cursor) : Failure := Failure.atOffset c.offset

/-- Whether no text is left. -/
def atEnd (c : Cursor) : Bool := c.rest.isEmpty

end Cursor

/-- Reads the longest run of characters satisfying `p`, from characters at a byte offset. -/
def takeWhileFrom (p : Char → Bool) : List Char → Nat → List Char × Cursor
  | [], o => ([], ⟨[], o⟩)
  | ch :: r, o =>
    if p ch then
      let (xs, rest) := takeWhileFrom p r (o + ch.utf8Size)
      (ch :: xs, rest)
    else ([], ⟨ch :: r, o⟩)

/-- Reads the longest run of characters satisfying `p`. -/
def Cursor.takeWhile (c : Cursor) (p : Char → Bool) : List Char × Cursor :=
  takeWhileFrom p c.rest c.offset

/-- Reads at most `n` characters satisfying `p`. -/
def Cursor.takeUpTo (c : Cursor) (p : Char → Bool) : Nat → List Char × Cursor
  | 0 => ([], c)
  | n + 1 =>
    match c.peek? with
    | some ch =>
      if p ch then
        let (xs, rest) := c.next.takeUpTo p n
        (ch :: xs, rest)
      else ([], c)
    | none => ([], c)

/-- Space and tab. -/
def isBlank (c : Char) : Bool := c == ' ' || c == '\t'

/-- Characters a comment may hold: tab, printable ASCII and anything beyond ASCII. -/
def isCommentChar (c : Char) : Bool :=
  c == '\t' || (0x20 ≤ c.toNat && c.toNat ≤ 0x7E) || 0x80 ≤ c.toNat

/-- Characters of a bare key. -/
def isBareKeyChar (c : Char) : Bool :=
  c.isAlphanum && c.toNat < 0x80 || c == '-' || c == '_'

/-- Characters a basic string holds as they are. -/
def isBasicChar (c : Char) : Bool :=
  isBlank c || c.toNat == 0x21 || (0x23 ≤ c.toNat && c.toNat ≤ 0x5B) ||
    (0x5D ≤ c.toNat && c.toNat ≤ 0x7E) || 0x80 ≤ c.toNat

/-- Characters a literal string holds. -/
def isLiteralChar (c : Char) : Bool :=
  c == '\t' || (0x20 ≤ c.toNat && c.toNat ≤ 0x26) || (0x28 ≤ c.toNat && c.toNat ≤ 0x7E) ||
    0x80 ≤ c.toNat

/-- Hexadecimal digits. -/
def isHexDigit (c : Char) : Bool :=
  c.isDigit || ('a' ≤ c && c ≤ 'f') || ('A' ≤ c && c ≤ 'F')

/-- Skips spaces and tabs. -/
def skipBlanks (c : Cursor) : Cursor := (c.takeWhile isBlank).2

/-- Reads a comment, from `#` to the end of its line, if one starts here. -/
def readComment? (c : Cursor) : Option Cursor :=
  if c.peek? == some '#' then some (c.next.takeWhile isCommentChar).2 else none

/-- Reads a line break: a line feed, or a carriage return and a line feed. -/
def readNewline (c : Cursor) : Except Failure Cursor :=
  match c.rest with
  | '\n' :: _ => .ok c.next
  | '\r' :: '\n' :: _ => .ok (c.skip 2)
  | '\r' :: _ => .error c.next.fail
  | _ => .error c.fail

/-- Reads a line break or the end of the text. -/
def readLineEnd (c : Cursor) : Except Failure Cursor :=
  if c.atEnd then .ok c
  else match readNewline c with
    | .ok c' => .ok c'
    | .error _ => .error c.fail

/-- Reads what may follow a value or header on its line: blanks, a comment, then the line end. -/
def readLineRest (c : Cursor) : Except Failure Cursor :=
  let c := skipBlanks c
  let c := (readComment? c).getD c
  readLineEnd c

/-- Skips blanks, line breaks and comments, as between the items of an array. -/
def skipBlankLines (c : Cursor) : Nat → Cursor
  | 0 => c
  | fuel + 1 =>
    match c.peek? with
    | some ' ' | some '\t' => skipBlankLines (skipBlanks c) fuel
    | some '#' => skipBlankLines ((readComment? c).getD c) fuel
    | some _ =>
      match readNewline c with
      | .ok c' => skipBlankLines c' fuel
      | .error _ => c
    | none => c

/-- Skips blanks, line breaks and comments. -/
def Cursor.skipTrivia (c : Cursor) : Cursor := skipBlankLines c (c.rest.length + 1)

/-- Skips blanks and line breaks, but not comments. -/
def skipBlanksAndBreaks (c : Cursor) : Nat → Cursor
  | 0 => c
  | fuel + 1 =>
    match c.peek? with
    | some ' ' | some '\t' => skipBlanksAndBreaks (skipBlanks c) fuel
    | some _ =>
      match readNewline c with
      | .ok c' => skipBlanksAndBreaks c' fuel
      | .error _ => c
    | none => c

/-- The value of hexadecimal digits. -/
def hexValue (ds : List Char) : Nat :=
  ds.foldl (fun acc d =>
    acc * 16 + (if d.isDigit then d.toNat - '0'.toNat
      else if 'a' ≤ d && d ≤ 'f' then d.toNat - 'a'.toNat + 10 else d.toNat - 'A'.toNat + 10)) 0

/-- Reads the `width` hex digits of a `\u` or `\U` escape and the character they name. -/
def readHexEscape (width : Nat) (name : String) (c : Cursor) : Except Failure (Char × Cursor) :=
  let (ds, c') := c.takeUpTo isHexDigit width
  if ds.length != width then .error ((c.fail.label name).toCut)
  else
    let n := hexValue ds
    if n < 0xD800 || (0xDFFF < n && n < 0x110000) then .ok (Char.ofNat n, c')
    else .error (((Failure.because c.offset "value is out of range").label name).toCut)

/-- The failure of an unknown escape, found after reading its letter. -/
def badEscape (c : Cursor) : Failure :=
  (((((((((((c.fail.label "escape sequence").expect (.char 'b')).expect (.char 'f')).expect
    (.char 'n')).expect (.char 'r')).expect (.char 't')).expect (.char 'u')).expect
    (.char 'U')).expect (.char '\\')).expect (.char '"'))).toCut

/-- Reads the escape after a backslash; nothing when the text ends there. -/
def readEscape (c : Cursor) : Except Failure (Option (Char × Cursor)) :=
  match c.rest with
  | [] => .ok none
  | e :: _ =>
    let c' := c.next
    match e with
    | 'b' => .ok (some ('\x08', c'))
    | 'f' => .ok (some ('\x0c', c'))
    | 'n' => .ok (some ('\n', c'))
    | 'r' => .ok (some ('\r', c'))
    | 't' => .ok (some ('\t', c'))
    | '\\' => .ok (some ('\\', c'))
    | '"' => .ok (some ('"', c'))
    | 'u' => some <$> readHexEscape 4 "unicode 4-digit hex code" c'
    | 'U' => some <$> readHexEscape 8 "unicode 8-digit hex code" c'
    | _ => .error (badEscape c')

/-- Reads the characters of a basic string up to where they stop. -/
def basicChars (acc : List Char) (c : Cursor) : Nat → Except Failure (List Char × Cursor)
  | 0 => .ok (acc, c)
  | fuel + 1 =>
    match c.peek? with
    | some ch =>
      if isBasicChar ch then
        let (xs, c') := c.takeWhile isBasicChar
        basicChars (acc ++ xs) c' fuel
      else if ch == '\\' then do
        match ← readEscape c.next with
        | some (e, c') => basicChars (acc ++ [e]) c' fuel
        | none => .ok (acc, c)
      else .ok (acc, c)
    | none => .ok (acc, c)

/-- Reads a basic string, starting at its opening quote. -/
def readBasicString (c : Cursor) : Except Failure (String × Cursor) := do
  let (cs, c') ← basicChars [] c.next (c.rest.length + 1)
  if c'.peek? == some '"' then .ok (String.ofList cs, c'.next)
  else .error ((c'.fail.label "basic string").toCut)

/-- Reads a literal string, starting at its opening quote. -/
def readLiteralString (c : Cursor) : Except Failure (String × Cursor) :=
  let (cs, c') := c.next.takeWhile isLiteralChar
  if c'.peek? == some '\'' then .ok (String.ofList cs, c'.next)
  else .error ((c'.fail.label "literal string").toCut)

/-- Reads a backslash at a line's end with the blanks and line breaks after it. -/
def readEscapedBreak? (c : Cursor) : Option Cursor :=
  if c.peek? != some '\\' then none
  else
    match readNewline (skipBlanks c.next) with
    | .ok c' => some (skipBlanksAndBreaks c' (c'.rest.length + 1))
    | .error _ => none

/-- Reads one piece of a multi-line basic string: plain characters, an escaped line break, an
escape or a line break; nothing when none starts here. -/
def mlBasicContent (c : Cursor) : Except Failure (Option (List Char × Cursor)) :=
  match c.peek? with
  | none => .ok none
  | some ch =>
    if isBasicChar ch then .ok (some (c.takeWhile isBasicChar))
    else if ch == '\\' then
      match readEscapedBreak? c with
      | some c' => .ok (some ([], c'))
      | none => do
        match ← readEscape c.next with
        | some (e, c') => .ok (some ([e], c'))
        | none => .ok none
    else
      match readNewline c with
      | .ok c' => .ok (some (['\n'], c'))
      | .error _ => .ok none

/-- Reads pieces of a multi-line basic string while they come. -/
def mlBasicContents (acc : List Char) (c : Cursor) : Nat → Except Failure (List Char × Cursor)
  | 0 => .ok (acc, c)
  | fuel + 1 => do
    match ← mlBasicContent c with
    | some (xs, c') => mlBasicContents (acc ++ xs) c' fuel
    | none => .ok (acc, c)

/-- Reads one or two quote characters that are followed by what `after` accepts. -/
def readQuotes? (q : Char) (after : Cursor → Bool) (c : Cursor) : Option (List Char × Cursor) :=
  if c.startsWith (String.ofList [q, q]) && after (c.skip 2) then some ([q, q], c.skip 2)
  else if c.peek? == some q && after c.next then some ([q], c.next)
  else none

/-- Reads quotes and the pieces after them inside a multi-line basic string. -/
def mlBasicQuoted (acc : List Char) (c : Cursor) : Nat → Except Failure (List Char × Cursor)
  | 0 => .ok (acc, c)
  | fuel + 1 =>
    match readQuotes? '"' (fun c => c.peek?.isSome && c.peek? != some '"') c with
    | none => .ok (acc, c)
    | some (qs, c1) => do
      match ← mlBasicContent c1 with
      | none => .ok (acc, c1)
      | some (xs, c2) =>
        let (more, c3) ← mlBasicContents [] c2 (c2.rest.length + 1)
        mlBasicQuoted (acc ++ qs ++ xs ++ more) c3 fuel

/-- Reads a multi-line basic string, starting at its opening quotes. -/
def readMlBasicString (c : Cursor) : Except Failure (String × Cursor) :=
  let body : Except Failure (String × Cursor) := do
    let c1 := c.skip 3
    let c1 := match readNewline c1 with
      | .ok c' => c'
      | .error _ => c1
    let (cs, c2) ← mlBasicContents [] c1 (c1.rest.length + 1)
    let (cs, c3) ← mlBasicQuoted cs c2 (c2.rest.length + 1)
    let (cs, c4) := match readQuotes? '"' (fun c => c.startsWith "\"\"\"") c3 with
      | some (qs, c') => (cs ++ qs, c')
      | none => (cs, c3)
    if c4.startsWith "\"\"\"" then .ok (String.ofList cs, c4.skip 3)
    else .error c4.fail.toCut
  body.mapError (·.label "multiline basic string")

/-- Reads one character or line break of a multi-line literal string. -/
def mlLiteralContent? (c : Cursor) : Option (Char × Cursor) :=
  match c.peek? with
  | some ch =>
    if isLiteralChar ch then some (ch, c.next)
    else match readNewline c with
      | .ok c' => some ('\n', c')
      | .error _ => none
  | none => none

/-- Reads characters of a multi-line literal string while they come. -/
def mlLiteralContents (acc : List Char) (c : Cursor) : Nat → List Char × Cursor
  | 0 => (acc, c)
  | fuel + 1 =>
    match mlLiteralContent? c with
    | some (ch, c') => mlLiteralContents (acc ++ [ch]) c' fuel
    | none => (acc, c)

/-- Reads quotes followed by at least one character, again and again, in a multi-line literal
string; a quote run not followed by a character is left unread. -/
def mlLiteralQuoted (acc : List Char) (c : Cursor) : Nat → List Char × Cursor
  | 0 => (acc, c)
  | fuel + 1 =>
    match readQuotes? '\'' (fun c => c.peek?.isSome && c.peek? != some '\'') c with
    | none => (acc, c)
    | some (qs, c1) =>
      match mlLiteralContent? c1 with
      | none => (acc, c)
      | some (ch, c2) =>
        let (more, c3) := mlLiteralContents [] c2 (c2.rest.length + 1)
        mlLiteralQuoted (acc ++ qs ++ [ch] ++ more) c3 fuel

/-- Reads a multi-line literal string, starting at its opening quotes. -/
def readMlLiteralString (c : Cursor) : Except Failure (String × Cursor) :=
  let c1 := c.skip 3
  let c1 := match readNewline c1 with
    | .ok c' => c'
    | .error _ => c1
  let (cs, c2) := mlLiteralContents [] c1 (c1.rest.length + 1)
  let (cs, c3) := mlLiteralQuoted cs c2 (c2.rest.length + 1)
  let (cs, c4) := match readQuotes? '\'' (fun c => c.startsWith "'''") c3 with
    | some (qs, c') => (cs ++ qs, c')
    | none => (cs, c3)
  if c4.startsWith "'''" then .ok (String.ofList cs, c4.skip 3)
  else .error ((c4.fail.toCut).label "multiline literal string")

/-- Reads a string of any kind, starting at its first quote. -/
def readString (c : Cursor) : Except Failure (String × Cursor) :=
  if c.startsWith "\"\"\"" then readMlBasicString c
  else if c.peek? == some '"' then readBasicString c
  else if c.startsWith "'''" then readMlLiteralString c
  else readLiteralString c

/-- Reads one key: a quoted string or a bare key. -/
def readSimpleKey (c : Cursor) : Except Failure (Key × Cursor) :=
  match c.peek? with
  | some '"' => do
    let (s, c') ← readBasicString c
    pure (⟨s, ⟨c.offset, c'.offset⟩⟩, c')
  | some '\'' => do
    let (s, c') ← readLiteralString c
    pure (⟨s, ⟨c.offset, c'.offset⟩⟩, c')
  | _ =>
    let (cs, c') := c.takeWhile isBareKeyChar
    if cs.isEmpty then .error c.fail
    else .ok (⟨String.ofList cs, ⟨c.offset, c'.offset⟩⟩, c')

/-- Reads one key with the blanks around it. -/
def readKeyPart (c : Cursor) : Except Failure (Key × Cursor) := do
  let (k, c') ← readSimpleKey (skipBlanks c)
  pure (k, skipBlanks c')

/-- Reads further dotted parts of a key; a part that does not read leaves the dot unread. -/
def readDottedParts (acc : List Key) (c : Cursor) : Nat → Except Failure (List Key × Cursor)
  | 0 => .ok (acc, c)
  | fuel + 1 =>
    if c.peek? != some '.' then .ok (acc, c)
    else
      match readKeyPart c.next with
      | .ok (k, c') => readDottedParts (acc ++ [k]) c' fuel
      | .error f => if f.cut then .error f else .ok (acc, c)

/-- Reads a key: one or more parts joined by dots. -/
def readKey (c : Cursor) : Except Failure (List Key × Cursor) :=
  let body : Except Failure (List Key × Cursor) := do
    let (k, c1) ← readKeyPart c
    readDottedParts [k] c1 (c1.rest.length + 1)
  body.mapError (·.label "key")

end PromRules.Toml
