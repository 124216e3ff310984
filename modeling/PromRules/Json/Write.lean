import PromRules.Json.Value

/-!
Writing JSON text.

A string is written in double quotes; a quote and a backslash are escaped with a backslash, the
control characters backspace, tab, line feed, form feed and carriage return by their letter
escapes, and every other control character below U+0020 as `\u00XX` with lowercase hex digits.
All other characters, non-ASCII ones included, are written as they are.

The compact form has no blanks. The pretty form puts each array item and object member on a
line of its own, indented by two spaces per level, with `": "` after a key; an empty array or
object is `[]` or `{}`. Members come in the order they are given.
-/

namespace PromRules.Json

/-- A lowercase hexadecimal digit. -/
def hexDigit (n : Nat) : Char :=
  if n < 10 then Char.ofNat ('0'.toNat + n) else Char.ofNat ('a'.toNat + n - 10)

/-- The escaped form of one character in a string. -/
def escapeChar (c : Char) : List Char :=
  if c == '"' then ['\\', '"']
  else if c == '\\' then ['\\', '\\']
  else if c == '\n' then ['\\', 'n']
  else if c == '\r' then ['\\', 'r']
  else if c == '\t' then ['\\', 't']
  else if c.toNat == 8 then ['\\', 'b']
  else if c.toNat == 12 then ['\\', 'f']
  else if c.toNat < 0x20 then ['\\', 'u', '0', '0', hexDigit (c.toNat / 16), hexDigit (c.toNat % 16)]
  else [c]

/-- A string in double quotes with its characters escaped. -/
def quoteString (s : String) : String :=
  String.ofList ('"' :: s.toList.flatMap escapeChar ++ ['"'])

/-- The text of a number as written. -/
def numberText (n : JsonNumber) : String :=
  let sign := if n.negative then "-" else ""
  if n.exponent == 0 then sign ++ toString n.mantissa
  else sign ++ toString n.mantissa ++ "e" ++ toString n.exponent

mutual

/-- The compact text of a document. -/
def compact : Json → String
  | .null => "null"
  | .bool b => if b then "true" else "false"
  | .number n => numberText n
  | .string s => quoteString s
  | .array items => "[" ++ compactItems items ++ "]"
  | .object members => "\x7b" ++ compactMembers members ++ "\x7d"

/-- Compact array items, separated by commas. -/
def compactItems : List Json → String
  | [] => ""
  | [v] => compact v
  | v :: rest => compact v ++ "," ++ compactItems rest

/-- Compact object members, separated by commas. -/
def compactMembers : List (String × Json) → String
  | [] => ""
  | [(k, v)] => quoteString k ++ ":" ++ compact v
  | (k, v) :: rest => quoteString k ++ ":" ++ compact v ++ "," ++ compactMembers rest

end

/-- The indentation of a level. -/
def indent (level : Nat) : String := String.ofList (List.replicate (2 * level) ' ')

mutual

/-- The pretty text of a document whose first line is already indented to `level`. -/
def pretty (level : Nat) : Json → String
  | .array [] => "[]"
  | .array items => "[\n" ++ prettyItems (level + 1) items ++ "\n" ++ indent level ++ "]"
  | .object [] => "\x7b\x7d"
  | .object members =>
    "\x7b\n" ++ prettyMembers (level + 1) members ++ "\n" ++ indent level ++ "\x7d"
  | v => compact v

/-- Pretty array items at a level, one per line. -/
def prettyItems (level : Nat) : List Json → String
  | [] => ""
  | [v] => indent level ++ pretty level v
  | v :: rest => indent level ++ pretty level v ++ ",\n" ++ prettyItems level rest

/-- Pretty object members at a level, one per line. -/
def prettyMembers (level : Nat) : List (String × Json) → String
  | [] => ""
  | [(k, v)] => indent level ++ quoteString k ++ ": " ++ pretty level v
  | (k, v) :: rest =>
    indent level ++ quoteString k ++ ": " ++ pretty level v ++ ",\n" ++ prettyMembers level rest

end

end PromRules.Json
