import PromRules.Text.Case
import PromRules.Text.EscapeData

/-!
Quoted literals of text, as a debugging view writes them.

The text is put in double quotes. The null character, tab, carriage return and line feed are
written `\0`, `\t`, `\r` and `\n`, a backslash and a double quote get a backslash before them,
and every character of `escapedRanges` is written `\u{…}` with its code point in lowercase hex
and no leading zeros. Every other character, a single quote included, stands for itself.
-/

namespace PromRules.Text

/-- Lowercase hexadecimal digits of a number, without leading zeros. -/
def lowerHex (n : Nat) : List Char := Nat.toDigits 16 n

/-- The literal form of one character. -/
def literalChar (c : Char) : List Char :=
  if c.toNat == 0 then ['\\', '0']
  else if c == '\t' then ['\\', 't']
  else if c == '\r' then ['\\', 'r']
  else if c == '\n' then ['\\', 'n']
  else if c == '\\' then ['\\', '\\']
  else if c == '"' then ['\\', '"']
  else if inRanges escapedRanges c.toNat then
    ['\\', 'u', '\x7b'] ++ lowerHex c.toNat ++ ['\x7d']
  else [c]

/-- The quoted literal of a text. -/
def quoteLiteral (s : String) : String :=
  String.ofList ('"' :: s.toList.flatMap literalChar ++ ['"'])

end PromRules.Text
