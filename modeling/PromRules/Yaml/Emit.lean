import PromRules.Yaml.Scalar

/-!
YAML documents in block style.

A mapping writes one entry per line, `key: value`, its nested mappings two spaces further in and
its sequences at its own indentation, each item after `- `; an empty sequence or mapping is
written `[]` or `{}` in flow style. A key that is not simple (it spans lines, or is longer than
128 bytes) is written in the explicit form `? key`, with `: value` on the next line.

The scalar writers follow the style of `chooseStyle`. Single quotes double a quote inside; a
break inside single quotes is written as it is and the next line is indented. Double quotes
escape the characters YAML names (`\0 \a \b \t \n \v \f \r \e \" \\ \N \_ \L \P`) and every
other unprintable character as `\xXX`, `\uXXXX` or `\UXXXXXXXX` with uppercase digits. A
literal block `|` states an indentation of 2 when the text starts with a space or a break, and
ends with `-` when the text has no final break, with nothing when it has exactly one, and with
`+` when it has more or is a single break; its lines are indented two spaces past the mapping.
A document whose last scalar is a `+` block is closed by a `...` line.
-/

namespace PromRules.Yaml

/-- A YAML document node. -/
inductive Node where
  | scalar (text : String)
  | seq (items : List Node)
  | map (entries : List (String × Node))
deriving Inhabited

/-- A run of `n` spaces. -/
def spaces (n : Nat) : String := String.ofList (List.replicate n ' ')

/-- Written text that knows whether it ends at the start of a line, after a break, and whether
it ends with a block scalar that keeps its final breaks. -/
structure Piece where
  text : String
  atLineStart : Bool
  keepsBreaks : Bool
deriving Inhabited

/-- A piece that ends in the middle of a line. -/
def Piece.inline (text : String) : Piece := ⟨text, false, false⟩

/-- Moves to a new line indented by `n`, unless the text already ends at a line start. -/
def Piece.newLine (p : Piece) (n : Nat) : String :=
  if p.atLineStart then spaces n else "\n" ++ spaces n

/-- One uppercase hexadecimal digit. -/
def hexUpper (d : Nat) : Char :=
  if d < 10 then Char.ofNat ('0'.toNat + d) else Char.ofNat ('A'.toNat + d - 10)

/-- The last `width` uppercase hexadecimal digits of `n`. -/
def hexDigits (n width : Nat) : List Char :=
  (List.range width).reverse.map fun k => hexUpper ((n / Nat.pow 16 k) % 16)

/-- The escape of a character inside double quotes, or the character itself. -/
def doubleQuotedChar (c : Char) : List Char :=
  let n := c.toNat
  if isPrintable c && n != 0xFEFF && !isBreak c && c != '"' && c != '\\' then [c]
  else
    match n with
    | 0x00 => ['\\', '0'] | 0x07 => ['\\', 'a'] | 0x08 => ['\\', 'b'] | 0x09 => ['\\', 't']
    | 0x0A => ['\\', 'n'] | 0x0B => ['\\', 'v'] | 0x0C => ['\\', 'f'] | 0x0D => ['\\', 'r']
    | 0x1B => ['\\', 'e'] | 0x22 => ['\\', '"'] | 0x5C => ['\\', '\\'] | 0x85 => ['\\', 'N']
    | 0xA0 => ['\\', '_'] | 0x2028 => ['\\', 'L'] | 0x2029 => ['\\', 'P']
    | _ =>
      if n ≤ 0xFF then '\\' :: 'x' :: hexDigits n 2
      else if n ≤ 0xFFFF then '\\' :: 'u' :: hexDigits n 4
      else '\\' :: 'U' :: hexDigits n 8

/-- A double-quoted scalar. -/
def doubleQuoted (s : String) : String :=
  String.ofList ('"' :: s.toList.flatMap doubleQuotedChar ++ ['"'])

/-- The body of a single-quoted scalar whose lines continue at indentation `n`; `afterBreak`
says the previous character was a break. -/
def singleQuotedBody (n : Nat) (afterBreak : Bool) : List Char → String
  | [] => if afterBreak then spaces n else ""
  | c :: rest =>
    if isBreak c then
      let extra := if !afterBreak && c == '\n' then "\n" else ""
      extra ++ String.singleton c ++ singleQuotedBody n true rest
    else
      let lead := if afterBreak then spaces n else ""
      let body := if c == '\'' then "''" else String.singleton c
      lead ++ body ++ singleQuotedBody n false rest

/-- A single-quoted scalar whose continuation lines are indented by `n`. -/
def singleQuoted (n : Nat) (s : String) : String :=
  "'" ++ singleQuotedBody n false s.toList ++ "'"

/-- The header hints of a literal block: an indentation hint when the text starts with a space
or a break, then the chomping indicator. -/
def literalHints (s : String) : String :=
  let cs := s.toList
  let indentHint := match cs with
    | c :: _ => if c == ' ' || isBreak c then "2" else ""
    | [] => ""
  let chomp := match cs.reverse with
    | [] => "-"
    | [c] => if isBreak c then "+" else "-"
    | c :: d :: _ => if !isBreak c then "-" else if isBreak d then "+" else ""
  indentHint ++ chomp

/-- The lines of a literal block indented by `n`; `afterBreak` says a line has just ended. -/
def literalBody (n : Nat) (afterBreak : Bool) : List Char → String
  | [] => ""
  | c :: rest =>
    if isBreak c then String.singleton c ++ literalBody n true rest
    else (if afterBreak then spaces n else "") ++ String.singleton c ++ literalBody n false rest

/-- A scalar written after its indicator or key, with the space before it; continuation lines are
indented by `n`. -/
def scalarPiece (n : Nat) (style : Style) (s : String) : Piece :=
  match style with
  | .plain => .inline (" " ++ s)
  | .singleQuoted => .inline (" " ++ singleQuoted n s)
  | .doubleQuoted => .inline (" " ++ doubleQuoted s)
  | .literal =>
    let hints := literalHints s
    ⟨" |" ++ hints ++ "\n" ++ literalBody n true s.toList,
      match s.toList.reverse with
      | c :: _ => isBreak c
      | [] => false,
      hints.endsWith "+"⟩

/-- One sequence item, given the text of its value: the dash and the value. -/
def itemPiece (v : Piece) : Piece := ⟨"-" ++ v.text, v.atLineStart, v.keepsBreaks⟩

/-- One mapping entry, given the text of its value: a simple key and the value, or an explicit
key and the value. -/
def entryPiece (n : Nat) (key : String) (v : Piece) : Piece :=
  if isSimpleKey key then
    let k := scalarPiece (n + 2) (chooseStyle key true) key
    ⟨(k.text.drop 1).toString ++ ":" ++ v.text, v.atLineStart, v.keepsBreaks⟩
  else
    let k := scalarPiece (n + 2) (chooseStyle key false) key
    ⟨"?" ++ k.text ++ k.newLine n ++ ":" ++ v.text, v.atLineStart, v.keepsBreaks⟩

/-- Places one line's piece before the following ones, at indentation `n`. -/
def Piece.followedBy (first : Piece) (n : Nat) (tail : Piece) : Piece :=
  ⟨first.text ++ first.newLine n ++ tail.text, tail.atLineStart, tail.keepsBreaks⟩

/-- A piece after a prefix that keeps the line open. -/
def Piece.after (lead : String) (p : Piece) : Piece := ⟨lead ++ p.text, p.atLineStart, p.keepsBreaks⟩

mutual

/-- The text of a value after its key's colon or an item's dash, in a collection indented
by `n`. -/
def valuePiece (n : Nat) (inMapping : Bool) : Node → Piece
  | .scalar s => scalarPiece (n + 2) (chooseStyle s false) s
  | .seq [] => .inline " []"
  | .map [] => .inline " \x7b\x7d"
  | .seq (item :: rest) =>
    if inMapping then (seqPiece n (item :: rest)).after ("\n" ++ spaces n)
    else (seqPiece (n + 2) (item :: rest)).after " "
  | .map (entry :: rest) =>
    let body := mapPiece (n + 2) (entry :: rest)
    if inMapping then body.after ("\n" ++ spaces (n + 2)) else body.after " "

/-- The items of a sequence indented by `n`, the first starting at the current position. -/
def seqPiece (n : Nat) : List Node → Piece
  | [] => .inline ""
  | [item] => itemPiece (valuePiece n false item)
  | item :: rest => (itemPiece (valuePiece n false item)).followedBy n (seqPiece n rest)

/-- The entries of a mapping indented by `n`, the first starting at the current position. -/
def mapPiece (n : Nat) : List (String × Node) → Piece
  | [] => .inline ""
  | [(key, value)] => entryPiece n key (valuePiece n true value)
  | (key, value) :: rest =>
    (entryPiece n key (valuePiece n true value)).followedBy n (mapPiece n rest)

end

/-- The text of a document whose root is a mapping or a sequence, ending with a line break. -/
def Node.document (root : Node) : String :=
  let body : Piece := match root with
    | .map [] => .inline "\x7b\x7d"
    | .seq [] => .inline "[]"
    | .map entries => mapPiece 0 entries
    | .seq items => seqPiece 0 items
    | .scalar s => let p := scalarPiece 2 (chooseStyle s false) s; ⟨(p.text.drop 1).toString, p.atLineStart, p.keepsBreaks⟩
  body.text ++ (if body.atLineStart then "" else "\n") ++ (if body.keepsBreaks then "...\n" else "")

end PromRules.Yaml
