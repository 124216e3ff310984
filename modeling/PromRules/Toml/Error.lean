import PromRules.Text.Literal

/-!
Errors of TOML documents and how they are shown.

A syntax error knows the byte offset where reading stopped, the names of the constructs it was
inside (innermost first), what was expected there, and an optional cause. Its message names the
innermost construct (`invalid string`), then the expectations (`expected newline, ...`), then the
cause, one per line. An error may be cut: it then ends all alternatives around it instead of
letting the next one be tried.

A document error is shown with its position: the line and column (counted in characters, or in
bytes when the offset falls inside a character), the line itself with a gutter of its number, and
carets under the span, at least one and at most to the end of the line, then the message.
-/

namespace PromRules.Toml

/-- Something a reader expected to see. -/
inductive Expectation where
  | char (c : Char)
  | literal (s : String)
  | describe (s : String)
deriving DecidableEq, Repr

/-- How an expectation is named in a message. -/
def Expectation.text : Expectation → String
  | .char c =>
    if c == '\n' then "newline"
    else if c.toNat == 96 then "'" ++ String.singleton c ++ "'"
    else if c.toNat < 32 || c.toNat == 127 then "`" ++ String.ofList (Text.literalChar c) ++ "`"
    else "`" ++ String.singleton c ++ "`"
  | .literal s => "`" ++ s ++ "`"
  | .describe s => s

/-- A failed read. -/
structure Failure where
  offset : Nat
  labels : List String
  expected : List Expectation
  cause : Option String
  cut : Bool
deriving Repr

namespace Failure

/-- A plain failure at an offset, which lets alternatives be tried. -/
def atOffset (offset : Nat) : Failure := ⟨offset, [], [], none, false⟩

/-- A failure with a cause. -/
def because (offset : Nat) (cause : String) : Failure := ⟨offset, [], [], some cause, false⟩

/-- The failure with a construct name added. -/
def label (f : Failure) (name : String) : Failure := { f with labels := f.labels ++ [name] }

/-- The failure with an expectation added. -/
def expect (f : Failure) (e : Expectation) : Failure := { f with expected := f.expected ++ [e] }

/-- The failure made final. -/
def toCut (f : Failure) : Failure := { f with cut := true }

/-- The message: the innermost construct, the expectations and the cause, a line each. -/
def message (f : Failure) : String :=
  let parts :=
    (match f.labels.head? with
      | some l => ["invalid " ++ l]
      | none => []) ++
    (if f.expected.isEmpty then [] else ["expected " ++ ", ".intercalate (f.expected.map (·.text))]) ++
    (match f.cause with
      | some c => [c]
      | none => [])
  "\n".intercalate parts

end Failure

/-- A document error: its message and the byte span it points at. -/
structure TomlError where
  message : String
  start : Nat
  stop : Nat
deriving Repr

/-- A run of `n` spaces. -/
def pad (n : Nat) : String := String.ofList (List.replicate n ' ')

/-- The zero-based line and column of a byte offset in a text: the column counts the characters
up to and including the one at the offset, less one, or counts bytes when that prefix does not end
on a character boundary; an offset past the end counts on from the last byte. -/
def position (bytes : List UInt8) (index : Nat) : Nat × Nat :=
  if bytes.isEmpty then (0, index)
  else
    let safe := min index (bytes.length - 1)
    let beyond := index - safe
    let before := bytes.take safe
    let lineStart := match (before.reverse.findIdx? (· == 10)) with
      | some k => safe - k
      | none => 0
    let line := (bytes.take lineStart).count 10
    let piece := (bytes.drop lineStart).take (safe + 1 - lineStart)
    let column := match String.fromUTF8? (ByteArray.mk piece.toArray) with
      | some s => s.length - 1
      | none => safe - lineStart
    (line, column + beyond)

/-- The error shown against its document. -/
def TomlError.render (e : TomlError) (source : String) : String :=
  let bytes := source.toUTF8.toList
  let (line, column) := position bytes e.start
  let lineNum := line + 1
  let gutter := (toString lineNum).length
  let content := ((source.splitOn "\n")[line]?).getD ""
  let highlight := min (e.stop - e.start) (content.utf8ByteSize - column)
  "TOML parse error at line " ++ toString lineNum ++ ", column " ++ toString (column + 1) ++ "\n" ++
    pad (gutter + 1) ++ "|\n" ++
    toString lineNum ++ " | " ++ content ++ "\n" ++
    pad (gutter + 1) ++ "|" ++ pad (column + 1) ++ "^" ++
    String.ofList (List.replicate (highlight - 1) '^') ++ "\n" ++
    e.message ++ "\n"

end PromRules.Toml
