import PromRules.Config.Basic
import PromRules.Toml.Document
import PromRules.Number.Positional

/-!
Reading settings from a TOML document.

The root table may hold an `output` table (keys `format`, `path`, `default_interval`) and a
`logging` table (keys `level`, `format`); every key may be missing and takes its default, and
unknown keys are ignored. A settings table may also be given as an array whose items are its
fields in that order. The format is `yaml` or `json` exactly; the interval is a string in duration
syntax; the others are strings.

A value of the wrong type is refused with a message naming what was found (`integer `60``,
`string "x"`, `map`, `sequence`) and what was expected, and the error points at the value; an
error found inside a value of an array points at the array.
-/

namespace PromRules.Config

open Toml Rule

/-- A decoding failure: its message and, once known, the span it points at. -/
abbrev Decoding (α : Type) := Except (String × Option Span) α

/-- Points a failure without a span at `span`. -/
def within {α : Type} (span : Option Span) (r : Decoding α) : Decoding α :=
  r.mapError fun e => (e.1, e.2.or span)

/-- The text of a float in a message: the shortest digits, positional, with `.0` added to a whole
number; `NaN`, `inf` and `-inf` otherwise. -/
def floatText (x : Binary64) : String :=
  match x.classify with
  | .nan => "NaN"
  | .infinite => if x.isNegative then "-inf" else "inf"
  | .finite m e =>
    let digits := Number.shortestText m e
    (if x.isNegative then "-" else "") ++ digits ++ (if digits.contains '.' then "" else ".0")

/-- How a found item is named in a type error. -/
def unexpected : Item → String
  | .string s _ => "string " ++ Text.quoteLiteral s
  | .integer n _ => "integer `" ++ toString n ++ "`"
  | .float x _ => "floating point `" ++ floatText x ++ "`"
  | .boolean b _ => "boolean `" ++ (if b then "true" else "false") ++ "`"
  | .datetime .. | .table .. => "map"
  | .array .. | .tableArray .. => "sequence"

/-- The failure of an item of the wrong type, pointing at the item. -/
def wrongType {α : Type} (item : Item) (expected : String) : Decoding α :=
  .error ("invalid type: " ++ unexpected item ++ ", expected " ++ expected, item.span?)

/-- A string. -/
def decodeText (item : Item) : Decoding String :=
  match item with
  | .string s _ => .ok s
  | _ => wrongType item "a string"

/-- A file path, given as a string. -/
def decodePath (item : Item) : Decoding String :=
  match item with
  | .string s _ => .ok s
  | _ => wrongType item "path string"

/-- A duration, given as a string in duration syntax. -/
def decodeDuration (item : Item) : Decoding Duration := do
  let s ← decodeText item
  match Duration.parse? s with
  | some d => pure d
  | none => .error ("Invalid duration: " ++ s, none)

/-- The format named `name`, or a failure at `span`. -/
def formatNamed (name : String) (span : Option Span) : Decoding OutputFormat :=
  if name == "yaml" then .ok .yaml
  else if name == "json" then .ok .json
  else .error ("unknown variant `" ++ name ++ "`, expected `yaml` or `json`", span)

/-- Checks that the value of a format given as a one-entry table is empty. -/
def checkUnitValue (item : Item) : Decoding Unit :=
  match item with
  | .array [] _ | .tableArray [] _ | .table [] _ _ => .ok ()
  | .array _ sp => .error ("expected empty array", some sp)
  | .tableArray _ sp => .error ("expected empty array", sp)
  | .table _ _ sp => .error ("expected empty table", sp)
  | other => .error ("expected table, found " ++ other.typeName, other.span?)

/-- An output format: a string naming it, or a table whose one key names it. -/
def decodeFormat (item : Item) : Decoding OutputFormat :=
  match item with
  | .string s sp => formatNamed s (some sp)
  | .table entries form sp =>
    if form == .inline || form == .inlineDotted then
      match entries with
      | [] => .error ("wanted exactly 1 element, found 0 elements", sp)
      | [(k, v)] => do
        let f ← formatNamed k.name (some k.span)
        checkUnitValue v
        pure f
      | _ => .error ("wanted exactly 1 element, more than 1 element", sp)
    else
      match entries with
      | [] => .error ("expected table with exactly 1 entry, found empty table", sp)
      | (k, v) :: _ => do
        let f ← formatNamed k.name (some k.span)
        checkUnitValue v
        pure f
  | other => .error ("wanted string or table", other.span?)

/-- Where an entry of a table points: its value, or its key when the value has no span. -/
def entrySpan (e : Key × Item) : Option Span := e.2.span?.or (some e.1.span)

/-- The items of a settings table given as an array, or its entries, or a type error. -/
def fieldsOf (item : Item) (expected : String) :
    Decoding (Sum (List (Key × Item)) (List Item)) :=
  match item with
  | .table entries _ _ => .ok (.inl entries)
  | .array items _ => .ok (.inr items)
  | .tableArray tables _ => .ok (.inr tables)
  | other => wrongType other expected

/-- Output settings. -/
def decodeOutput (item : Item) : Decoding OutputSettings := do
  match ← fieldsOf item "struct OutputConfig" with
  | .inl entries =>
    entries.foldlM (fun acc e =>
      match e.1.name with
      | "format" => do pure { acc with format := ← within (entrySpan e) (decodeFormat e.2) }
      | "path" => do pure { acc with path := some (← within (entrySpan e) (decodePath e.2)) }
      | "default_interval" => do pure { acc with defaultInterval := some (← within (entrySpan e) (decodeDuration e.2)) }
      | _ => pure acc) OutputSettings.default
  | .inr items => do
    let format ← match items[0]? with
      | some v => decodeFormat v
      | none => pure .yaml
    let path ← match items[1]? with
      | some v => some <$> decodePath v
      | none => pure none
    let interval ← match items[2]? with
      | some v => some <$> decodeDuration v
      | none => pure none
    pure ⟨format, path, interval⟩

/-- Logging settings. -/
def decodeLogging (item : Item) : Decoding LoggingSettings := do
  match ← fieldsOf item "struct LoggingConfig" with
  | .inl entries =>
    entries.foldlM (fun acc e =>
      match e.1.name with
      | "level" => do pure { acc with level := ← within (entrySpan e) (decodeText e.2) }
      | "format" => do pure { acc with format := ← within (entrySpan e) (decodeText e.2) }
      | _ => pure acc) LoggingSettings.default
  | .inr items => do
    let level ← match items[0]? with
      | some v => decodeText v
      | none => pure "info"
    let format ← match items[1]? with
      | some v => decodeText v
      | none => pure "pretty"
    pure ⟨level, format⟩

/-- Settings from the root table of a document. -/
def decodeSettings (root : Entries) : Decoding Settings :=
  root.foldlM (fun acc e =>
    match e.1.name with
    | "output" => do pure { acc with output := ← within (entrySpan e) (decodeOutput e.2) }
    | "logging" => do pure { acc with logging := ← within (entrySpan e) (decodeLogging e.2) }
    | _ => pure acc) Settings.default

/-- Reads settings from the text of a TOML document. -/
def Settings.ofToml (source : String) : Except TomlError Settings :=
  match readDocument source with
  | .error f => .error (f.toError source)
  | .ok root =>
    match decodeSettings root with
    | .ok s => .ok s
    | .error (msg, some sp) => .error ⟨msg, sp.start, sp.stop⟩
    | .error (msg, none) => .error ⟨msg, 0, 0⟩

end PromRules.Config
