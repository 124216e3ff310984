import PromRules.Number.Binary64

/-!
The items of a TOML document.

Every value remembers the byte span it was written at, so that an error about it can point there.
Tables come in several forms that the rules on redefinition tell apart: a table with its own
`[header]`, a table created only as the parent of a header, a table created by a dotted key, and
inline tables `{ ... }`, written or created by a dotted key inside one. An array of tables holds
the tables of its `[[header]]`s.
-/

namespace PromRules.Toml

/-- A byte range `[start, stop)` of the document. -/
structure Span where
  start : Nat
  stop : Nat
deriving DecidableEq, Repr, Inhabited

/-- A key as written: its text and span. -/
structure Key where
  name : String
  span : Span
deriving DecidableEq, Repr, Inhabited

/-- How a table came to be. -/
inductive TableForm where
  /-- A table with its own `[header]`. -/
  | written
  /-- A table created as the parent of a header. -/
  | implicit
  /-- A table created by a dotted key. -/
  | dotted
  /-- A written inline table. -/
  | inline
  /-- An inline table created by a dotted key inside an inline table. -/
  | inlineDotted
deriving DecidableEq, Repr

/-- A value or table of a document. -/
inductive Item where
  | string (s : String) (span : Span)
  | integer (n : Int) (span : Span)
  | float (x : Binary64) (span : Span)
  | boolean (b : Bool) (span : Span)
  | datetime (text : String) (span : Span)
  | array (items : List Item) (span : Span)
  | table (entries : List (Key × Item)) (form : TableForm) (span : Option Span)
  | tableArray (tables : List Item) (span : Option Span)
deriving Inhabited

namespace Item

/-- Where the item was written, if it was. -/
def span? : Item → Option Span
  | .string _ s | .integer _ s | .float _ s | .boolean _ s | .datetime _ s | .array _ s => some s
  | .table _ _ s | .tableArray _ s => s

/-- Whether the item is a value, an inline table included, rather than a table of the document. -/
def isValue : Item → Bool
  | .table _ .written _ | .table _ .implicit _ | .table _ .dotted _ | .tableArray _ _ => false
  | _ => true

/-- The name of the item's type in messages. -/
def typeName : Item → String
  | .string .. => "string"
  | .integer .. => "integer"
  | .float .. => "float"
  | .boolean .. => "boolean"
  | .datetime .. => "datetime"
  | .array .. => "array"
  | .table _ .inline _ | .table _ .inlineDotted _ => "inline table"
  | .table .. => "table"
  | .tableArray .. => "array of tables"

end Item

end PromRules.Toml
