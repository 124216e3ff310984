import PromRules.Rule.File
import PromRules.Json.Value

/-!
Reading realized rules and rule files back from JSON.

A record is accepted in two shapes: an object, whose members are looked up by field name (the
last member of a name counts, and unknown names are ignored), or an array, whose items are the
fields in declaration order. In an array a missing trailing optional field is absent and extra
items are refused. An optional field may be `null`; a duration is a string in duration syntax;
a label map is an object of strings. A realized rule is read as an alert if it can be, and as a
recording otherwise.
-/

namespace PromRules.Rule

/-- The fields of a record, by name or by position. -/
inductive Fields where
  | named (members : List (String × Json))
  | positional (items : List Json)

namespace Fields

/-- The fields of a record with at most `count` fields, for an object or a short enough array. -/
def ofJson? (j : Json) (count : Nat) : Option Fields :=
  match j with
  | .object members => some (.named members)
  | .array items => if items.length ≤ count then some (.positional items) else none
  | _ => none

/-- The value of the field at a position with a name. -/
def get? (f : Fields) (index : Nat) (name : String) : Option Json :=
  match f with
  | .named members => Json.field? (.object members) name
  | .positional items => items[index]?

/-- A required string field. -/
def string? (f : Fields) (index : Nat) (name : String) : Option String :=
  (f.get? index name).bind Json.asString?

/-- An optional field read by `read`: an absent or `null` field is `none`. -/
def optional? {α : Type} (f : Fields) (index : Nat) (name : String) (read : Json → Option α) :
    Option (Option α) :=
  match f.get? index name with
  | none => some none
  | some .null => some none
  | some v => (read v).map some

end Fields

/-- A duration written as a string in duration syntax. -/
def readDuration (j : Json) : Option Duration := j.asString?.bind Duration.parse?

/-- A label map written as an object whose values are strings; a repeated key counts once, with
its last value. -/
def readLabelMap (j : Json) : Option LabelMap := do
  let members ← j.asObject?
  let pairs ← members.mapM fun m => do
    let v ← (j.field? m.1).bind Json.asString?
    pure (m.1, v)
  pure (LabelMap.ofPairs pairs)

/-- A realized alert. -/
def readAlert (j : Json) : Option RealizedAlert := do
  let f ← Fields.ofJson? j 6
  let alert ← f.string? 0 "alert"
  let expr ← f.string? 1 "expr"
  let holdFor ← f.optional? 2 "for" readDuration
  let fireFor ← f.optional? 3 "fire_for" readDuration
  let labels ← f.optional? 4 "labels" readLabelMap
  let annotations ← f.optional? 5 "annotations" readLabelMap
  pure ⟨alert, expr, holdFor, fireFor, labels, annotations⟩

/-- A realized recording. -/
def readRecording (j : Json) : Option RealizedRecording := do
  let f ← Fields.ofJson? j 3
  let record ← f.string? 0 "record"
  let expr ← f.string? 1 "expr"
  let labels ← f.optional? 2 "labels" readLabelMap
  pure ⟨record, expr, labels⟩

/-- A realized rule: an alert if it reads as one, else a recording. -/
def RealizedRule.ofJson? (j : Json) : Option RealizedRule :=
  match readAlert j with
  | some a => some (.alert a)
  | none => RealizedRule.recording <$> readRecording j

/-- A rule group. -/
def RuleGroup.ofJson? (j : Json) : Option RuleGroup := do
  let f ← Fields.ofJson? j 3
  let name ← f.string? 0 "name"
  let interval ← f.optional? 1 "interval" readDuration
  let rules ← (f.get? 2 "rules").bind Json.asArray?
  let rules ← rules.mapM RealizedRule.ofJson?
  pure ⟨name, interval, rules⟩

/-- A rule file. -/
def RuleFile.ofJson? (j : Json) : Option RuleFile := do
  let f ← Fields.ofJson? j 1
  let groups ← (f.get? 0 "groups").bind Json.asArray?
  let groups ← groups.mapM RuleGroup.ofJson?
  pure ⟨groups⟩

end PromRules.Rule
