import PromRules.Rule.Realized
import PromRules.Yaml.Emit
import PromRules.Json.Write

/-!
Rule files: groups of realized rules, written as YAML or as JSON.

A rule file is a list of groups, each with a name, an optional evaluation interval and its rules.
Both formats write the same tree of strings, in which fields come in a fixed order: a group's
`name`, `interval` and `rules`; an alert's `alert`, `expr`, `for`, `fire_for`, `labels` and
`annotations`; a recording's `record`, `expr` and `labels`. An absent optional field is left out,
durations are written in their canonical text, and label maps list their keys in order.
-/

namespace PromRules.Rule

open Yaml

mutual

/-- The JSON form of a tree of strings. -/
def nodeJson : Node → Json
  | .scalar s => .string s
  | .seq items => .array (itemsJson items)
  | .map entries => .object (entriesJson entries)

/-- The JSON forms of sequence items. -/
def itemsJson : List Node → List Json
  | [] => []
  | item :: rest => nodeJson item :: itemsJson rest

/-- The JSON forms of mapping entries. -/
def entriesJson : List (String × Node) → List (String × Json)
  | [] => []
  | (key, value) :: rest => (key, nodeJson value) :: entriesJson rest

end

/-- A label map as a mapping of scalars. -/
def LabelMap.toNode (m : LabelMap) : Node := .map (m.entries.map fun e => (e.1, .scalar e.2))

/-- An optional duration field, left out when absent. -/
def durationField (key : String) : Option Duration → List (String × Node)
  | some d => [(key, .scalar d.render)]
  | none => []

/-- An optional label map field, left out when absent. -/
def labelsField (key : String) : Option LabelMap → List (String × Node)
  | some m => [(key, m.toNode)]
  | none => []

/-- The tree of a realized alert. -/
def RealizedAlert.toNode (a : RealizedAlert) : Node :=
  .map ([("alert", .scalar a.alert), ("expr", .scalar a.expr)] ++ durationField "for" a.holdFor ++
    durationField "fire_for" a.fireFor ++ labelsField "labels" a.labels ++
    labelsField "annotations" a.annotations)

/-- The tree of a realized recording. -/
def RealizedRecording.toNode (r : RealizedRecording) : Node :=
  .map ([("record", .scalar r.record), ("expr", .scalar r.expr)] ++ labelsField "labels" r.labels)

/-- The tree of a realized rule. -/
def RealizedRule.toNode : RealizedRule → Node
  | .alert a => a.toNode
  | .recording r => r.toNode

/-- The JSON form of a realized rule. -/
def RealizedRule.toJson (rule : RealizedRule) : Json := nodeJson rule.toNode

/-- One bundle's rules, evaluated together at the group's interval. -/
structure RuleGroup where
  name : String
  interval : Option Duration
  rules : List RealizedRule
deriving DecidableEq

/-- The tree of a rule group. -/
def RuleGroup.toNode (g : RuleGroup) : Node :=
  .map ([("name", .scalar g.name)] ++ durationField "interval" g.interval ++
    [("rules", .seq (g.rules.map RealizedRule.toNode))])

/-- The JSON form of a rule group. -/
def RuleGroup.toJson (g : RuleGroup) : Json := nodeJson g.toNode

/-- A complete rule file. -/
structure RuleFile where
  groups : List RuleGroup
deriving DecidableEq

namespace RuleFile

/-- The tree of a rule file. -/
def toNode (f : RuleFile) : Node := .map [("groups", .seq (f.groups.map RuleGroup.toNode))]

/-- The number of rules over all groups. -/
def ruleCount (f : RuleFile) : Nat := f.groups.foldl (fun n g => n + g.rules.length) 0

/-- The YAML text of the file. -/
def toYaml (f : RuleFile) : String := f.toNode.document

/-- The indented JSON text of the file. -/
def toJsonText (f : RuleFile) : String := Json.pretty 0 (nodeJson f.toNode)

end RuleFile

end PromRules.Rule
