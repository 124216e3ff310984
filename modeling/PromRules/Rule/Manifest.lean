import PromRules.Rule.Bundle

/-!
Manifests: bundles realized into one rule file and written in a chosen format.

Each bundle becomes one group, in the order given; a bundle without its own interval takes the
default interval, if there is one. The first failing rule of any bundle is the whole result.
The format is named case-insensitively: `yaml` or `yml` for YAML, `json` for JSON.
-/

namespace PromRules.Rule

/-- The formats a manifest is written in. -/
inductive OutputFormat where
  | yaml
  | json
deriving DecidableEq, Repr, Inhabited

namespace OutputFormat

/-- The format's name. -/
def name : OutputFormat → String
  | .yaml => "yaml"
  | .json => "json"

/-- Reads a format name after lowering its case; the message of a refusal shows the lowered
text. -/
def parse (s : String) : Except String OutputFormat :=
  let lowered := Text.lowerText s
  if lowered == "yaml" || lowered == "yml" then .ok .yaml
  else if lowered == "json" then .ok .json
  else .error s!"unknown output format '{lowered}' (expected yaml or json)"

end OutputFormat

/-- Realizes bundles into a rule file, giving the default interval to groups without one. -/
def buildRuleFile (bundles : List Bundle) (defaultInterval : Option Duration) :
    Except RuleError RuleFile := do
  let groups ← bundles.mapM fun b => do
    let g ← b.toGroup
    pure { g with interval := g.interval.or defaultInterval }
  pure ⟨groups⟩

/-- The text of a rule file in a format. -/
def RuleFile.write (f : RuleFile) : OutputFormat → String
  | .yaml => f.toYaml
  | .json => f.toJsonText

/-- Realizes bundles and writes them in a format. -/
def renderManifest (bundles : List Bundle) (defaultInterval : Option Duration)
    (format : OutputFormat) : Except RuleError String :=
  (fun f => f.write format) <$> buildRuleFile bundles defaultInterval

theorem parse_name (f : OutputFormat) : OutputFormat.parse f.name = .ok f := by
  cases f <;> rfl

end PromRules.Rule
