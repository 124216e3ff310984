import PromRules.Rule.File
import PromRules.Rule.Name
import PromRules.Text.Literal

/-!
Rule bundles: named, ordered registries of alerting and recording rules.

A rule is registered under a name with what its producer yields, which is either an authored rule
or the reason the producer failed. Nothing is realized at registration; realizing happens when
the bundle is dumped, rule by rule in registration order, so a producer's failure shows up there.

A bundle keeps the set of names it has taken beside its rules, and a registration is a call on
the bundle that returns the rule's series or an error, leaving the bundle in its new state either
way. Registration refuses an empty name, and a name already held by a rule of either kind. An
alert's registration returns the series it fires as, `ALERTS{alertname="<name>"}`; a recording's
returns the recorded series with empty braces, `<name>{}`, once the name passes the metric-name
check. Only then is the name taken and the rule appended.
-/

namespace PromRules.Rule

open Query

/-- What a rule's producer yields: an authored rule of its kind, or why it failed. -/
inductive Producer where
  | alert (result : Except RuleError AlertRule)
  | recording (result : Except RuleError RecordingRule)

/-- A registered rule. -/
structure Entry where
  name : String
  producer : Producer

/-- Runs the producer and realizes its rule under the entry's name. -/
def Entry.realize (e : Entry) : Except RuleError RealizedRule :=
  match e.producer with
  | .alert result => do
    let rule ← result
    RealizedRule.alert <$> rule.realize e.name
  | .recording result => do
    let rule ← result
    RealizedRule.recording <$> rule.realize e.name

/-- A named, ordered collection of rules with an optional evaluation interval, and the names
taken so far, which registration consults and extends; of that set only membership is asked. -/
structure Bundle where
  name : String
  interval : Option Duration
  entries : List Entry
  taken : List String

namespace Bundle

/-- The empty bundle of a name, without an interval. -/
def create (name : String) : Bundle := ⟨name, none, [], []⟩

/-- The bundle with an evaluation interval. -/
def withInterval (b : Bundle) (interval : Duration) : Bundle := { b with interval := some interval }

/-- The number of rules. -/
def size (b : Bundle) : Nat := b.entries.length

/-- Whether the bundle has no rules. -/
def isEmpty (b : Bundle) : Bool := b.entries.isEmpty

/-- The registered names in order. -/
def names (b : Bundle) : List String := b.entries.map (·.name)

/-- A plain selector of a metric, for use inside producers. -/
def vector (_ : Bundle) (name : String) : Except RuleError Expr := liftQuery (metric name)

/-- The series a rule registered under `name` is seen as. -/
def output (name : String) : Producer → Except RuleError Expr
  | .alert _ => liftQuery (do
      let series ← metric "ALERTS"
      series.withLabels [("alertname", name)])
  | .recording _ => liftQuery (do
      checkMetricName name
      pure (.selector ⟨name, some []⟩))

/-- Registers a rule under a name exactly as given and returns the rule's series. Every check
comes before the bundle changes: then the name is taken and the rule appended. -/
def insert (name : String) (p : Producer) : EStateM RuleError Bundle Expr := do
  if name.isEmpty then throw .emptyName
  if (← get).taken.contains name then throw (.duplicateRule name)
  let series ← MonadExcept.ofExcept (output name p)
  modify fun b => { b with taken := name :: b.taken }
  modify fun b => { b with entries := b.entries ++ [⟨name, p⟩] }
  pure series

/-- Registers an alert producer under an identifier, named by `alertName`. -/
def registerAlert (identifier : String) (result : Except RuleError AlertRule) :
    EStateM RuleError Bundle Expr :=
  insert (alertName identifier) (.alert result)

/-- Registers a recording producer under an identifier, named by `recordingName`. -/
def registerRecording (identifier : String) (result : Except RuleError RecordingRule) :
    EStateM RuleError Bundle Expr :=
  insert (recordingName identifier) (.recording result)

/-- Registers an alert producer under a name exactly as given. -/
def registerAlertNamed (name : String) (result : Except RuleError AlertRule) :
    EStateM RuleError Bundle Expr :=
  insert name (.alert result)

/-- Registers a recording producer under a name exactly as given. -/
def registerRecordingNamed (name : String) (result : Except RuleError RecordingRule) :
    EStateM RuleError Bundle Expr :=
  insert name (.recording result)

/-- Registers an alert on an expression, with nothing else set. -/
def alert (e : Expr) (name : String) : EStateM RuleError Bundle Expr :=
  insert name (.alert (.ok (AlertRule.ofExpr e)))

/-- Registers a recording of an expression, with nothing else set. -/
def record (e : Expr) (name : String) : EStateM RuleError Bundle Expr :=
  insert name (.recording (.ok (RecordingRule.ofExpr e)))

/-- Runs registrations on a bundle, stopping at the first error. -/
def build {α : Type} (b : Bundle) (calls : EStateM RuleError Bundle α) :
    Except RuleError (α × Bundle) :=
  match calls.run b with
  | .ok a b' => .ok (a, b')
  | .error e _ => .error e

/-- Every rule realized, in registration order; each failure stays in its place. -/
def dump (b : Bundle) : List (Except RuleError RealizedRule) := b.entries.map Entry.realize

/-- The bundle as a rule group, or the first rule's failure. -/
def toGroup (b : Bundle) : Except RuleError RuleGroup := do
  let rules ← b.entries.mapM Entry.realize
  pure ⟨b.name, b.interval, rules⟩

/-- The debugging view: the name as a quoted literal, the interval's millisecond count if any,
and the rule names in order. -/
def debugText (b : Bundle) : String :=
  let interval := match b.interval with
    | some d => "Some(Duration \x7b millis: " ++ toString d.millis ++ " \x7d)"
    | none => "None"
  let rules := ", ".intercalate (b.names.map Text.quoteLiteral)
  "RuleBundle \x7b name: " ++ Text.quoteLiteral b.name ++ ", interval: " ++ interval ++
    ", rules: [" ++ rules ++ "] \x7d"

end Bundle

end PromRules.Rule
