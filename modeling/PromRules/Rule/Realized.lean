import PromRules.Query.Build
import PromRules.Query.Print
import PromRules.Duration.Text
import PromRules.Rule.Error
import PromRules.Rule.Labels

/-!
Rules as authored and rules as written into a rule file.

An authored rule holds an expression tree; its realized form holds the expression's formatted
query text and the rule's name. Realizing checks two things, in this order: the expression must
not yield a range vector, and every label name (annotation names are free) must be a valid label
name. Optional parts the author did not give stay absent.
-/

namespace PromRules.Rule

open Query

/-- An alerting rule as authored. `holdFor` is how long the condition must hold before the alert
fires; `fireFor` how long it keeps firing once the condition clears. -/
structure AlertRule where
  expr : Expr
  holdFor : Option Duration
  fireFor : Option Duration
  labels : Option LabelMap
  annotations : Option LabelMap

/-- A recording rule as authored. -/
structure RecordingRule where
  expr : Expr
  labels : Option LabelMap

/-- A rule as authored, of either kind. -/
inductive Definition where
  | alert (rule : AlertRule)
  | recording (rule : RecordingRule)

/-- The alert on an expression, with nothing else set. -/
def AlertRule.ofExpr (e : Expr) : AlertRule := ⟨e, none, none, none, none⟩

/-- The recording of an expression, with nothing else set. -/
def RecordingRule.ofExpr (e : Expr) : RecordingRule := ⟨e, none⟩

/-- Adds a label to a label map that may be absent, creating it if needed. -/
def addLabel (m : Option LabelMap) (key value : String) : Option LabelMap :=
  some ((m.getD .empty).insert key value)

/-- An alerting rule ready for a rule file. -/
structure RealizedAlert where
  alert : String
  expr : String
  holdFor : Option Duration
  fireFor : Option Duration
  labels : Option LabelMap
  annotations : Option LabelMap
deriving DecidableEq

/-- A recording rule ready for a rule file. -/
structure RealizedRecording where
  record : String
  expr : String
  labels : Option LabelMap
deriving DecidableEq

/-- A realized rule of either kind. -/
inductive RealizedRule where
  | alert (rule : RealizedAlert)
  | recording (rule : RealizedRecording)
deriving DecidableEq

namespace RealizedRule

/-- The alert or record name. -/
def name : RealizedRule → String
  | .alert a => a.alert
  | .recording r => r.record

/-- The query text. -/
def expr : RealizedRule → String
  | .alert a => a.expr
  | .recording r => r.expr

/-- Whether the rule is an alert. -/
def isAlert : RealizedRule → Bool
  | .alert _ => true
  | .recording _ => false

end RealizedRule

/-- The query text of a rule's expression, refused when it yields a range vector. -/
def realizeExpr (rule : String) (e : Expr) : Except RuleError String :=
  if e.kind = .range then
    .error (.invalidExpression rule
      s!"{e.variantName} evaluates to a range vector; wrap it in a function such as rate()")
  else .ok e.format

/-- Checks the label names of a map that may be absent, in key order. -/
def checkLabelNames (labels : Option LabelMap) : Except RuleError Unit :=
  match labels with
  | none => .ok ()
  | some m => liftQuery ((checkLabels m.keys).map fun _ => ())

/-- Realizes an alert under a name. -/
def AlertRule.realize (a : AlertRule) (name : String) : Except RuleError RealizedAlert := do
  let expr ← realizeExpr name a.expr
  checkLabelNames a.labels
  pure ⟨name, expr, a.holdFor, a.fireFor, a.labels, a.annotations⟩

/-- Realizes a recording under a name. -/
def RecordingRule.realize (r : RecordingRule) (name : String) :
    Except RuleError RealizedRecording := do
  let expr ← realizeExpr name r.expr
  checkLabelNames r.labels
  pure ⟨name, expr, r.labels⟩

/-- Realizes a rule of either kind under a name. -/
def Definition.realize (d : Definition) (name : String) : Except RuleError RealizedRule :=
  match d with
  | .alert a => RealizedRule.alert <$> a.realize name
  | .recording r => RealizedRule.recording <$> r.realize name

/-- A range-valued expression is never realized. -/
theorem realizeExpr_range (rule : String) (e : Expr) (hrange : e.kind = .range) :
    ∃ reason, realizeExpr rule e = .error (.invalidExpression rule reason) := by
  simp [realizeExpr, hrange]

end PromRules.Rule
