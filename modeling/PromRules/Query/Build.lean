import PromRules.Query.Function
import PromRules.Query.Name
import PromRules.Duration.Text

/-!
Checked construction of expressions.

Each operation takes finished trees and returns a new tree or the reason it refuses:

* a binary operation takes no range vector on either side, and a bare number on the left only
  for arithmetic;
* label matchers go on a selector only, each name checked in order, a repeated name keeping
  its first position and taking the last value;
* a window goes on a selector, a subquery on an instant vector, each with positive widths;
* `offset` and `@` go on anything that is not a scalar, at most once each along a chain of
  modifiers, and `@` takes no range vector as its time;
* `by` and `without` go once on an aggregation;
* `on` and `ignoring` go once on a binary operation, then `group_left` or `group_right` once,
  never on a set operator, and `bool` once on a comparison.

Label lists are checked before the node they go on.
-/

namespace PromRules.Query

/-- An operand of a binary operation: a bare number or an expression. -/
inductive Operand where
  | number (value : Binary64)
  | expr (e : Expr)

namespace Operand

/-- The value kind of an operand; a bare number is a scalar. -/
def kind : Operand → ValueKind
  | .number _ => .scalar
  | .expr e => e.kind

/-- The name of an operand's kind of node; a bare number is a `float`. -/
def variantName : Operand → String
  | .number _ => "float"
  | .expr e => e.variantName

/-- Whether the operand is a bare number. -/
def isNumber : Operand → Bool
  | .number _ => true
  | .expr _ => false

/-- The operand as an expression: a bare number becomes a literal. -/
def toExpr : Operand → Expr
  | .number v => .literal v
  | .expr e => e

end Operand

/-- Whether an operator takes these operands: neither is a range vector, and a bare number
stands on the left only of an arithmetic operator. -/
def BinOp.admits (op : BinOp) (lhs rhs : Operand) : Bool :=
  lhs.kind != .range && rhs.kind != .range &&
    (op.category == .arithmetic || !lhs.isNumber)

/-- A number literal. -/
def literal (value : Binary64) : Expr := .literal value

/-- Refuses a name that is not a metric name. -/
def checkMetricName (name : String) : Except QueryError Unit :=
  if isMetricName name then .ok () else .error (.invalidName s!"'{name}' is not a valid metric name")

/-- Refuses a name that is not a label name. -/
def checkLabelName (name : String) : Except QueryError Unit :=
  if isLabelName name then .ok () else .error (.invalidName s!"'{name}' is not a valid label name")

/-- Checks label names in order, giving them back when all pass. -/
def checkLabels : List String → Except QueryError (List String)
  | [] => .ok []
  | name :: rest => do
    checkLabelName name
    let checked ← checkLabels rest
    pure (name :: checked)

/-- A selector with no matcher list, after its name is checked. -/
def metric (name : String) : Except QueryError Expr := do
  checkMetricName name
  pure (.selector ⟨name, none⟩)

/-- A binary operation, after the operator's rule on its operands is checked. -/
def binop (lhs : Operand) (op : BinOp) (rhs : Operand) : Except QueryError Expr :=
  if op.admits lhs rhs then .ok (.binary op lhs.toExpr rhs.toExpr false none)
  else .error (.operatorNotSupported op.symbol lhs.variantName rhs.variantName)

/-- Sets a matcher: a name already present keeps its place and takes the new value, a new
name goes at the end. -/
def setMatcher : List Matcher → String → String → List Matcher
  | [], name, value => [⟨name, value⟩]
  | m :: rest, name, value =>
    if m.name == name then ⟨name, value⟩ :: rest else m :: setMatcher rest name value

/-- Sets matchers in order, checking each name first. -/
def setMatchers (ms : List Matcher) : List (String × String) → Except QueryError (List Matcher)
  | [] => .ok ms
  | (name, value) :: rest => do
    checkLabelName name
    setMatchers (setMatcher ms name value) rest

/-- The reason for refusing `modifier` on `target`. -/
def illegal (modifier : String) (target : Expr) (reason : String) : QueryError :=
  .illegalModifier modifier target.variantName reason

namespace Expr

/-- Adds label matchers to a selector. -/
def withLabels (e : Expr) (pairs : List (String × String)) : Except QueryError Expr :=
  match e with
  | .selector sel => do
    let ms ← setMatchers (sel.matchers.getD []) pairs
    pure (.selector ⟨sel.name, some ms⟩)
  | _ => .error (illegal "label selector" e
      "only a selected instant vector accepts label matchers")

/-- Slices a selector over a window of positive width. -/
def sliced (e : Expr) (width : Duration) : Except QueryError Expr :=
  match e with
  | .selector sel =>
    if width.isPositive then .ok (.range sel width)
    else .error (illegal "range selector" e s!"range must be positive, got {width.render}")
  | .range _ _ => .error (illegal "range selector" e "a range vector cannot be sliced again")
  | _ => .error (illegal "range selector" e
      "only a selected instant vector can be range-sliced, use a subquery instead")

/-- Evaluates an instant vector over a window of positive width, at a positive step if one is
given. -/
def subqueried (e : Expr) (width : Duration) (step : Option Duration) :
    Except QueryError Expr :=
  if e.kind != .instant then
    .error (illegal "subquery" e s!"only an instant vector can be subqueried, got a {e.kind.name}")
  else if !width.isPositive then
    .error (illegal "subquery" e s!"range must be positive, got {width.render}")
  else match step with
    | some s =>
      if s.isPositive then .ok (.subquery e width step)
      else .error (illegal "subquery" e s!"step must be positive, got {s.render}")
    | none => .ok (.subquery e width none)

/-- Whether a modifier with this keyword already stands in the chain of modifiers directly
around the expression's core. -/
def chainHas (keyword : String) : Expr → Bool
  | .derived inner m => m.keyword == keyword || inner.chainHas keyword
  | _ => false

/-- Puts a modifier around an expression that is not a scalar and has no modifier with the
same keyword in its chain. -/
def withModifier (e : Expr) (m : Modifier) : Except QueryError Expr :=
  if e.kind == .scalar then
    .error (illegal m.keyword e "scalar expressions have no evaluation time to modify")
  else if e.chainHas m.keyword then
    .error (illegal m.keyword e s!"'{m.keyword}' is already applied to this expression")
  else .ok (.derived e m)

/-- Shifts the evaluation time back by a duration. -/
def offsetBy (e : Expr) (shift : Duration) : Except QueryError Expr :=
  e.withModifier (.offset shift)

/-- Evaluates at a fixed time, in seconds. -/
def atTime (e : Expr) (seconds : Binary64) : Except QueryError Expr :=
  e.withModifier (.atTime seconds)

/-- Evaluates at the time given by another expression, which must not be a range vector. -/
def atExpr (e target : Expr) : Except QueryError Expr :=
  if target.kind == .range then
    .error (.typeMismatch "@"
      s!"timestamp expected scalar or instant vector, got range vector ({target.variantName})")
  else e.withModifier (.atExpr target)

/-- Attaches a grouping to an aggregation that has none. -/
def withGrouping (e : Expr) (kind : GroupingKind) (labels : List String) :
    Except QueryError Expr :=
  match e with
  | .aggregate name args none => .ok (.aggregate name args (some ⟨kind, labels⟩))
  | .aggregate _ _ (some _) => .error (illegal kind.keyword e "a grouping is already attached")
  | _ => .error (illegal kind.keyword e "grouping is only legal on aggregation operators")

/-- Groups an aggregation `by(labels)`. -/
def byLabels (e : Expr) (labels : List String) : Except QueryError Expr := do
  let checked ← checkLabels labels
  e.withGrouping .byLabels checked

/-- Groups an aggregation `without(labels)`. -/
def withoutLabels (e : Expr) (labels : List String) : Except QueryError Expr := do
  let checked ← checkLabels labels
  e.withGrouping .withoutLabels checked

/-- The refusal of a clause on an expression that is not a binary operation. -/
def notBinary (keyword : String) (e : Expr) : QueryError :=
  illegal keyword e "vector matching is only legal on binary operations"

/-- Attaches a matching clause to a binary operation that has none. -/
def withMatching (e : Expr) (kind : MatchingKind) (labels : List String) :
    Except QueryError Expr :=
  match e with
  | .binary op lhs rhs flag none => .ok (.binary op lhs rhs flag (some ⟨kind, labels, none⟩))
  | .binary _ _ _ _ (some _) =>
    .error (illegal kind.keyword e "vector matching is already specified")
  | _ => .error (notBinary kind.keyword e)

/-- Matches a binary operation `on(labels)`. -/
def on (e : Expr) (labels : List String) : Except QueryError Expr := do
  let checked ← checkLabels labels
  e.withMatching .on checked

/-- Matches a binary operation `ignoring(labels)`. -/
def ignoring (e : Expr) (labels : List String) : Except QueryError Expr := do
  let checked ← checkLabels labels
  e.withMatching .ignoring checked

/-- Attaches a group clause to a binary operation that is not a set operation and has a
matching clause with no group clause yet. -/
def withGroup (e : Expr) (side : GroupSide) (labels : List String) : Except QueryError Expr :=
  match e with
  | .binary op lhs rhs flag matching =>
    if op.category == .set then
      .error (illegal side.keyword e s!"set operator '{op.symbol}' is always many-to-many")
    else match matching with
      | none => .error (illegal side.keyword e "requires on() or ignoring() first")
      | some ⟨kind, ls, none⟩ =>
        .ok (.binary op lhs rhs flag (some ⟨kind, ls, some ⟨side, labels⟩⟩))
      | some ⟨_, _, some _⟩ => .error (illegal side.keyword e "a group modifier is already attached")
  | _ => .error (notBinary side.keyword e)

/-- Groups the left side of a binary operation: `group_left(labels)`. -/
def groupLeft (e : Expr) (labels : List String) : Except QueryError Expr := do
  let checked ← checkLabels labels
  e.withGroup .left checked

/-- Groups the right side of a binary operation: `group_right(labels)`. -/
def groupRight (e : Expr) (labels : List String) : Except QueryError Expr := do
  let checked ← checkLabels labels
  e.withGroup .right checked

/-- Makes a comparison return 0 or 1 instead of filtering. -/
def asBool (e : Expr) : Except QueryError Expr :=
  match e with
  | .binary op lhs rhs flag matching =>
    if op.category != .comparison then
      .error (illegal "bool" e s!"'{op.symbol}' is not a comparison operator")
    else if flag then .error (illegal "bool" e "'bool' is already applied")
    else .ok (.binary op lhs rhs true matching)
  | _ => .error (notBinary "bool" e)

end Expr

end PromRules.Query
