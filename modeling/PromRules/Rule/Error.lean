import PromRules.Query.Error

/-!
Why a rule could not be registered or realized.

A rule fails when its expression could not be built, when its name is empty or already taken in
its bundle, or when its expression yields a range vector, which a rule cannot evaluate.
-/

namespace PromRules.Rule

open Query

/-- The causes of a refused rule. -/
inductive RuleError where
  /-- The rule's expression, or a name checked like one, was refused. -/
  | query (cause : QueryError)
  /-- The bundle already holds a rule of this name. -/
  | duplicateRule (name : String)
  /-- The rule's name is empty. -/
  | emptyName
  /-- The rule's expression cannot be evaluated by a rule. -/
  | invalidExpression (rule reason : String)
deriving DecidableEq, Repr

namespace RuleError

/-- The name of the cause; a refused expression adds the name of its own cause. -/
def kindName : RuleError → String
  | .query cause => "Ql." ++ cause.kindName
  | .duplicateRule _ => "DuplicateRule"
  | .emptyName => "EmptyName"
  | .invalidExpression .. => "InvalidExpression"

/-- The message of the cause. -/
def message : RuleError → String
  | .query cause => "Expression error: " ++ cause.message
  | .duplicateRule name => "Duplicate rule name: " ++ name
  | .emptyName => "Rule name must not be empty"
  | .invalidExpression rule reason => s!"Invalid expression for rule '{rule}': {reason}"

end RuleError

/-- Lifts a refused expression into a refused rule. -/
def liftQuery {α : Type} : Except QueryError α → Except RuleError α
  | .ok a => .ok a
  | .error e => .error (.query e)

end PromRules.Rule
