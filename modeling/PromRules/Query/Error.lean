/-!
Why an expression could not be built.

Every check happens while a tree is built, so printing never fails. Each cause carries what its
message needs, and `QueryError.message` is the one place that words them.
-/

namespace PromRules.Query

/-- The causes of a refused expression. -/
inductive QueryError where
  /-- An operator was applied to operands it does not take. -/
  | operatorNotSupported (op left right : String)
  /-- A function or the `@` modifier got an argument of the wrong kind or number. -/
  | typeMismatch (function detail : String)
  /-- A modifier or clause was applied where it does not belong. -/
  | illegalModifier (modifier target reason : String)
  /-- A text is not a duration. -/
  | invalidDuration (text : String)
  /-- A metric or label name breaks its pattern. -/
  | invalidName (detail : String)
  /-- No function of that name exists. -/
  | unknownFunction (name : String)
deriving DecidableEq, Repr

namespace QueryError

/-- The name of the cause. -/
def kindName : QueryError → String
  | .operatorNotSupported .. => "OperatorNotSupported"
  | .typeMismatch .. => "TypeMismatch"
  | .illegalModifier .. => "IllegalModifier"
  | .invalidDuration _ => "InvalidDuration"
  | .invalidName _ => "InvalidName"
  | .unknownFunction _ => "UnknownFunction"

/-- The message of the cause. -/
def message : QueryError → String
  | .operatorNotSupported op left right =>
    s!"Operator '{op}' is not supported between {left} and {right}"
  | .typeMismatch function detail => s!"Type mismatch in {function}: {detail}"
  | .illegalModifier modifier target reason => s!"Cannot apply {modifier} to {target}: {reason}"
  | .invalidDuration text => s!"Invalid duration: {text}"
  | .invalidName detail => s!"Invalid name: {detail}"
  | .unknownFunction name => s!"Unknown function: {name}"

end QueryError

end PromRules.Query
