import PromRules.Query.Expr
import PromRules.Query.Error

/-!
The function table and checked calls.

Every function has a family, a list of parameter kinds, possibly a kind for any number of
trailing arguments, and the kind of value it returns. A call is built only when its arguments
fit the signature: the count must equal the parameter count, or be at least that for a
function with trailing arguments, and each argument must be of its position's kind. The count
is checked first, then the positions in order, and the first misfit is the error. An aggregation
becomes an `aggregate` node with no grouping yet; every other function becomes a `call` node.
-/

namespace PromRules.Query

/-- The families of functions. -/
inductive FunctionFamily where
  | rollup
  | aggregate
  | transform
  | labelManipulation
deriving DecidableEq, Repr

/-- The name of a function family. -/
def FunctionFamily.name : FunctionFamily → String
  | .rollup => "Rollup"
  | .aggregate => "Aggregate"
  | .transform => "Transform"
  | .labelManipulation => "LabelManipulation"

/-- What a parameter accepts. -/
inductive ParamKind where
  | rangeVector
  | instantVector
  | scalar
  | string
deriving DecidableEq, Repr

/-- The name of a parameter kind in messages. -/
def ParamKind.name : ParamKind → String
  | .rangeVector => "range vector"
  | .instantVector => "instant vector"
  | .scalar => "scalar"
  | .string => "string"

/-- A function's signature. -/
structure FunctionSpec where
  name : String
  family : FunctionFamily
  params : List ParamKind
  variadic : Option ParamKind
  returns : ValueKind
deriving DecidableEq, Repr

/-- A function over windows of samples, giving an instant vector. -/
def rollup (name : String) (params : List ParamKind) : FunctionSpec :=
  ⟨name, .rollup, params, none, .instant⟩

/-- An aggregation, giving an instant vector. -/
def aggregation (name : String) (params : List ParamKind) : FunctionSpec :=
  ⟨name, .aggregate, params, none, .instant⟩

/-- A per-sample function. -/
def transform (name : String) (params : List ParamKind) (returns : ValueKind) : FunctionSpec :=
  ⟨name, .transform, params, none, returns⟩

/-- A function that edits the labels of its series. -/
def labelFunction (name : String) (params : List ParamKind) (variadic : Option ParamKind) :
    FunctionSpec :=
  ⟨name, .labelManipulation, params, variadic, .instant⟩

/-- Every function, in table order. -/
def functions : List FunctionSpec :=
  (["rate", "irate", "increase", "delta", "idelta", "deriv", "changes", "resets",
    "avg_over_time", "min_over_time", "max_over_time", "sum_over_time", "count_over_time",
    "last_over_time", "stddev_over_time", "stdvar_over_time", "present_over_time",
    "absent_over_time"].map fun name => rollup name [.rangeVector]) ++
  [rollup "quantile_over_time" [.scalar, .rangeVector],
   rollup "predict_linear" [.rangeVector, .scalar]] ++
  (["sum", "avg", "min", "max", "count", "group", "stddev", "stdvar"].map fun name =>
    aggregation name [.instantVector]) ++
  (["topk", "bottomk", "limitk", "quantile"].map fun name =>
    aggregation name [.scalar, .instantVector]) ++
  [aggregation "count_values" [.string, .instantVector]] ++
  (["abs", "absent", "ceil", "floor", "round", "exp", "ln", "log2", "log10", "sqrt", "sgn",
    "sort", "sort_desc", "timestamp"].map fun name => transform name [.instantVector] .instant) ++
  [transform "clamp_min" [.instantVector, .scalar] .instant,
   transform "clamp_max" [.instantVector, .scalar] .instant,
   transform "clamp" [.instantVector, .scalar, .scalar] .instant,
   transform "histogram_quantile" [.scalar, .instantVector] .instant,
   transform "scalar" [.instantVector] .scalar,
   transform "vector" [.scalar] .instant,
   transform "time" [] .scalar,
   labelFunction "label_replace" [.instantVector, .string, .string, .string, .string] none,
   labelFunction "label_join" [.instantVector, .string, .string] (some .string),
   labelFunction "label_match" [.instantVector, .string, .string] none,
   labelFunction "label_mismatch" [.instantVector, .string, .string] none,
   labelFunction "label_del" [.instantVector] (some .string),
   labelFunction "label_keep" [.instantVector] (some .string)]

/-- The signature of the function with this name, if there is one. -/
def lookupFunction (name : String) : Option FunctionSpec :=
  functions.find? (fun spec => spec.name == name)

/-- An argument as given to a call: an expression, a bare number or a string. -/
inductive CallArg where
  | expr (e : Expr)
  | number (value : Binary64)
  | text (s : String)

/-- How an argument is named in a message. -/
def CallArg.describe : CallArg → String
  | .expr e => s!"{e.kind.name} ({e.variantName})"
  | .number _ => "number"
  | .text _ => "string"

/-- Whether a parameter kind accepts an argument. -/
def ParamKind.accepts : ParamKind → CallArg → Bool
  | .string, .text _ => true
  | .scalar, .number _ => true
  | .scalar, .expr e => e.kind == .scalar
  | .instantVector, .expr e => e.kind == .instant
  | .rangeVector, .expr e => e.kind == .range
  | _, _ => false

/-- The argument as it is stored in a node: a number becomes a literal. -/
def CallArg.toArg : CallArg → Arg
  | .expr e => .expr e
  | .number v => .expr (.literal v)
  | .text s => .text s

namespace FunctionSpec

/-- The kind expected at a position: the parameter there, else the trailing kind. -/
def expectedAt (spec : FunctionSpec) (position : Nat) : Option ParamKind :=
  spec.params[position]?.orElse fun _ => spec.variadic

/-- Whether an argument count fits the signature. -/
def arityFits (spec : FunctionSpec) (count : Nat) : Bool :=
  match spec.variadic with
  | none => count == spec.params.length
  | some _ => spec.params.length ≤ count

/-- A type mismatch of this function. -/
def mismatch (spec : FunctionSpec) (detail : String) : QueryError :=
  .typeMismatch spec.name detail

/-- Checks the arguments from a position on, converting those that fit. -/
def checkArgs (spec : FunctionSpec) : Nat → List CallArg → Except QueryError (List Arg)
  | _, [] => .ok []
  | position, arg :: rest =>
    match spec.expectedAt position with
    | none => .error (spec.mismatch s!"unexpected argument {position + 1}")
    | some expected =>
      if expected.accepts arg then
        (checkArgs spec (position + 1) rest).map (arg.toArg :: ·)
      else
        .error (spec.mismatch
          s!"argument {position + 1} expected {expected.name}, got {arg.describe}")

/-- Builds the node of a call of this function, or says why the arguments do not fit. -/
def build (spec : FunctionSpec) (args : List CallArg) : Except QueryError Expr :=
  if spec.arityFits args.length then
    (spec.checkArgs 0 args).map fun checked =>
      match spec.family with
      | .aggregate => .aggregate spec.name checked none
      | _ => .call spec.name checked spec.returns
  else
    let qualifier := if spec.variadic.isSome then "at least " else ""
    .error (spec.mismatch
      s!"expected {qualifier}{spec.params.length} argument(s), got {args.length}")

end FunctionSpec

/-- A call of a function by name. -/
def call (name : String) (args : List CallArg) : Except QueryError Expr :=
  match lookupFunction name with
  | some spec => spec.build args
  | none => .error (.unknownFunction name)

end PromRules.Query
