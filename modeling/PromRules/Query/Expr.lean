import PromRules.Duration.Basic
import PromRules.Number.Binary64

/-!
Query expressions.

An expression is one of eight kinds of node: a number, a metric selector, an expression under
an `offset` or `@` modifier, a selector sliced over a window, a subquery, a function call, a
binary operation and an aggregation. Each expression has a value kind (scalar, instant vector
or range vector) and a binding strength (`Precedence`) that decides where the printer needs
brackets. The nodes are built through the checked operations of `PromRules.Query.Build`, which
is what keeps every tree printable.
-/

namespace PromRules.Query

/-- What an expression evaluates to. -/
inductive ValueKind where
  | scalar
  | instant
  | range
deriving DecidableEq, Repr, Inhabited

/-- The name of a value kind in messages. -/
def ValueKind.name : ValueKind → String
  | .scalar => "scalar"
  | .instant => "instant vector"
  | .range => "range vector"

/-- Binding strengths, loosest first. -/
inductive Precedence where
  | or
  | andUnless
  | comparison
  | additive
  | multiplicative
  | unary
  | power
  | modifier
  | atom
deriving DecidableEq, Repr, Inhabited

/-- The rank of a binding strength: a higher rank binds tighter. -/
def Precedence.rank : Precedence → Nat
  | .or => 0
  | .andUnless => 1
  | .comparison => 2
  | .additive => 3
  | .multiplicative => 4
  | .unary => 5
  | .power => 6
  | .modifier => 7
  | .atom => 8

instance : LT Precedence := ⟨fun a b => a.rank < b.rank⟩

instance (a b : Precedence) : Decidable (a < b) := inferInstanceAs (Decidable (a.rank < b.rank))

/-- The name of a binding strength. -/
def Precedence.name : Precedence → String
  | .or => "Or"
  | .andUnless => "AndUnless"
  | .comparison => "Comparison"
  | .additive => "Additive"
  | .multiplicative => "Multiplicative"
  | .unary => "Unary"
  | .power => "Power"
  | .modifier => "Modifier"
  | .atom => "Atom"

/-- The families of binary operators. -/
inductive BinOpCategory where
  | arithmetic
  | comparison
  | set
  | wrapperOnly
deriving DecidableEq, Repr

/-- The name of an operator family. -/
def BinOpCategory.name : BinOpCategory → String
  | .arithmetic => "Arithmetic"
  | .comparison => "Comparison"
  | .set => "Set"
  | .wrapperOnly => "WrapperOnly"

/-- Binary operators. -/
inductive BinOp where
  | add
  | sub
  | mul
  | div
  | mod
  | pow
  | eq
  | ne
  | gt
  | ge
  | lt
  | le
  | and
  | or
  | unless
  | atan2
deriving DecidableEq, Repr, Inhabited

namespace BinOp

/-- Every operator, in the order operator lists are given. -/
def all : List BinOp :=
  [.add, .sub, .mul, .div, .mod, .pow, .eq, .ne, .gt, .ge, .lt, .le, .and, .or, .unless, .atan2]

/-- The operator as written in a query. -/
def symbol : BinOp → String
  | .add => "+"
  | .sub => "-"
  | .mul => "*"
  | .div => "/"
  | .mod => "%"
  | .pow => "^"
  | .eq => "=="
  | .ne => "!="
  | .gt => ">"
  | .ge => ">="
  | .lt => "<"
  | .le => "<="
  | .and => "and"
  | .or => "or"
  | .unless => "unless"
  | .atan2 => "atan2"

/-- The operator written as `s`, if any. -/
def ofSymbol? (s : String) : Option BinOp :=
  all.find? (fun op => op.symbol == s)

/-- The family of an operator. -/
def category : BinOp → BinOpCategory
  | .add | .sub | .mul | .div | .mod | .pow => .arithmetic
  | .eq | .ne | .gt | .ge | .lt | .le => .comparison
  | .and | .or | .unless => .set
  | .atan2 => .wrapperOnly

/-- How tightly an operator binds its operands. -/
def precedence : BinOp → Precedence
  | .pow => .power
  | .mul | .div | .mod | .atan2 => .multiplicative
  | .add | .sub => .additive
  | .eq | .ne | .gt | .ge | .lt | .le => .comparison
  | .and | .unless => .andUnless
  | .or => .or

/-- Only `^` groups to the right. -/
def rightAssociative : BinOp → Bool
  | .pow => true
  | _ => false

end BinOp

/-- A label matcher `name="value"` of a selector. -/
structure Matcher where
  name : String
  value : String
deriving DecidableEq, Repr, Inhabited

/-- A metric selector. Without a matcher list it prints as the bare name; with one, even an
empty one, it prints with braces. -/
structure Selector where
  name : String
  matchers : Option (List Matcher)
deriving DecidableEq, Repr, Inhabited

/-- The two ways of naming the labels an aggregation keeps. -/
inductive GroupingKind where
  | byLabels
  | withoutLabels
deriving DecidableEq, Repr

/-- The keyword of a grouping. -/
def GroupingKind.keyword : GroupingKind → String
  | .byLabels => "by"
  | .withoutLabels => "without"

/-- The grouping clause of an aggregation. -/
structure Grouping where
  kind : GroupingKind
  labels : List String
deriving DecidableEq, Repr

/-- The two ways of naming the labels that match the sides of a binary operation. -/
inductive MatchingKind where
  | on
  | ignoring
deriving DecidableEq, Repr

/-- The keyword of a matching clause. -/
def MatchingKind.keyword : MatchingKind → String
  | .on => "on"
  | .ignoring => "ignoring"

/-- The side whose series may match many of the other side's. -/
inductive GroupSide where
  | left
  | right
deriving DecidableEq, Repr

/-- The keyword of a group clause. -/
def GroupSide.keyword : GroupSide → String
  | .left => "group_left"
  | .right => "group_right"

/-- A `group_left` or `group_right` clause. -/
structure GroupClause where
  side : GroupSide
  labels : List String
deriving DecidableEq, Repr

/-- The vector matching clause of a binary operation. -/
structure Matching where
  kind : MatchingKind
  labels : List String
  group : Option GroupClause
deriving DecidableEq, Repr

mutual

/-- A query expression. -/
inductive Expr where
  /-- A number. -/
  | literal (value : Binary64)
  /-- A metric selector. -/
  | selector (sel : Selector)
  /-- An expression evaluated under an `offset` or `@` modifier. -/
  | derived (inner : Expr) (modifier : Modifier)
  /-- A selector over a window. -/
  | range (sel : Selector) (width : Duration)
  /-- An expression evaluated over a window at a step. -/
  | subquery (inner : Expr) (width : Duration) (step : Option Duration)
  /-- A function call and the kind of value the function returns. -/
  | call (name : String) (args : List Arg) (returns : ValueKind)
  /-- A binary operation, with its `bool` flag and its vector matching clause. -/
  | binary (op : BinOp) (lhs rhs : Expr) (returnBool : Bool) (matching : Option Matching)
  /-- An aggregation and its grouping clause. -/
  | aggregate (name : String) (args : List Arg) (grouping : Option Grouping)

/-- A modifier that moves the evaluation time of an expression. -/
inductive Modifier where
  /-- An `offset d` shift. -/
  | offset (shift : Duration)
  /-- An `@ t` evaluation at a fixed number of seconds. -/
  | atTime (seconds : Binary64)
  /-- An `@ e` evaluation at the value of an expression. -/
  | atExpr (target : Expr)

/-- An argument of a function call: an expression or a string. -/
inductive Arg where
  | expr (e : Expr)
  | text (s : String)

end

instance : Inhabited Expr := ⟨.literal default⟩

/-- The keyword of a modifier. -/
def Modifier.keyword : Modifier → String
  | .offset _ => "offset"
  | .atTime _ => "@"
  | .atExpr _ => "@"

namespace Expr

/-- What an expression evaluates to. A modifier keeps the kind of what it modifies, and a binary
operation is a scalar exactly when both its sides are. -/
def kind : Expr → ValueKind
  | .literal _ => .scalar
  | .selector _ => .instant
  | .derived inner _ => inner.kind
  | .range _ _ => .range
  | .subquery _ _ _ => .range
  | .call _ _ returns => returns
  | .binary _ lhs rhs _ _ => if lhs.kind = .scalar ∧ rhs.kind = .scalar then .scalar else .instant
  | .aggregate _ _ _ => .instant

/-- How tightly an expression binds when it stands inside another. A number with its sign bit
set, other than a NaN, prints with a leading `-` and binds as a unary minus. -/
def precedence : Expr → Precedence
  | .literal v => if v.isNegative && !v.isNaN then .unary else .atom
  | .derived _ _ => .modifier
  | .binary op _ _ _ _ => op.precedence
  | _ => .atom

/-- The name of an expression's kind of node. -/
def variantName : Expr → String
  | .literal _ => "ScalarLiteral"
  | .selector _ => "SelectedInstantVector"
  | .derived _ _ => "DerivedInstantVector"
  | .range _ _ => "RangeVector"
  | .subquery _ _ _ => "Subquery"
  | .call _ _ _ => "Call"
  | .binary _ _ _ _ _ => "BinaryOp"
  | .aggregate _ _ _ => "AggregateOp"

end Expr

end PromRules.Query
