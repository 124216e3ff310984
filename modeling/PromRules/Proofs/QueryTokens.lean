import PromRules.Proofs.QueryReader
import PromRules.Proofs.DurationText
import PromRules.Proofs.Rounding
import PromRules.Query.Print

/-!
Query text as units.

`Expr.tokens` is the query text of an expression (`Expr.renderIn .minimal`) as the lexer of
`PromRules.Query.read` cuts it: the same walk over the tree with the same brackets, giving units
where the printer gives text. `Expr.readBack` is the tree the reader makes of those units. It is
the tree itself except in three places where the text says less than the tree: every NaN prints
as `NaN` and reads as the quiet NaN; a duration reads as `parse_render` says; and a number after
`@` that needs no brackets reads as a time in seconds, not as an expression.

This module fixes the units, the read-back tree and the conditions on names under which the
reader takes the text as written (`Expr.Readable`).
-/

namespace PromRules

namespace Binary64

/-- The pattern with its sign bit cleared. -/
def abs (x : Binary64) : Binary64 := ofFields false x.exponentField x.fraction

/-- The number the text of `x` reads back as: a NaN prints as `NaN`, the quiet NaN. -/
def readBack (x : Binary64) : Binary64 := if x.isNaN then nan else x

theorem ofFields_bits {negative : Bool} {field frac : Nat} (hf : field < 2048)
    (hm : frac < hiddenBit) :
    (ofFields negative field frac).bits.toNat =
      (if negative then 9223372036854775808 else 0) + field * hiddenBit + frac := by
  unfold ofFields
  rw [UInt64.toNat_ofNat']
  apply Nat.mod_eq_of_lt
  unfold hiddenBit at hm ⊢
  split <;> omega

section Fields

variable {negative : Bool} {field frac : Nat}

theorem isNegative_ofFields (hf : field < 2048) (hm : frac < hiddenBit) :
    (ofFields negative field frac).isNegative = negative := by
  unfold isNegative
  rw [ofFields_bits hf hm]
  unfold hiddenBit at hm ⊢
  cases negative <;> simp <;> omega

theorem exponentField_ofFields (hf : field < 2048) (hm : frac < hiddenBit) :
    (ofFields negative field frac).exponentField = field := by
  unfold exponentField
  rw [ofFields_bits hf hm]
  unfold hiddenBit at hm ⊢
  split <;> omega

theorem fraction_ofFields (hf : field < 2048) (hm : frac < hiddenBit) :
    (ofFields negative field frac).fraction = frac := by
  unfold fraction
  rw [ofFields_bits hf hm]
  unfold hiddenBit at hm ⊢
  split <;> omega

end Fields

@[simp] theorem isNegative_abs (x : Binary64) : x.abs.isNegative = false :=
  isNegative_ofFields (exponentField_lt x) (fraction_lt x)

@[simp] theorem exponentField_abs (x : Binary64) : x.abs.exponentField = x.exponentField :=
  exponentField_ofFields (exponentField_lt x) (fraction_lt x)

@[simp] theorem fraction_abs (x : Binary64) : x.abs.fraction = x.fraction :=
  fraction_ofFields (exponentField_lt x) (fraction_lt x)

@[simp] theorem classify_abs (x : Binary64) : x.abs.classify = x.classify := by
  unfold classify
  rw [exponentField_abs, fraction_abs]

theorem abs_of_not_isNegative {x : Binary64} (h : x.isNegative = false) : x.abs = x :=
  ofFields_eq_of_fields h.symm rfl rfl

theorem negate_abs {x : Binary64} (h : x.isNegative = true) : x.abs.negate = x := by
  unfold negate
  rw [isNegative_abs, exponentField_abs, fraction_abs]
  exact ofFields_eq_of_fields h.symm rfl rfl

theorem abs_of_infinite {x : Binary64} (h : x.classify = .infinite) : x.abs = infinity false := by
  unfold classify at h
  split at h
  · rename_i hfield
    split at h
    · rename_i hfrac
      unfold abs infinity
      rw [hfield, hfrac]
    · cases h
  · split at h <;> cases h

theorem readBack_of_not_isNaN {x : Binary64} (h : x.isNaN = false) : x.readBack = x := by
  simp [readBack, h]

end Binary64

namespace Query

/-! ### Units of the printed pieces -/

/-- The unit of a number's magnitude: `Inf`, or the number with its sign bit cleared. -/
def magnitudeToken (v : Binary64) : Token :=
  if v.isInfinite then .word "Inf" else .number v.abs

/-- The units of a number: `NaN`, or the magnitude after a `-` when the sign bit is set. -/
def numberTokens (v : Binary64) : List Token :=
  if v.isNaN then [.word "NaN"]
  else if v.isNegative then [.op .sub, magnitudeToken v]
  else [magnitudeToken v]

/-- The units of a duration after `offset`: its text, a leading `-` apart. -/
def durationTokens (d : Duration) : List Token :=
  match d.render.toList with
  | '-' :: body => [.op .sub, .duration body]
  | text => [.duration text]

/-- The body of the window of a subquery: the width, a colon and the step if there is one. -/
def subqueryWindow (width : Duration) (step : Option Duration) : List Char :=
  width.render.toList ++ ':' :: (match step with | some s => s.render.toList | none => [])

/-- The units of a matcher list after its `{`, up to and including its `}`. -/
def matcherTokens : List Matcher → List Token
  | [] => [.mark .closeBrace]
  | [m] => [.word m.name, .mark .equals, .str m.value, .mark .closeBrace]
  | m :: n :: more =>
    [.word m.name, .mark .equals, .str m.value, .mark .comma] ++ matcherTokens (n :: more)

def Selector.tokens (sel : Selector) : List Token :=
  .word sel.name :: match sel.matchers with
    | none => []
    | some ms => .mark .openBrace :: matcherTokens ms

/-- The units of a label list after its `(`, up to and including its `)`. -/
def labelTokens : List String → List Token
  | [] => [.mark .closeParen]
  | [l] => [.word l, .mark .closeParen]
  | l :: l' :: more => [.word l, .mark .comma] ++ labelTokens (l' :: more)

def clauseTokens (keyword : String) (labels : List String) : List Token :=
  .word keyword :: .mark .openParen :: labelTokens labels

def groupTokens : Option GroupClause → List Token
  | none => []
  | some g => clauseTokens g.side.keyword g.labels

def matchingTokens : Option Matching → List Token
  | none => []
  | some m => clauseTokens m.kind.keyword m.labels ++ groupTokens m.group

def groupingTokens : Option Grouping → List Token
  | none => []
  | some g => clauseTokens g.kind.keyword g.labels

/-- The unit of an operator: a word for the set operators and `atan2`, marks for the rest. -/
def opToken : BinOp → Token
  | .and => .word "and"
  | .or => .word "or"
  | .unless => .word "unless"
  | .atan2 => .word "atan2"
  | op => .op op

def operatorTokens (op : BinOp) (flag : Bool) (matching : Option Matching) : List Token :=
  opToken op :: ((if flag then [.word "bool"] else []) ++ matchingTokens matching)

def bracketTokens (bracket : Bool) (ts : List Token) : List Token :=
  if bracket then .mark .openParen :: ts ++ [.mark .closeParen] else ts

mutual

/-- The units of an expression's query text, brackets as `Expr.renderIn .minimal` sets them. -/
def Expr.tokens : Expr → List Token
  | .literal v => numberTokens v
  | .selector sel => sel.tokens
  | .derived inner m =>
    bracketTokens (needsBrackets .minimal inner .modifier false) inner.tokens ++ m.tokens
  | .range sel width => sel.tokens ++ [.window width.render.toList]
  | .subquery inner width step =>
    bracketTokens (needsBrackets .minimal inner .atom false) inner.tokens ++
      [.window (subqueryWindow width step)]
  | .call name args _ => .word name :: .mark .openParen :: Arg.listTokens args
  | .aggregate name args grouping =>
    .word name :: .mark .openParen :: (Arg.listTokens args ++ groupingTokens grouping)
  | .binary op lhs rhs flag matching =>
    bracketTokens (needsBrackets .minimal lhs op.precedence op.rightAssociative) lhs.tokens ++
      (operatorTokens op flag matching ++
        bracketTokens (needsBrackets .minimal rhs op.precedence (!op.rightAssociative))
          rhs.tokens)

def Modifier.tokens : Modifier → List Token
  | .offset shift => .word "offset" :: durationTokens shift
  | .atTime seconds => .mark .at :: numberTokens seconds
  | .atExpr target =>
    .mark .at :: bracketTokens (needsBrackets .minimal target .atom false) target.tokens

/-- The units of call arguments after the `(`, up to and including the `)`. -/
def Arg.listTokens : List Arg → List Token
  | [] => [.mark .closeParen]
  | [a] => a.tokens ++ [.mark .closeParen]
  | a :: b :: more => a.tokens ++ .mark .comma :: Arg.listTokens (b :: more)

def Arg.tokens : Arg → List Token
  | .expr e => bracketTokens (needsBrackets .minimal e .or false) e.tokens
  | .text s => [.str s]

end

-- The units of a given node are computed by `simp`, one constructor at a time.
attribute [simp] Expr.tokens Modifier.tokens Arg.listTokens Arg.tokens

/-! ### The tree read back -/

mutual

/-- The tree the reader makes of an expression's units. -/
def Expr.readBack : Expr → Expr
  | .literal v => .literal v.readBack
  | .selector sel => .selector sel
  | .derived inner m => .derived inner.readBack m.readBack
  | .range sel width => .range sel width.readBack
  | .subquery inner width step =>
    .subquery inner.readBack width.readBack (step.map Duration.readBack)
  | .call name args returns => .call name (Arg.readBackList args) returns
  | .binary op lhs rhs flag matching => .binary op lhs.readBack rhs.readBack flag matching
  | .aggregate name args grouping => .aggregate name (Arg.readBackList args) grouping

/-- A number printed without brackets after `@` reads as a time. -/
def Modifier.readBack : Modifier → Modifier
  | .offset shift => .offset shift.readBack
  | .atTime seconds => .atTime seconds.readBack
  | .atExpr (.literal v) =>
    if v.isNegative && !v.isNaN then .atExpr (.literal v) else .atTime v.readBack
  | .atExpr target => .atExpr target.readBack

def Arg.readBackList : List Arg → List Arg
  | [] => []
  | a :: more => a.readBack :: Arg.readBackList more

def Arg.readBack : Arg → Arg
  | .expr e => .expr e.readBack
  | .text s => .text s

end

-- Likewise the tree read back from a given node.
attribute [simp] Expr.readBack Modifier.readBack Arg.readBackList Arg.readBack

/-! ### Names the reader takes as written -/

/-- A call node of a known function that is no aggregation, with the function's value kind. -/
def CallKnown (name : String) (returns : ValueKind) : Prop :=
  ∃ spec, lookupFunction name = some spec ∧ spec.family ≠ .aggregate ∧ spec.returns = returns

/-- An aggregation node of a known aggregation. -/
def AggregateKnown (name : String) : Prop :=
  ∃ spec, lookupFunction name = some spec ∧ spec.family = .aggregate

mutual

/-- The conditions under which the reader takes an expression's units as the tree: no selector
is named by a keyword, calls are of the function table with its families and value kinds, and
no `@` time is a range vector. -/
def Expr.Readable : Expr → Prop
  | .literal _ => True
  | .selector sel => isKeyword sel.name = false
  | .derived inner m => inner.Readable ∧ m.Readable
  | .range sel _ => isKeyword sel.name = false
  | .subquery inner _ _ => inner.Readable
  | .call name args returns => CallKnown name returns ∧ Arg.ListReadable args
  | .binary _ lhs rhs _ _ => lhs.Readable ∧ rhs.Readable
  | .aggregate name args _ => AggregateKnown name ∧ Arg.ListReadable args

def Modifier.Readable : Modifier → Prop
  | .atExpr target => target.Readable ∧ target.kind ≠ .range
  | _ => True

def Arg.ListReadable : List Arg → Prop
  | [] => True
  | a :: more => a.Readable ∧ Arg.ListReadable more

def Arg.Readable : Arg → Prop
  | .expr e => e.Readable
  | .text _ => True

end

end Query

end PromRules
