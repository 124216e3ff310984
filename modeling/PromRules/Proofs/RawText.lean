import PromRules.Proofs.QueryBuild
import PromRules.Query.Print

/-!
The raw text of a binary operation.

In the raw text every binary operation carries its own brackets, so it binds as an atom where it
stands inside another. The only operands that bind looser than that are numbers written with a
leading `-`, which bind as a unary minus: looser than `^` and tighter than every other operator.
So an operand is bracketed in the raw text exactly when it is such a number beside `^`
(`needsBrackets_raw`), on either side. The main statement, `render_binary`, spells out the raw
text of every binary operation: its operands, each in brackets when the rule says so, and between
them the operator, its `bool` flag and its matching clauses. An operation built by `binop` has
neither flag nor clause, so apart from `^` its raw text is its operands' raw texts around the
operator, in brackets.
-/

namespace PromRules.Query

/-- A number written with a leading `-`: its sign bit is set and it is no NaN. -/
def Expr.isNegativeNumber : Expr → Bool
  | .literal v => v.isNegative && !v.isNaN
  | _ => false

/-- In the raw text an operand binds as a unary minus when it is a negative number, and
otherwise at least as tightly as a modifier. -/
theorem Expr.bindingIn_raw (x : Expr) :
    (x.isNegativeNumber = true ∧ x.bindingIn .raw = .unary) ∨
      (x.isNegativeNumber = false ∧ Precedence.modifier.rank ≤ (x.bindingIn .raw).rank) := by
  cases x with
  | literal v =>
    cases hsign : (v.isNegative && !v.isNaN) <;>
      simp [isNegativeNumber, bindingIn, precedence, hsign, Precedence.rank]
  | derived inner m => simp [isNegativeNumber, bindingIn, precedence, Precedence.rank]
  | _ => simp [isNegativeNumber, bindingIn, precedence, Precedence.rank]

/-- An operand is bracketed in the raw text exactly when it is a negative number beside `^`,
whichever side it stands on. -/
theorem needsBrackets_raw (op : BinOp) (x : Expr) (strictly : Bool) :
    needsBrackets .raw x op.precedence strictly = (op == .pow && x.isNegativeNumber) := by
  unfold needsBrackets
  rcases x.bindingIn_raw with ⟨hneg, hbind⟩ | ⟨hneg, hbind⟩
  · -- a unary minus binds looser than `^` only, and ties with no operator
    rw [hbind, hneg]
    cases op <;> decide +revert
  · -- anything else binds at least as a modifier, tighter than every operator
    rw [hneg]
    have hop : op.precedence.rank < Precedence.modifier.rank := by
      cases op <;> decide
    have hlt : ¬ x.bindingIn .raw < op.precedence := by
      show ¬ (x.bindingIn .raw).rank < op.precedence.rank
      omega
    have hne : x.bindingIn .raw ≠ op.precedence := by
      intro heq
      rw [heq] at hbind
      omega
    simp [hlt, hne]

/-- The raw text of a binary operation: in brackets, its operands around its operator, its
`bool` flag and its matching clauses, an operand in brackets of its own when it is a negative
number beside `^`. -/
theorem render_binary (op : BinOp) (lhs rhs : Expr) (flag : Bool) (matching : Option Matching) :
    (Expr.binary op lhs rhs flag matching).render =
      "(" ++ bracketIf (op == .pow && lhs.isNegativeNumber) lhs.render ++ " " ++ op.symbol ++
        (if flag then " bool" else "") ++
        (match matching with
          | none => ""
          | some m => " " ++ m.kind.keyword ++ "(" ++ ",".intercalate m.labels ++ ")" ++
            match m.group with
            | none => ""
            | some g => " " ++ g.side.keyword ++ "(" ++ ",".intercalate g.labels ++ ")") ++
        " " ++ bracketIf (op == .pow && rhs.isNegativeNumber) rhs.render ++ ")" := by
  simp only [Expr.render, Expr.renderIn, needsBrackets_raw, operatorText, clause]
  rcases matching with _ | ⟨kind, labels, _ | ⟨side, groupLabels⟩⟩ <;>
    simp only [String.append_assoc]

example : (Expr.binary .pow (.literal (Binary64.ofFields true 1024 0))
    (.literal (Binary64.ofFields false 1024 0)) false none).render = "((-2.0) ^ 2.0)" := by
  decide

/-- An operation built by `binop` other than `^` is written as its operands' raw texts around
the operator, in brackets. -/
theorem render_binop {lhs rhs : Operand} {op : BinOp} {e : Expr} (h : binop lhs op rhs = .ok e)
    (hop : op ≠ .pow) :
    e.render = "(" ++ lhs.toExpr.render ++ " " ++ op.symbol ++ " " ++ rhs.toExpr.render ++ ")" := by
  obtain ⟨-, rfl⟩ := binop_eq_ok.1 h
  have hpow : (op == .pow) = false := beq_eq_false_iff_ne.2 hop
  rw [render_binary, hpow]
  simp [bracketIf]

/-- The raw text of every binary operation follows the bracketing law of `render_binary`; for an
operation built by `binop` other than `^`, that is its operands' raw texts around the operator,
in brackets. -/
theorem raw_binary_brackets :
    (∀ (op : BinOp) (lhs rhs : Expr) (flag : Bool) (matching : Option Matching),
      (Expr.binary op lhs rhs flag matching).render =
        "(" ++ bracketIf (op == .pow && lhs.isNegativeNumber) lhs.render ++ " " ++ op.symbol ++
          (if flag then " bool" else "") ++
          (match matching with
            | none => ""
            | some m => " " ++ m.kind.keyword ++ "(" ++ ",".intercalate m.labels ++ ")" ++
              match m.group with
              | none => ""
              | some g => " " ++ g.side.keyword ++ "(" ++ ",".intercalate g.labels ++ ")") ++
          " " ++ bracketIf (op == .pow && rhs.isNegativeNumber) rhs.render ++ ")") ∧
    (∀ (lhs : Operand) (op : BinOp) (rhs : Operand) (e : Expr), binop lhs op rhs = .ok e →
      op ≠ .pow →
      e.render = "(" ++ lhs.toExpr.render ++ " " ++ op.symbol ++ " " ++ rhs.toExpr.render ++ ")") :=
  ⟨render_binary, fun _ _ _ _ h hop => render_binop h hop⟩

/-- The difference of two selectors is written `(a - b)`. -/
theorem selector_difference_raw_text :
    binop (.expr (.selector ⟨"a", none⟩)) .sub (.expr (.selector ⟨"b", none⟩)) =
        .ok (.binary .sub (.selector ⟨"a", none⟩) (.selector ⟨"b", none⟩) false none) ∧
      BinOp.sub ≠ .pow ∧
      (Expr.binary .sub (.selector ⟨"a", none⟩) (.selector ⟨"b", none⟩) false none).render =
        "(a - b)" := by
  have hbuilt : binop (.expr (.selector ⟨"a", none⟩)) .sub (.expr (.selector ⟨"b", none⟩)) =
      .ok (.binary .sub (.selector ⟨"a", none⟩) (.selector ⟨"b", none⟩) false none) := rfl
  exact ⟨hbuilt, by decide, (raw_binary_brackets.2 _ _ _ _ hbuilt (by decide)).trans rfl⟩

end PromRules.Query
