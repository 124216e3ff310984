import PromRules.Proofs.WellFormed

/-!
Which operands a binary operator takes.

`binop` decides on the value kinds of its operands: no range vector on either side, and a bare
number on the left only for an arithmetic operator. The value kind of an expression looks
through its chain of `offset` and `@` modifiers, and of the nodes the builder makes only two
give range vectors, since no function of the table returns one: a sliced selector and a
subquery. So a built expression is a range vector exactly when it is a window, one of those two
under any chain of modifiers (`Built.kind_eq_range_iff`). Main statement: `binop_dispatch`, the
whole rule over windows, with the node built on success, the refusal otherwise, and the kind of
the node.
-/

namespace PromRules.Query

/-- The node a chain of `offset` and `@` modifiers stands around. -/
def Expr.core : Expr → Expr
  | .derived inner _ => inner.core
  | e => e

/-- Whether an expression is a window of samples: a sliced selector or a subquery, under any
chain of modifiers. -/
def Expr.isWindow (e : Expr) : Bool :=
  match e.core with
  | .range _ _ => true
  | .subquery _ _ _ => true
  | _ => false

/-- Whether an operand is a window; a bare number is none. -/
def Operand.isWindow : Operand → Bool
  | .number _ => false
  | .expr e => e.isWindow

@[simp] theorem Expr.isWindow_derived (inner : Expr) (m : Modifier) :
    (Expr.derived inner m).isWindow = inner.isWindow := rfl

/-- A binary operation is a scalar or an instant vector, never a range vector, and no window
either. -/
theorem Expr.kind_binary_eq_range_iff (op : BinOp) (lhs rhs : Expr) (flag : Bool)
    (matching : Option Matching) :
    (Expr.binary op lhs rhs flag matching).kind = .range ↔
      (Expr.binary op lhs rhs flag matching).isWindow = true := by
  simp only [Expr.kind, Expr.isWindow, Expr.core]
  split <;> simp

/-- No function of the table returns a range vector. -/
theorem functions_returns_ne_range : ∀ spec ∈ functions, spec.returns ≠ .range := by
  have hall : (functions.all fun spec => spec.returns != .range) = true := by decide
  intro spec hspec
  simpa using List.all_eq_true.1 hall spec hspec

/-- A built expression is a range vector exactly when it is a window. -/
theorem Built.kind_eq_range_iff {e : Expr} (h : Built e) : e.kind = .range ↔ e.isWindow = true := by
  induction h with
  | metric h =>
    obtain ⟨-, rfl⟩ := metric_eq_ok.1 h
    simp [Expr.kind, Expr.isWindow, Expr.core]
  | literal value => simp [Query.literal, Expr.kind, Expr.isWindow, Expr.core]
  | binop _ _ h =>
    obtain ⟨-, rfl⟩ := binop_eq_ok.1 h
    exact Expr.kind_binary_eq_range_iff ..
  | withLabels _ h =>
    obtain ⟨sel, ms, -, -, rfl⟩ := Expr.withLabels_eq_ok.1 h
    simp [Expr.kind, Expr.isWindow, Expr.core]
  | sliced _ h =>
    obtain ⟨sel, -, -, rfl⟩ := Expr.sliced_eq_ok.1 h
    simp [Expr.kind, Expr.isWindow, Expr.core]
  | subqueried _ h =>
    obtain ⟨-, -, -, rfl⟩ := Expr.subqueried_eq_ok.1 h
    simp [Expr.kind, Expr.isWindow, Expr.core]
  -- a modifier keeps both the kind and the core of what it modifies
  | offsetBy _ h ih =>
    obtain ⟨-, -, rfl⟩ := Expr.withModifier_eq_ok.1 h
    simpa [Expr.kind] using ih
  | atTime _ h ih =>
    obtain ⟨-, -, rfl⟩ := Expr.withModifier_eq_ok.1 h
    simpa [Expr.kind] using ih
  | atExpr _ _ h ih =>
    obtain ⟨-, -, -, rfl⟩ := Expr.withModifier_eq_ok.1 (Expr.atExpr_eq_ok.1 h).2
    simpa [Expr.kind] using ih
  | byLabels _ h =>
    obtain ⟨name, args, -, rfl⟩ := Expr.withGrouping_eq_ok.1 (checkLabels_bind_eq_ok.1 h).2
    simp [Expr.kind, Expr.isWindow, Expr.core]
  | withoutLabels _ h =>
    obtain ⟨name, args, -, rfl⟩ := Expr.withGrouping_eq_ok.1 (checkLabels_bind_eq_ok.1 h).2
    simp [Expr.kind, Expr.isWindow, Expr.core]
  | on _ h =>
    obtain ⟨op, lhs, rhs, flag, -, rfl⟩ := Expr.withMatching_eq_ok.1 (checkLabels_bind_eq_ok.1 h).2
    exact Expr.kind_binary_eq_range_iff ..
  | ignoring _ h =>
    obtain ⟨op, lhs, rhs, flag, -, rfl⟩ := Expr.withMatching_eq_ok.1 (checkLabels_bind_eq_ok.1 h).2
    exact Expr.kind_binary_eq_range_iff ..
  | groupLeft _ h =>
    obtain ⟨op, lhs, rhs, flag, kind, ls, -, -, rfl⟩ :=
      Expr.withGroup_eq_ok.1 (checkLabels_bind_eq_ok.1 h).2
    exact Expr.kind_binary_eq_range_iff ..
  | groupRight _ h =>
    obtain ⟨op, lhs, rhs, flag, kind, ls, -, -, rfl⟩ :=
      Expr.withGroup_eq_ok.1 (checkLabels_bind_eq_ok.1 h).2
    exact Expr.kind_binary_eq_range_iff ..
  | asBool _ h =>
    obtain ⟨op, lhs, rhs, matching, -, -, rfl⟩ := Expr.asBool_eq_ok.1 h
    exact Expr.kind_binary_eq_range_iff ..
  | call _ h =>
    -- a call gives what its function returns, and no function returns a range vector
    obtain ⟨spec, hspec, rfl | rfl⟩ := call_eq_ok_of_mem h
    · simp [Expr.kind, Expr.isWindow, Expr.core]
    · simp [Expr.kind, Expr.isWindow, Expr.core, functions_returns_ne_range spec hspec]

/-- A bare number or a built expression is a range vector exactly when it is a window. -/
theorem Operand.kind_eq_range_iff {o : Operand} (h : ∀ x, o = .expr x → Built x) :
    o.kind = .range ↔ o.isWindow = true := by
  cases o with
  | number v => simp [Operand.kind, Operand.isWindow]
  | expr e => exact (h e rfl).kind_eq_range_iff

theorem BinOp.admits_eq_true_iff {op : BinOp} {lhs rhs : Operand} :
    op.admits lhs rhs = true ↔
      lhs.kind ≠ .range ∧ rhs.kind ≠ .range ∧ (op.category = .arithmetic ∨ lhs.isNumber = false) := by
  simp [BinOp.admits, and_assoc]

/-- On a bare number or a built expression on each side, an operator builds its node exactly
when neither side is a window (a range vector, by its value kind) and, unless it is arithmetic,
the left side is no bare number: the node takes the operands as they are, a bare number as a
literal, with neither `bool` nor a matching clause, and it is a scalar when both sides are
scalars and an instant vector otherwise. Any other pair is refused with the operator's symbol and
the two operands' kinds of node, `float` for a bare number. -/
theorem binop_dispatch {lhs rhs : Operand} (hl : ∀ x, lhs = .expr x → Built x)
    (hr : ∀ x, rhs = .expr x → Built x) (op : BinOp) :
    binop lhs op rhs =
        (if lhs.isWindow = false ∧ rhs.isWindow = false ∧
            (op.category = .arithmetic ∨ lhs.isNumber = false) then
          .ok (.binary op lhs.toExpr rhs.toExpr false none)
        else .error (.operatorNotSupported op.symbol lhs.variantName rhs.variantName)) ∧
      (Expr.binary op lhs.toExpr rhs.toExpr false none).kind =
        (if lhs.kind = .scalar ∧ rhs.kind = .scalar then .scalar else .instant) ∧
      (lhs.kind = .range ↔ lhs.isWindow = true) ∧ (rhs.kind = .range ↔ rhs.isWindow = true) := by
  have hcond : op.admits lhs rhs = true ↔
      lhs.isWindow = false ∧ rhs.isWindow = false ∧
        (op.category = .arithmetic ∨ lhs.isNumber = false) := by
    rw [BinOp.admits_eq_true_iff, Ne, Ne, Operand.kind_eq_range_iff hl,
      Operand.kind_eq_range_iff hr, Bool.not_eq_true, Bool.not_eq_true]
  refine ⟨?_, by simp only [Expr.kind, Operand.kind_toExpr], Operand.kind_eq_range_iff hl,
    Operand.kind_eq_range_iff hr⟩
  unfold binop
  by_cases hadmits : op.admits lhs rhs = true
  · rw [if_pos hadmits, if_pos (hcond.1 hadmits)]
  · rw [if_neg hadmits, if_neg (mt hcond.2 hadmits)]

/-- A selector sliced over a minute and shifted back a minute is still a window, so it cannot
be added to a number. -/
theorem shifted_window_refused :
    Built (.derived (.range ⟨"up", none⟩ Duration.minute) (.offset Duration.minute)) ∧
      binop (.expr (.derived (.range ⟨"up", none⟩ Duration.minute) (.offset Duration.minute)))
          .add (.number (Binary64.ofFields false 1023 0)) =
        .error (.operatorNotSupported "+" "DerivedInstantVector" "float") := by
  have hbuilt : Built (.derived (.range ⟨"up", none⟩ Duration.minute) (.offset Duration.minute)) :=
    .offsetBy (.sliced (.metric (show metric "up" = .ok (.selector ⟨"up", none⟩) from rfl))
      (show Expr.sliced (.selector ⟨"up", none⟩) Duration.minute = .ok _ from rfl)) rfl
  refine ⟨hbuilt, ?_⟩
  rw [(binop_dispatch (fun x hx => Operand.expr.inj hx ▸ hbuilt) (fun _ hx => by cases hx) .add).1]
  rfl

end PromRules.Query
