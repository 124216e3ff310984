import PromRules.Proofs.QueryText

/-!
The raw text and the query text agree away from binary operations.

The two styles of `Expr.renderIn` differ in one place: in the raw text a binary operation
carries brackets of its own and binds as an atom, in the query text it binds as its operator
does. On a node that is not a binary operation both styles take the node's own binding strength
(`Expr.bindingIn_of_hasBinary_false`), so on a tree with no binary operation anywhere, call
arguments, subqueries and `@` times included, every bracket decision is the same and the walker
writes one text in both styles (`Expr.renderIn_raw_eq_minimal`). The query text of a built tree
is its minimal text, so on such a built tree the raw text is the query text
(`render_eq_format_of_binary_free`).
-/

namespace PromRules.Query

mutual

/-- Whether an expression holds a binary operation anywhere: at its root, under its modifiers
and in its `@` time, in its subquery, or among its arguments. -/
def Expr.hasBinary : Expr → Bool
  | .literal _ => false
  | .selector _ => false
  | .derived inner m => inner.hasBinary || m.hasBinary
  | .range _ _ => false
  | .subquery inner _ _ => inner.hasBinary
  | .call _ args _ => Arg.anyBinary args
  | .binary .. => true
  | .aggregate _ args _ => Arg.anyBinary args

/-- Whether a modifier's `@` time holds a binary operation. -/
def Modifier.hasBinary : Modifier → Bool
  | .atExpr target => target.hasBinary
  | _ => false

/-- Whether an argument holds a binary operation. -/
def Arg.hasBinary : Arg → Bool
  | .expr e => e.hasBinary
  | .text _ => false

/-- Whether some argument of a list holds a binary operation. -/
def Arg.anyBinary : List Arg → Bool
  | [] => false
  | a :: rest => a.hasBinary || Arg.anyBinary rest

end

/-- Away from a binary operation, both styles bind a node as tightly as its own precedence. -/
theorem Expr.bindingIn_of_hasBinary_false {x : Expr} (h : x.hasBinary = false) (style : Style) :
    x.bindingIn style = x.precedence := by
  cases x with
  | binary => simp [Expr.hasBinary] at h
  | _ => cases style <;> rfl

/-- Away from a binary operation, both styles bracket a node alike. -/
theorem needsBrackets_of_hasBinary_false {x : Expr} (h : x.hasBinary = false)
    (required : Precedence) (strictly : Bool) :
    needsBrackets .raw x required strictly = needsBrackets .minimal x required strictly := by
  simp only [needsBrackets, Expr.bindingIn_of_hasBinary_false h]

mutual

/-- A tree with no binary operation has one text in both styles. -/
theorem Expr.renderIn_raw_eq_minimal : (x : Expr) → x.hasBinary = false →
    x.renderIn .raw = x.renderIn .minimal
  | .literal _, _ => rfl
  | .selector _, _ => rfl
  | .derived inner m, h => by
    have hparts : inner.hasBinary = false ∧ m.hasBinary = false := by
      simpa [Expr.hasBinary] using h
    simp only [Expr.renderIn, needsBrackets_of_hasBinary_false hparts.1,
      inner.renderIn_raw_eq_minimal hparts.1, m.renderIn_raw_eq_minimal hparts.2]
  | .range _ _, _ => rfl
  | .subquery inner _ _, h => by
    have hinner : inner.hasBinary = false := h
    simp only [Expr.renderIn, needsBrackets_of_hasBinary_false hinner,
      inner.renderIn_raw_eq_minimal hinner]
  | .call _ args _, h => by
    simp only [Expr.renderIn, Arg.renderListIn_raw_eq_minimal args h]
  | .binary .., h => by simp [Expr.hasBinary] at h
  | .aggregate _ args _, h => by
    simp only [Expr.renderIn, Arg.renderListIn_raw_eq_minimal args h]

/-- A modifier whose `@` time has no binary operation has one text in both styles. -/
theorem Modifier.renderIn_raw_eq_minimal : (m : Modifier) → m.hasBinary = false →
    m.renderIn .raw = m.renderIn .minimal
  | .offset _, _ => rfl
  | .atTime _, _ => rfl
  | .atExpr target, h => by
    have htarget : target.hasBinary = false := h
    simp only [Modifier.renderIn, needsBrackets_of_hasBinary_false htarget,
      target.renderIn_raw_eq_minimal htarget]

theorem Arg.renderListIn_raw_eq_minimal : (args : List Arg) → Arg.anyBinary args = false →
    Arg.renderListIn .raw args = Arg.renderListIn .minimal args
  | [], _ => rfl
  | [a], h => by
    have ha : a.hasBinary = false := by simpa [Arg.anyBinary] using h
    simp only [Arg.renderListIn, a.renderIn_raw_eq_minimal ha]
  | a :: b :: rest, h => by
    have hparts : a.hasBinary = false ∧ Arg.anyBinary (b :: rest) = false := by
      simpa [Arg.anyBinary] using h
    simp only [Arg.renderListIn, a.renderIn_raw_eq_minimal hparts.1,
      Arg.renderListIn_raw_eq_minimal (b :: rest) hparts.2]

theorem Arg.renderIn_raw_eq_minimal : (a : Arg) → a.hasBinary = false →
    a.renderIn .raw = a.renderIn .minimal
  | .expr e, h => by
    have he : e.hasBinary = false := h
    simp only [Arg.renderIn, needsBrackets_of_hasBinary_false he, e.renderIn_raw_eq_minimal he]
  | .text _, _ => rfl

end

/-- A built expression with no binary operation anywhere has its query text as its raw text. -/
theorem render_eq_format_of_binary_free {e : Expr} (he : Built e) (hfree : e.hasBinary = false) :
    e.render = e.format := by
  rw [he.format_eq]
  exact e.renderIn_raw_eq_minimal hfree

/-- The rate of a labelled selector over a minute, shifted back a minute, is written the same
way in both styles. -/
theorem shifted_rate_one_text :
    Built (.derived (.call "rate" [.expr (.range ⟨"http_requests_total", some [⟨"code", "5xx"⟩]⟩
        Duration.minute)] .instant) (.offset Duration.minute)) ∧
      (Expr.derived (.call "rate" [.expr (.range ⟨"http_requests_total", some [⟨"code", "5xx"⟩]⟩
        Duration.minute)] .instant) (.offset Duration.minute)).hasBinary = false ∧
      (Expr.derived (.call "rate" [.expr (.range ⟨"http_requests_total", some [⟨"code", "5xx"⟩]⟩
        Duration.minute)] .instant) (.offset Duration.minute)).render =
      (Expr.derived (.call "rate" [.expr (.range ⟨"http_requests_total", some [⟨"code", "5xx"⟩]⟩
        Duration.minute)] .instant) (.offset Duration.minute)).format := by
  have hselector : Built (.selector ⟨"http_requests_total", none⟩) :=
    .metric (show metric "http_requests_total" = .ok (.selector ⟨"http_requests_total", none⟩)
      from rfl)
  have hlabelled : Built (.selector ⟨"http_requests_total", some [⟨"code", "5xx"⟩]⟩) :=
    .withLabels hselector (show Expr.withLabels (.selector ⟨"http_requests_total", none⟩)
      [("code", "5xx")] = .ok _ from rfl)
  have hrange : Built (.range ⟨"http_requests_total", some [⟨"code", "5xx"⟩]⟩ Duration.minute) :=
    .sliced hlabelled (show Expr.sliced (.selector ⟨"http_requests_total",
      some [⟨"code", "5xx"⟩]⟩) Duration.minute = .ok _ from rfl)
  have hcall : Built (.call "rate" [.expr (.range ⟨"http_requests_total",
      some [⟨"code", "5xx"⟩]⟩ Duration.minute)] .instant) :=
    .call (fun x hx => by simp only [List.mem_singleton, CallArg.expr.injEq] at hx; exact hx ▸ hrange)
      (show call "rate" [.expr (.range ⟨"http_requests_total", some [⟨"code", "5xx"⟩]⟩
        Duration.minute)] = .ok _ from rfl)
  have hbuilt : Built (.derived (.call "rate" [.expr (.range ⟨"http_requests_total",
      some [⟨"code", "5xx"⟩]⟩ Duration.minute)] .instant) (.offset Duration.minute)) :=
    .offsetBy hcall (show Expr.offsetBy (.call "rate" [.expr (.range ⟨"http_requests_total",
      some [⟨"code", "5xx"⟩]⟩ Duration.minute)] .instant) Duration.minute = .ok _ from rfl)
  have hfree : (Expr.derived (.call "rate" [.expr (.range ⟨"http_requests_total",
      some [⟨"code", "5xx"⟩]⟩ Duration.minute)] .instant) (.offset Duration.minute)).hasBinary =
      false := rfl
  exact ⟨hbuilt, hfree, render_eq_format_of_binary_free hbuilt hfree⟩

end PromRules.Query
