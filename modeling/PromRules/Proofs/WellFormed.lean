import PromRules.Proofs.QueryBuild

/-!
Well-formed query expressions.

`Expr.WellFormed` says what the checked operations promise of every tree, at every node:

* a selector names a metric and its matchers carry distinct label names, and every label of a
  grouping or matching clause is a label name;
* no binary operation takes a range vector, `bool` stands only on a comparison, and a group
  clause, which lives inside a matching clause, never stands on a set operator;
* a modifier never wraps a scalar, no keyword appears twice along a chain of modifiers, and the
  time of `@` is never a range vector;
* windows and subquery steps are positive, and a subquery runs over an instant vector.

`Built` is the closure of the operations: every tree that some sequence of successful calls
makes from names, numbers and strings. Main statement: every built tree is well-formed
(`wellFormed_of_built`), assembled from one preservation lemma per operation.
-/

namespace PromRules.Query

/-- Matchers whose names are label names, no name twice. -/
def MatchersWellFormed (ms : List Matcher) : Prop :=
  (∀ n ∈ ms.map Matcher.name, isLabelName n = true) ∧ (ms.map Matcher.name).Nodup

/-- A selector that names a metric, with well-formed matchers if it has any. -/
def Selector.WellFormed (sel : Selector) : Prop :=
  isMetricName sel.name = true ∧ MatchersWellFormed (sel.matchers.getD [])

/-- The matching clause of an operator: label names only, and a group clause only when the
operator is not a set operator. -/
def Matching.WellFormed (op : BinOp) (m : Matching) : Prop :=
  (∀ l ∈ m.labels, isLabelName l = true) ∧
    ∀ g, m.group = some g → (∀ l ∈ g.labels, isLabelName l = true) ∧ op.category ≠ .set

/-- The keywords of the modifiers directly around an expression's core, outermost first. -/
def Expr.modifierChain : Expr → List String
  | .derived inner m => m.keyword :: inner.modifierChain
  | _ => []

mutual

/-- Well-formed expressions, node by node. -/
def Expr.WellFormed : Expr → Prop
  | .literal _ => True
  | .selector sel => sel.WellFormed
  | .derived inner m =>
    inner.kind ≠ .scalar ∧ (m.keyword :: inner.modifierChain).Nodup ∧ inner.WellFormed ∧
      m.WellFormed
  | .range sel width => sel.WellFormed ∧ 0 < width.millis
  | .subquery inner width step =>
    inner.kind = .instant ∧ 0 < width.millis ∧ (∀ s, step = some s → 0 < s.millis) ∧
      inner.WellFormed
  | .call _ args _ => Arg.AllWellFormed args
  | .binary op lhs rhs flag matching =>
    lhs.kind ≠ .range ∧ rhs.kind ≠ .range ∧ (flag = true → op.category = .comparison) ∧
      (∀ m, matching = some m → m.WellFormed op) ∧ lhs.WellFormed ∧ rhs.WellFormed
  | .aggregate _ args grouping =>
    Arg.AllWellFormed args ∧ ∀ g, grouping = some g → ∀ l ∈ g.labels, isLabelName l = true

/-- A modifier is well-formed when its `@` time, if it is an expression, is one and is not a
range vector. -/
def Modifier.WellFormed : Modifier → Prop
  | .offset _ => True
  | .atTime _ => True
  | .atExpr target => target.kind ≠ .range ∧ target.WellFormed

/-- An argument is well-formed when it is a string or a well-formed expression. -/
def Arg.WellFormed : Arg → Prop
  | .expr e => e.WellFormed
  | .text _ => True

/-- Every argument of a list is well-formed. -/
def Arg.AllWellFormed : List Arg → Prop
  | [] => True
  | a :: rest => a.WellFormed ∧ Arg.AllWellFormed rest

end

/-- The trees the checked operations build: a name or a number to start with, then any
successful operation on trees already built. A bare number among the operands of a binary
operation or the arguments of a call needs nothing. -/
inductive Built : Expr → Prop where
  | metric {name : String} {e : Expr} : metric name = .ok e → Built e
  | literal (value : Binary64) : Built (literal value)
  | binop {lhs rhs : Operand} {op : BinOp} {e : Expr} :
      (∀ x, lhs = .expr x → Built x) → (∀ x, rhs = .expr x → Built x) →
      binop lhs op rhs = .ok e → Built e
  | withLabels {e e' : Expr} {pairs : List (String × String)} :
      Built e → e.withLabels pairs = .ok e' → Built e'
  | sliced {e e' : Expr} {width : Duration} : Built e → e.sliced width = .ok e' → Built e'
  | subqueried {e e' : Expr} {width : Duration} {step : Option Duration} :
      Built e → e.subqueried width step = .ok e' → Built e'
  | offsetBy {e e' : Expr} {shift : Duration} : Built e → e.offsetBy shift = .ok e' → Built e'
  | atTime {e e' : Expr} {seconds : Binary64} : Built e → e.atTime seconds = .ok e' → Built e'
  | atExpr {e target e' : Expr} : Built e → Built target → e.atExpr target = .ok e' → Built e'
  | byLabels {e e' : Expr} {labels : List String} :
      Built e → e.byLabels labels = .ok e' → Built e'
  | withoutLabels {e e' : Expr} {labels : List String} :
      Built e → e.withoutLabels labels = .ok e' → Built e'
  | on {e e' : Expr} {labels : List String} : Built e → e.on labels = .ok e' → Built e'
  | ignoring {e e' : Expr} {labels : List String} :
      Built e → e.ignoring labels = .ok e' → Built e'
  | groupLeft {e e' : Expr} {labels : List String} :
      Built e → e.groupLeft labels = .ok e' → Built e'
  | groupRight {e e' : Expr} {labels : List String} :
      Built e → e.groupRight labels = .ok e' → Built e'
  | asBool {e e' : Expr} : Built e → e.asBool = .ok e' → Built e'
  | call {name : String} {args : List CallArg} {e : Expr} :
      (∀ x, CallArg.expr x ∈ args → Built x) → call name args = .ok e → Built e

/-! ### Pieces of a well-formed tree -/

theorem Arg.allWellFormed_iff {args : List Arg} :
    Arg.AllWellFormed args ↔ ∀ a ∈ args, a.WellFormed := by
  induction args with
  | nil => simp [Arg.AllWellFormed]
  | cons a rest ih => simp [Arg.AllWellFormed, ih]

theorem Expr.chainHas_eq_true_iff (keyword : String) (e : Expr) :
    e.chainHas keyword = true ↔ keyword ∈ e.modifierChain := by
  fun_induction Expr.chainHas keyword e with
  | case1 inner m ih =>
    simp only [modifierChain, Bool.or_eq_true, beq_iff_eq, ih, List.mem_cons]
    exact or_congr_left eq_comm
  | case2 e hderived =>
    cases e <;> simp_all [modifierChain]

theorem matchersWellFormed_setMatcher {ms : List Matcher} {name : String}
    (hms : MatchersWellFormed ms) (hname : isLabelName name = true) (value : String) :
    MatchersWellFormed (setMatcher ms name value) := by
  obtain ⟨hvalid, hnodup⟩ := hms
  unfold MatchersWellFormed
  rw [map_name_setMatcher]
  split
  · exact ⟨hvalid, hnodup⟩
  · rename_i hfresh
    refine ⟨?_, List.nodup_append.2 ⟨hnodup, by simp, ?_⟩⟩
    · intro n hn
      rcases List.mem_append.1 hn with hn | hn
      · exact hvalid n hn
      · rw [List.mem_singleton.1 hn]
        exact hname
    · intro a ha b hb
      rw [List.mem_singleton.1 hb]
      rintro rfl
      exact hfresh ha

theorem matchersWellFormed_setMatchers {ms ms' : List Matcher}
    {pairs : List (String × String)} (hms : MatchersWellFormed ms)
    (h : setMatchers ms pairs = .ok ms') : MatchersWellFormed ms' := by
  induction pairs generalizing ms with
  | nil =>
    cases h
    exact hms
  | cons pair rest ih =>
    obtain ⟨name, value⟩ := pair
    obtain ⟨hname, hrest⟩ := setMatchers_cons.1 h
    exact ih (matchersWellFormed_setMatcher hms hname value) hrest

/-! ### One lemma per operation -/

theorem wellFormed_of_metric {name : String} {e : Expr} (h : metric name = .ok e) :
    e.WellFormed := by
  obtain ⟨hname, rfl⟩ := metric_eq_ok.1 h
  exact ⟨hname, by simp [MatchersWellFormed]⟩

theorem Operand.wellFormed_toExpr {o : Operand} (ho : ∀ x, o = .expr x → x.WellFormed) :
    o.toExpr.WellFormed := by
  cases o with
  | number v => trivial
  | expr x => exact ho x rfl

theorem wellFormed_of_binop {lhs rhs : Operand} {op : BinOp} {e : Expr}
    (hl : ∀ x, lhs = .expr x → x.WellFormed) (hr : ∀ x, rhs = .expr x → x.WellFormed)
    (h : binop lhs op rhs = .ok e) : e.WellFormed := by
  obtain ⟨hadmits, rfl⟩ := binop_eq_ok.1 h
  simp only [BinOp.admits, Bool.and_eq_true, bne_iff_ne, ne_eq] at hadmits
  obtain ⟨⟨hlkind, hrkind⟩, -⟩ := hadmits
  refine ⟨?_, ?_, by simp, by simp, Operand.wellFormed_toExpr hl, Operand.wellFormed_toExpr hr⟩
  · rw [Operand.kind_toExpr]
    exact hlkind
  · rw [Operand.kind_toExpr]
    exact hrkind

namespace Expr

theorem WellFormed.withLabels {e e' : Expr} {pairs : List (String × String)}
    (he : e.WellFormed) (h : e.withLabels pairs = .ok e') : e'.WellFormed := by
  obtain ⟨sel, ms, rfl, hms, rfl⟩ := withLabels_eq_ok.1 h
  obtain ⟨hname, hmatchers⟩ := he
  exact ⟨hname, matchersWellFormed_setMatchers hmatchers hms⟩

theorem WellFormed.sliced {e e' : Expr} {width : Duration} (he : e.WellFormed)
    (h : e.sliced width = .ok e') : e'.WellFormed := by
  obtain ⟨sel, rfl, hwidth, rfl⟩ := sliced_eq_ok.1 h
  exact ⟨he, hwidth⟩

theorem WellFormed.subqueried {e e' : Expr} {width : Duration} {step : Option Duration}
    (he : e.WellFormed) (h : e.subqueried width step = .ok e') : e'.WellFormed := by
  obtain ⟨hkind, hwidth, hstep, rfl⟩ := subqueried_eq_ok.1 h
  exact ⟨hkind, hwidth, hstep, he⟩

/-- A modifier goes only around a tree that is not a scalar and whose chain lacks its keyword,
so the chain it heads repeats no keyword. -/
theorem WellFormed.withModifier {e e' : Expr} {m : Modifier} (he : e.WellFormed)
    (hm : m.WellFormed) (h : e.withModifier m = .ok e') : e'.WellFormed := by
  obtain ⟨hkind, hchain, rfl⟩ := withModifier_eq_ok.1 h
  have hfresh : m.keyword ∉ e.modifierChain := by
    rw [← chainHas_eq_true_iff, hchain]
    simp
  have hnodup : e.modifierChain.Nodup := by
    cases e with
    | derived inner m' => exact he.2.1
    | _ => simp [modifierChain]
  exact ⟨hkind, List.nodup_cons.2 ⟨hfresh, hnodup⟩, he, hm⟩

theorem WellFormed.offsetBy {e e' : Expr} {shift : Duration} (he : e.WellFormed)
    (h : e.offsetBy shift = .ok e') : e'.WellFormed :=
  he.withModifier (by trivial) h

theorem WellFormed.atTime {e e' : Expr} {seconds : Binary64} (he : e.WellFormed)
    (h : e.atTime seconds = .ok e') : e'.WellFormed :=
  he.withModifier (by trivial) h

theorem WellFormed.atExpr {e target e' : Expr} (he : e.WellFormed) (htarget : target.WellFormed)
    (h : e.atExpr target = .ok e') : e'.WellFormed := by
  obtain ⟨hkind, h⟩ := atExpr_eq_ok.1 h
  exact he.withModifier (by exact ⟨hkind, htarget⟩) h

theorem WellFormed.withGrouping {e e' : Expr} {kind : GroupingKind} {labels : List String}
    (he : e.WellFormed) (hlabels : ∀ l ∈ labels, isLabelName l = true)
    (h : e.withGrouping kind labels = .ok e') : e'.WellFormed := by
  obtain ⟨name, args, rfl, rfl⟩ := withGrouping_eq_ok.1 h
  refine ⟨he.1, ?_⟩
  rintro g ⟨⟩
  exact hlabels

theorem WellFormed.byLabels {e e' : Expr} {labels : List String} (he : e.WellFormed)
    (h : e.byLabels labels = .ok e') : e'.WellFormed := by
  obtain ⟨hlabels, h⟩ := checkLabels_bind_eq_ok.1 h
  exact he.withGrouping hlabels h

theorem WellFormed.withoutLabels {e e' : Expr} {labels : List String} (he : e.WellFormed)
    (h : e.withoutLabels labels = .ok e') : e'.WellFormed := by
  obtain ⟨hlabels, h⟩ := checkLabels_bind_eq_ok.1 h
  exact he.withGrouping hlabels h

theorem WellFormed.withMatching {e e' : Expr} {kind : MatchingKind} {labels : List String}
    (he : e.WellFormed) (hlabels : ∀ l ∈ labels, isLabelName l = true)
    (h : e.withMatching kind labels = .ok e') : e'.WellFormed := by
  obtain ⟨op, lhs, rhs, flag, rfl, rfl⟩ := withMatching_eq_ok.1 h
  obtain ⟨hl, hr, hflag, -, hlhs, hrhs⟩ := he
  refine ⟨hl, hr, hflag, ?_, hlhs, hrhs⟩
  rintro m ⟨⟩
  exact ⟨hlabels, by simp⟩

theorem WellFormed.on {e e' : Expr} {labels : List String} (he : e.WellFormed)
    (h : e.on labels = .ok e') : e'.WellFormed := by
  obtain ⟨hlabels, h⟩ := checkLabels_bind_eq_ok.1 h
  exact he.withMatching hlabels h

theorem WellFormed.ignoring {e e' : Expr} {labels : List String} (he : e.WellFormed)
    (h : e.ignoring labels = .ok e') : e'.WellFormed := by
  obtain ⟨hlabels, h⟩ := checkLabels_bind_eq_ok.1 h
  exact he.withMatching hlabels h

/-- A group clause goes only into a matching clause that has none, on an operator that is not
a set operator. -/
theorem WellFormed.withGroup {e e' : Expr} {side : GroupSide} {labels : List String}
    (he : e.WellFormed) (hlabels : ∀ l ∈ labels, isLabelName l = true)
    (h : e.withGroup side labels = .ok e') : e'.WellFormed := by
  obtain ⟨op, lhs, rhs, flag, kind, ls, rfl, hset, rfl⟩ := withGroup_eq_ok.1 h
  obtain ⟨hl, hr, hflag, hmatching, hlhs, hrhs⟩ := he
  have hls : ∀ l ∈ ls, isLabelName l = true := (hmatching _ rfl).1
  refine ⟨hl, hr, hflag, ?_, hlhs, hrhs⟩
  rintro m ⟨⟩
  refine ⟨hls, ?_⟩
  rintro g ⟨⟩
  exact ⟨hlabels, hset⟩

theorem WellFormed.groupLeft {e e' : Expr} {labels : List String} (he : e.WellFormed)
    (h : e.groupLeft labels = .ok e') : e'.WellFormed := by
  obtain ⟨hlabels, h⟩ := checkLabels_bind_eq_ok.1 h
  exact he.withGroup hlabels h

theorem WellFormed.groupRight {e e' : Expr} {labels : List String} (he : e.WellFormed)
    (h : e.groupRight labels = .ok e') : e'.WellFormed := by
  obtain ⟨hlabels, h⟩ := checkLabels_bind_eq_ok.1 h
  exact he.withGroup hlabels h

theorem WellFormed.asBool {e e' : Expr} (he : e.WellFormed) (h : e.asBool = .ok e') :
    e'.WellFormed := by
  obtain ⟨op, lhs, rhs, matching, rfl, hcmp, rfl⟩ := asBool_eq_ok.1 h
  obtain ⟨hl, hr, -, hmatching, hlhs, hrhs⟩ := he
  exact ⟨hl, hr, fun _ => hcmp, hmatching, hlhs, hrhs⟩

end Expr

/-- A call stores its arguments with numbers as literals, so it is well-formed when the
expressions among them are. -/
theorem wellFormed_of_call {name : String} {args : List CallArg} {e : Expr}
    (hargs : ∀ x, CallArg.expr x ∈ args → x.WellFormed) (h : call name args = .ok e) :
    e.WellFormed := by
  have hstored : Arg.AllWellFormed (args.map CallArg.toArg) := by
    rw [Arg.allWellFormed_iff]
    intro a ha
    obtain ⟨arg, harg, rfl⟩ := List.mem_map.1 ha
    cases arg with
    | expr x => exact hargs x harg
    | number v => trivial
    | text s => trivial
  obtain ⟨spec, rfl | rfl⟩ := call_eq_ok h
  · exact ⟨hstored, by simp⟩
  · exact hstored

/-- Every tree the checked operations build is well-formed. -/
theorem wellFormed_of_built {e : Expr} (h : Built e) : e.WellFormed := by
  induction h with
  | metric h => exact wellFormed_of_metric h
  | literal value => trivial
  | binop _ _ h ihl ihr => exact wellFormed_of_binop ihl ihr h
  | withLabels _ h ih => exact ih.withLabels h
  | sliced _ h ih => exact ih.sliced h
  | subqueried _ h ih => exact ih.subqueried h
  | offsetBy _ h ih => exact ih.offsetBy h
  | atTime _ h ih => exact ih.atTime h
  | atExpr _ _ h ih ihtarget => exact ih.atExpr ihtarget h
  | byLabels _ h ih => exact ih.byLabels h
  | withoutLabels _ h ih => exact ih.withoutLabels h
  | on _ h ih => exact ih.on h
  | ignoring _ h ih => exact ih.ignoring h
  | groupLeft _ h ih => exact ih.groupLeft h
  | groupRight _ h ih => exact ih.groupRight h
  | asBool _ h ih => exact ih.asBool h
  | call _ h ih => exact wellFormed_of_call ih h

/-- `sum by (job) (rate(http_requests_total{job="api"}[5m])) > bool 0`, built call by call. -/
theorem rate_sum_bool_comparison_wellFormed :
    Built (.binary .gt
      (.aggregate "sum"
        [.expr (.call "rate"
          [.expr (.range ⟨"http_requests_total", some [⟨"job", "api"⟩]⟩ (Duration.ofMinutes 5))]
          .instant)]
        (some ⟨.byLabels, ["job"]⟩))
      (.literal ⟨0⟩) true none) ∧
    Expr.WellFormed (.binary .gt
      (.aggregate "sum"
        [.expr (.call "rate"
          [.expr (.range ⟨"http_requests_total", some [⟨"job", "api"⟩]⟩ (Duration.ofMinutes 5))]
          .instant)]
        (some ⟨.byLabels, ["job"]⟩))
      (.literal ⟨0⟩) true none) := by
  let sel : Expr := .selector ⟨"http_requests_total", none⟩
  let labelled : Expr := .selector ⟨"http_requests_total", some [⟨"job", "api"⟩]⟩
  let window : Expr := .range ⟨"http_requests_total", some [⟨"job", "api"⟩]⟩ (Duration.ofMinutes 5)
  let rate : Expr := .call "rate" [.expr window] .instant
  let total : Expr := .aggregate "sum" [.expr rate] none
  let grouped : Expr := .aggregate "sum" [.expr rate] (some ⟨.byLabels, ["job"]⟩)
  let compared : Expr := .binary .gt grouped (.literal ⟨0⟩) false none
  have hsel : Built sel := .metric (show metric "http_requests_total" = .ok sel from rfl)
  have hlabelled : Built labelled :=
    .withLabels hsel (show sel.withLabels [("job", "api")] = .ok labelled from rfl)
  have hwindow : Built window :=
    .sliced hlabelled (show labelled.sliced (Duration.ofMinutes 5) = .ok window from rfl)
  have hrate : Built rate := by
    refine .call ?_ (show call "rate" [.expr window] = .ok rate from rfl)
    intro x hx
    simp only [List.mem_singleton, CallArg.expr.injEq] at hx
    exact hx ▸ hwindow
  have htotal : Built total := by
    refine .call ?_ (show call "sum" [.expr rate] = .ok total from rfl)
    intro x hx
    simp only [List.mem_singleton, CallArg.expr.injEq] at hx
    exact hx ▸ hrate
  have hgrouped : Built grouped :=
    .byLabels htotal (show total.byLabels ["job"] = .ok grouped from rfl)
  have hcompared : Built compared := by
    refine .binop ?_ ?_ (show binop (.expr grouped) .gt (.number ⟨0⟩) = .ok compared from rfl)
    · rintro x ⟨⟩
      exact hgrouped
    · rintro x ⟨⟩
  have hbuilt : Built (.binary .gt grouped (.literal ⟨0⟩) true none) :=
    .asBool hcompared rfl
  exact ⟨hbuilt, wellFormed_of_built hbuilt⟩

end PromRules.Query
