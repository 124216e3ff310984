import PromRules.Query.Build

/-!
What each checked construction does.

One lemma per operation of `PromRules.Query.Build` says everything a successful call can have
done: which checks passed and which node it built. Later proofs cite these lemmas and never
unfold an operation. The label-taking operations all check their list first and then hand it on
unchanged (`checkLabels_bind_eq_ok`); setting a matcher either keeps the list of names or adds
the new name at the end (`map_name_setMatcher`).
-/

namespace PromRules.Query

/-! ### Checked steps in `Except` -/

theorem bind_eq_ok {ε α β : Type} {x : Except ε α} {f : α → Except ε β} {b : β} :
    (x >>= f) = .ok b ↔ ∃ a, x = .ok a ∧ f a = .ok b := by
  cases x <;> simp [bind, Except.bind]

theorem map_eq_ok {ε α β : Type} {x : Except ε α} {f : α → β} {b : β} :
    x.map f = .ok b ↔ ∃ a, x = .ok a ∧ f a = b := by
  cases x <;> simp [Except.map]

theorem fmap_eq_ok {ε α β : Type} {x : Except ε α} {f : α → β} {b : β} :
    f <$> x = .ok b ↔ ∃ a, x = .ok a ∧ f a = b :=
  map_eq_ok

theorem bind_eq_error {ε α β : Type} {x : Except ε α} {g : α → Except ε β} {err : ε} :
    (x >>= g) = .error err ↔ x = .error err ∨ ∃ a, x = .ok a ∧ g a = .error err := by
  cases x <;> simp [bind, Except.bind]

theorem pure_ne_error {ε α : Type} {a : α} {err : ε} : (pure a : Except ε α) ≠ .error err := by
  simp [pure, Except.pure]

theorem map_eq_error {ε α β : Type} {x : Except ε α} {g : α → β} {err : ε} :
    x.map g = .error err ↔ x = .error err := by
  cases x <;> simp [Except.map]

theorem fmap_eq_error {ε α β : Type} {x : Except ε α} {g : α → β} {err : ε} :
    g <$> x = .error err ↔ x = .error err :=
  map_eq_error

/-- A check that refuses when its condition fails. -/
@[simp] theorem ite_error_eq_ok {ε α : Type} {p : Prop} [Decidable p] {a : Except ε α} {err : ε}
    {b : α} : (if p then a else .error err) = .ok b ↔ p ∧ a = .ok b := by
  by_cases hp : p <;> simp [hp]

/-- A check that refuses when its condition holds. -/
@[simp] theorem ite_error_left_eq_ok {ε α : Type} {p : Prop} [Decidable p] {a : Except ε α}
    {err : ε} {b : α} : (if p then .error err else a) = .ok b ↔ ¬p ∧ a = .ok b := by
  by_cases hp : p <;> simp [hp]

@[simp] theorem checkMetricName_eq_ok {name : String} {u : Unit} :
    checkMetricName name = .ok u ↔ isMetricName name = true := by
  simp [checkMetricName]

@[simp] theorem checkLabelName_eq_ok {name : String} {u : Unit} :
    checkLabelName name = .ok u ↔ isLabelName name = true := by
  simp [checkLabelName]

/-- A label list passes exactly when each of its names is a label name, and it is given back
as it was. -/
theorem checkLabels_eq_ok {labels checked : List String} :
    checkLabels labels = .ok checked ↔
      (∀ l ∈ labels, isLabelName l = true) ∧ labels = checked := by
  induction labels generalizing checked with
  | nil => simp [checkLabels]
  | cons name rest ih =>
    simp only [checkLabels, bind_eq_ok, checkLabelName_eq_ok, ih, List.mem_cons,
      forall_eq_or_imp]
    constructor
    · rintro ⟨_, hname, _, ⟨hrest, rfl⟩, hpure⟩
      exact ⟨⟨hname, hrest⟩, Except.ok.inj hpure⟩
    · rintro ⟨⟨hname, hrest⟩, rfl⟩
      exact ⟨(), hname, rest, ⟨hrest, rfl⟩, rfl⟩

/-- Every operation that takes labels checks them first and passes them on unchanged. -/
theorem checkLabels_bind_eq_ok {labels : List String} {f : List String → Except QueryError Expr}
    {e : Expr} :
    (checkLabels labels >>= f) = .ok e ↔
      (∀ l ∈ labels, isLabelName l = true) ∧ f labels = .ok e := by
  simp only [bind_eq_ok, checkLabels_eq_ok]
  constructor
  · rintro ⟨_, ⟨hl, rfl⟩, h⟩
    exact ⟨hl, h⟩
  · rintro ⟨hl, h⟩
    exact ⟨labels, ⟨hl, rfl⟩, h⟩

theorem metric_eq_ok {name : String} {e : Expr} :
    metric name = .ok e ↔ isMetricName name = true ∧ .selector ⟨name, none⟩ = e := by
  simp only [metric, bind_eq_ok, checkMetricName_eq_ok]
  constructor
  · rintro ⟨_, hname, hpure⟩
    exact ⟨hname, Except.ok.inj hpure⟩
  · rintro ⟨hname, rfl⟩
    exact ⟨(), hname, rfl⟩

theorem Operand.kind_toExpr (o : Operand) : o.toExpr.kind = o.kind := by
  cases o <;> rfl

theorem binop_eq_ok {lhs rhs : Operand} {op : BinOp} {e : Expr} :
    binop lhs op rhs = .ok e ↔
      op.admits lhs rhs = true ∧ .binary op lhs.toExpr rhs.toExpr false none = e := by
  simp [binop]

/-! ### Label matchers -/

/-- Setting a matcher keeps the names as they were when the name is present, and adds it at the
end otherwise. -/
theorem map_name_setMatcher (ms : List Matcher) (name value : String) :
    (setMatcher ms name value).map Matcher.name =
      if name ∈ ms.map Matcher.name then ms.map Matcher.name
      else ms.map Matcher.name ++ [name] := by
  induction ms with
  | nil => simp [setMatcher]
  | cons m rest ih =>
    by_cases hm : m.name = name
    · simp [setMatcher, hm]
    · have hne : name ≠ m.name := Ne.symm hm
      simp only [setMatcher, beq_iff_eq, hm, if_false, List.map_cons, ih, List.mem_cons, hne,
        false_or]
      split <;> simp

theorem setMatchers_cons {ms : List Matcher} {name value : String}
    {rest : List (String × String)} {ms' : List Matcher} :
    setMatchers ms ((name, value) :: rest) = .ok ms' ↔
      isLabelName name = true ∧ setMatchers (setMatcher ms name value) rest = .ok ms' := by
  simp only [setMatchers, bind_eq_ok, checkLabelName_eq_ok]
  constructor
  · rintro ⟨_, hname, h⟩
    exact ⟨hname, h⟩
  · rintro ⟨hname, h⟩
    exact ⟨(), hname, h⟩

namespace Expr

theorem withLabels_eq_ok {e e' : Expr} {pairs : List (String × String)} :
    e.withLabels pairs = .ok e' ↔
      ∃ sel ms, e = .selector sel ∧ setMatchers (sel.matchers.getD []) pairs = .ok ms ∧
        .selector ⟨sel.name, some ms⟩ = e' := by
  cases e <;> simp [withLabels, fmap_eq_ok]

/-! ### Windows and modifiers -/

theorem sliced_eq_ok {e e' : Expr} {width : Duration} :
    e.sliced width = .ok e' ↔
      ∃ sel, e = .selector sel ∧ 0 < width.millis ∧ .range sel width = e' := by
  cases e <;> simp [sliced, Duration.isPositive]

theorem subqueried_eq_ok {e e' : Expr} {width : Duration} {step : Option Duration} :
    e.subqueried width step = .ok e' ↔
      e.kind = .instant ∧ 0 < width.millis ∧ (∀ s, step = some s → 0 < s.millis) ∧
        .subquery e width step = e' := by
  cases step <;> simp [subqueried, Duration.isPositive]

theorem withModifier_eq_ok {e e' : Expr} {m : Modifier} :
    e.withModifier m = .ok e' ↔
      e.kind ≠ .scalar ∧ e.chainHas m.keyword = false ∧ .derived e m = e' := by
  simp [withModifier]

theorem atExpr_eq_ok {e target e' : Expr} :
    e.atExpr target = .ok e' ↔
      target.kind ≠ .range ∧ e.withModifier (.atExpr target) = .ok e' := by
  simp [atExpr]

/-! ### Clauses of aggregations and binary operations -/

theorem withGrouping_eq_ok {e e' : Expr} {kind : GroupingKind} {labels : List String} :
    e.withGrouping kind labels = .ok e' ↔
      ∃ name args, e = .aggregate name args none ∧
        .aggregate name args (some ⟨kind, labels⟩) = e' := by
  constructor
  · intro h
    cases e with
    | aggregate name args grouping =>
      cases grouping with
      | none => exact ⟨name, args, rfl, Except.ok.inj h⟩
      | some _ => cases h
    | _ => cases h
  · rintro ⟨name, args, rfl, rfl⟩
    rfl

theorem withMatching_eq_ok {e e' : Expr} {kind : MatchingKind} {labels : List String} :
    e.withMatching kind labels = .ok e' ↔
      ∃ op lhs rhs flag, e = .binary op lhs rhs flag none ∧
        .binary op lhs rhs flag (some ⟨kind, labels, none⟩) = e' := by
  constructor
  · intro h
    cases e with
    | binary op lhs rhs flag matching =>
      cases matching with
      | none => exact ⟨op, lhs, rhs, flag, rfl, Except.ok.inj h⟩
      | some _ => cases h
    | _ => cases h
  · rintro ⟨op, lhs, rhs, flag, rfl, rfl⟩
    rfl

theorem withGroup_eq_ok {e e' : Expr} {side : GroupSide} {labels : List String} :
    e.withGroup side labels = .ok e' ↔
      ∃ op lhs rhs flag kind ls, e = .binary op lhs rhs flag (some ⟨kind, ls, none⟩) ∧
        op.category ≠ .set ∧
        .binary op lhs rhs flag (some ⟨kind, ls, some ⟨side, labels⟩⟩) = e' := by
  constructor
  · intro h
    cases e with
    | binary op lhs rhs flag matching =>
      by_cases hset : op.category = .set
      · simp [withGroup, hset] at h
      · rcases matching with _ | ⟨kind, ls, _ | _⟩
        · simp [withGroup, hset] at h
        · simp only [withGroup, hset, beq_iff_eq, if_false, Except.ok.injEq] at h
          exact ⟨op, lhs, rhs, flag, kind, ls, rfl, hset, h⟩
        · simp [withGroup, hset] at h
    | _ => cases h
  · rintro ⟨op, lhs, rhs, flag, kind, ls, rfl, hset, rfl⟩
    simp [withGroup, hset]

theorem asBool_eq_ok {e e' : Expr} :
    e.asBool = .ok e' ↔
      ∃ op lhs rhs matching, e = .binary op lhs rhs false matching ∧
        op.category = .comparison ∧ .binary op lhs rhs true matching = e' := by
  constructor
  · intro h
    cases e with
    | binary op lhs rhs flag matching =>
      by_cases hcmp : op.category = .comparison
      · cases flag
        · simp only [asBool, hcmp, bne_self_eq_false, Bool.false_eq_true, if_false,
            Except.ok.injEq] at h
          exact ⟨op, lhs, rhs, matching, rfl, hcmp, h⟩
        · simp [asBool, hcmp] at h
      · simp [asBool, hcmp] at h
    | _ => cases h
  · rintro ⟨op, lhs, rhs, matching, rfl, hcmp, rfl⟩
    simp [asBool, hcmp]

end Expr

/-! ### Calls -/

/-- Checked arguments are the given ones, each number turned into a literal. -/
theorem FunctionSpec.checkArgs_eq_ok {spec : FunctionSpec} {position : Nat} {args : List CallArg}
    {checked : List Arg} (h : spec.checkArgs position args = .ok checked) :
    checked = args.map CallArg.toArg := by
  induction args generalizing position checked with
  | nil =>
    simp only [checkArgs, Except.ok.injEq] at h
    simp [h]
  | cons arg rest ih =>
    simp only [checkArgs] at h
    split at h
    · cases h
    · split at h
      · obtain ⟨tail, hrest, rfl⟩ := map_eq_ok.1 h
        rw [ih hrest, List.map_cons]
      · cases h

/-- A function builds an aggregation with no grouping yet, or a call node, over the given
arguments with each number turned into a literal. -/
theorem FunctionSpec.build_eq_ok {spec : FunctionSpec} {args : List CallArg} {e : Expr}
    (h : spec.build args = .ok e) :
    e = .aggregate spec.name (args.map CallArg.toArg) none ∨
      e = .call spec.name (args.map CallArg.toArg) spec.returns := by
  unfold FunctionSpec.build at h
  split at h
  · obtain ⟨checked, hargs, rfl⟩ := map_eq_ok.1 h
    rw [FunctionSpec.checkArgs_eq_ok hargs]
    split
    · exact .inl rfl
    · exact .inr rfl
  · cases h

/-- A call that is built names the function of the table it looked up. -/
theorem call_eq_ok_of_mem {name : String} {args : List CallArg} {e : Expr}
    (h : call name args = .ok e) :
    ∃ spec ∈ functions,
      e = .aggregate spec.name (args.map CallArg.toArg) none ∨
        e = .call spec.name (args.map CallArg.toArg) spec.returns := by
  unfold call at h
  split at h
  · rename_i spec hlookup
    exact ⟨spec, List.mem_of_find?_eq_some hlookup, FunctionSpec.build_eq_ok h⟩
  · cases h

/-- A call that is built is an aggregation with no grouping yet, or a call node, over the
given arguments with each number turned into a literal. -/
theorem call_eq_ok {name : String} {args : List CallArg} {e : Expr} (h : call name args = .ok e) :
    ∃ spec : FunctionSpec,
      e = .aggregate spec.name (args.map CallArg.toArg) none ∨
        e = .call spec.name (args.map CallArg.toArg) spec.returns := by
  obtain ⟨spec, -, hshape⟩ := call_eq_ok_of_mem h
  exact ⟨spec, hshape⟩

end PromRules.Query
