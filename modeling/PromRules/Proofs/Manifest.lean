import Mathlib
import PromRules.Rule.Manifest
import PromRules.Proofs.QueryBuild

/-!
Building a rule file from bundles.

Each bundle becomes one group, in the order given, and each entry of a bundle one rule of its
group, in registration order. A group takes its bundle's name, and its bundle's interval or else
the default one. An entry's producer must give a rule, whose expression must not yield a range
vector and whose label names must be label names; the rule is then written under the entry's
name with its query text, everything else as authored (`Entry.RealizesAs`). Otherwise the first
failure, bundle by bundle and entry by entry, is the whole result (`Entry.FailsWith`). The main
statement is `buildRuleFile_groups_or_first_failure`.

Every stage is a traversal in `Except`: it succeeds with the results pointwise
(`mapM_eq_ok_iff`), and fails with the first refusal after a prefix of successes
(`mapM_eq_error_iff`).
-/

namespace PromRules.Rule

open Query

/-! ### Traversals in `Except` -/

section Traversal

variable {α β ε : Type}

theorem liftQuery_eq_ok {x : Except QueryError α} {a : α} : liftQuery x = .ok a ↔ x = .ok a := by
  cases x <;> simp [liftQuery]

theorem liftQuery_eq_error {x : Except QueryError α} {err : RuleError} :
    liftQuery x = .error err ↔ ∃ cause, x = .error cause ∧ err = .query cause := by
  cases x <;> simp [liftQuery, eq_comm]

variable {f : α → Except ε β}

/-- A traversal succeeds exactly with a result for each element, in order. -/
theorem mapM_eq_ok_iff {xs : List α} {ys : List β} :
    xs.mapM f = .ok ys ↔ List.Forall₂ (fun x y => f x = .ok y) xs ys := by
  induction xs generalizing ys with
  | nil => cases ys <;> simp [pure, Except.pure]
  | cons x rest ih =>
    simp only [List.mapM_cons, Query.bind_eq_ok, ih]
    cases ys with
    | nil => simp [pure, Except.pure]
    | cons y ys => simp [pure, Except.pure]

/-- A traversal fails with the first refusal, after a prefix of elements that all succeed. -/
theorem mapM_eq_error_iff {xs : List α} {err : ε} :
    xs.mapM f = .error err ↔
      ∃ pre x post, xs = pre ++ x :: post ∧ (∀ y ∈ pre, ∃ r, f y = .ok r) ∧ f x = .error err := by
  induction xs with
  | nil => simp [pure, Except.pure]
  | cons y rest ih =>
    simp only [List.mapM_cons, bind_eq_error, pure_ne_error, and_false, exists_false, or_false,
      ih, List.cons_eq_append_iff]
    constructor
    · rintro (hy | ⟨a, hy, pre, x, post, rfl, hpre, hx⟩)
      · exact ⟨[], y, rest, Or.inl ⟨rfl, rfl⟩, by simp, hy⟩
      · refine ⟨y :: pre, x, post, Or.inr ⟨pre, rfl, rfl⟩, ?_, hx⟩
        intro z hz
        rcases List.mem_cons.1 hz with rfl | hz
        · exact ⟨a, hy⟩
        · exact hpre z hz
    · rintro ⟨pre, x, post, ⟨rfl, hxy⟩ | ⟨pre', rfl, hrest⟩, hpre, hx⟩
      · -- nothing comes before: the first element is the one refused
        obtain ⟨rfl, rfl⟩ := List.cons.inj hxy
        exact Or.inl hx
      · obtain ⟨a, ha⟩ := hpre y (by simp)
        exact Or.inr ⟨a, ha, pre', x, post, hrest, fun z hz => hpre z (by simp [hz]), hx⟩

theorem forall₂_exists_of_mem {R : α → β → Prop} {xs : List α} {ys : List β}
    (h : List.Forall₂ R xs ys) {x : α} (hx : x ∈ xs) : ∃ y, R x y := by
  induction h with
  | nil => cases hx
  | cons hxy _ ih =>
    rcases List.mem_cons.1 hx with rfl | hx
    · exact ⟨_, hxy⟩
    · exact ih hx

theorem exists_forall₂_of_forall {R : α → β → Prop} {xs : List α} (h : ∀ x ∈ xs, ∃ y, R x y) :
    ∃ ys, List.Forall₂ R xs ys := by
  induction xs with
  | nil => exact ⟨[], .nil⟩
  | cons x rest ih =>
    obtain ⟨y, hy⟩ := h x (by simp)
    obtain ⟨ys, hys⟩ := ih fun z hz => h z (by simp [hz])
    exact ⟨y :: ys, .cons hy hys⟩

end Traversal

/-! ### Realizing one rule -/

/-- The label names of a map that may be absent are all label names. -/
def LabelNamesValid (labels : Option LabelMap) : Prop :=
  ∀ m, labels = some m → ∀ k ∈ m.keys, isLabelName k = true

/-- `k` is the first key of a label map, in key order, that is not a label name. -/
def FirstBadLabel (labels : Option LabelMap) (k : String) : Prop :=
  ∃ m pre post, labels = some m ∧ m.keys = pre ++ k :: post ∧
    (∀ l ∈ pre, isLabelName l = true) ∧ isLabelName k = false

/-- Why an authored rule is refused under a name: its expression yields a range vector, or else
the first of its label names that is not one. -/
def RealizeFailure (name : String) (e : Expr) (labels : Option LabelMap) (err : RuleError) :
    Prop :=
  (e.kind = .range ∧ err = .invalidExpression name
      (e.variantName ++ " evaluates to a range vector; wrap it in a function such as rate()")) ∨
    (e.kind ≠ .range ∧ ∃ k, FirstBadLabel labels k ∧
      err = .query (.invalidName ("'" ++ k ++ "' is not a valid label name")))

/-- Interpolating a string into a message writes it as it is. -/
@[simp] theorem toString_of_string (s : String) : toString s = s := rfl

theorem checkLabelName_eq_error {name : String} {err : QueryError} :
    checkLabelName name = .error err ↔ isLabelName name = false ∧
      err = .invalidName ("'" ++ name ++ "' is not a valid label name") := by
  by_cases h : isLabelName name = true
  · simp [checkLabelName, h]
  · simp [checkLabelName, h, eq_comm]

theorem realizeExpr_eq_ok {rule : String} {e : Expr} {text : String} :
    realizeExpr rule e = .ok text ↔ e.kind ≠ .range ∧ text = e.format := by
  by_cases h : e.kind = .range
  · simp [realizeExpr, h]
  · simp [realizeExpr, h, eq_comm]

theorem realizeExpr_eq_error {rule : String} {e : Expr} {err : RuleError} :
    realizeExpr rule e = .error err ↔ e.kind = .range ∧ err = .invalidExpression rule
      (e.variantName ++ " evaluates to a range vector; wrap it in a function such as rate()") := by
  by_cases h : e.kind = .range
  · simp [realizeExpr, h, eq_comm]
  · simp [realizeExpr, h]


/-- A label list is checked name by name. -/
theorem checkLabels_eq_mapM (labels : List String) :
    checkLabels labels = labels.mapM fun l => (fun _ => l) <$> checkLabelName l := by
  induction labels with
  | nil => rfl
  | cons l rest ih =>
    rw [List.mapM_cons, ← ih, checkLabels]
    cases checkLabelName l <;> rfl

/-- A label list is refused at its first name that is not a label name. -/
theorem checkLabels_eq_error {labels : List String} {err : QueryError} :
    checkLabels labels = .error err ↔ ∃ pre k post, labels = pre ++ k :: post ∧
      (∀ l ∈ pre, isLabelName l = true) ∧ isLabelName k = false ∧
        err = .invalidName ("'" ++ k ++ "' is not a valid label name") := by
  rw [checkLabels_eq_mapM, mapM_eq_error_iff]
  simp [fmap_eq_error, Query.fmap_eq_ok, checkLabelName_eq_error]

theorem checkLabelNames_eq_ok {labels : Option LabelMap} {u : Unit} :
    checkLabelNames labels = .ok u ↔ LabelNamesValid labels := by
  cases labels with
  | none => simp [checkLabelNames, LabelNamesValid]
  | some m =>
    simp only [checkLabelNames, liftQuery_eq_ok, Query.map_eq_ok, Query.checkLabels_eq_ok,
      LabelNamesValid, Option.some.injEq, forall_eq']
    constructor
    · rintro ⟨checked, ⟨hvalid, -⟩, -⟩
      exact hvalid
    · intro hvalid
      exact ⟨m.keys, ⟨hvalid, rfl⟩, trivial⟩

theorem checkLabelNames_eq_error {labels : Option LabelMap} {err : RuleError} :
    checkLabelNames labels = .error err ↔
      ∃ k, FirstBadLabel labels k ∧
        err = .query (.invalidName ("'" ++ k ++ "' is not a valid label name")) := by
  cases labels with
  | none => simp [checkLabelNames, FirstBadLabel]
  | some m =>
    simp only [checkLabelNames, liftQuery_eq_error, map_eq_error, checkLabels_eq_error]
    constructor
    · rintro ⟨cause, ⟨pre, k, post, hkeys, hpre, hk, rfl⟩, rfl⟩
      exact ⟨k, ⟨m, pre, post, rfl, hkeys, hpre, hk⟩, rfl⟩
    · rintro ⟨k, ⟨m', pre, post, hm, hkeys, hpre, hk⟩, rfl⟩
      cases hm
      exact ⟨_, ⟨pre, k, post, hkeys, hpre, hk, rfl⟩, rfl⟩

section Realize

variable {γ : Type} {name : String} {e : Expr} {labels : Option LabelMap} {mk : String → γ}

/-- Both kinds of rule are realized the same way: the query text of the expression, the label
names checked, and the rule written with the text. -/
theorem realizeWith_eq_ok {r : γ} :
    (do let text ← realizeExpr name e; checkLabelNames labels; pure (mk text) :
      Except RuleError γ) = .ok r ↔
      e.kind ≠ .range ∧ LabelNamesValid labels ∧ r = mk e.format := by
  simp only [Query.bind_eq_ok, realizeExpr_eq_ok, checkLabelNames_eq_ok]
  constructor
  · rintro ⟨text, ⟨hkind, rfl⟩, u, hvalid, hr⟩
    exact ⟨hkind, hvalid, (Except.ok.inj hr).symm⟩
  · rintro ⟨hkind, hvalid, rfl⟩
    exact ⟨e.format, ⟨hkind, rfl⟩, (), hvalid, rfl⟩

theorem realizeWith_eq_error {err : RuleError} :
    (do let text ← realizeExpr name e; checkLabelNames labels; pure (mk text) :
      Except RuleError γ) = .error err ↔ RealizeFailure name e labels err := by
  simp only [bind_eq_error, realizeExpr_eq_error, realizeExpr_eq_ok, checkLabelNames_eq_error,
    checkLabelNames_eq_ok, pure_ne_error, and_false, exists_false, or_false, RealizeFailure]
  constructor
  · rintro (hrange | ⟨text, ⟨hkind, -⟩, hlabel⟩)
    · exact Or.inl hrange
    · exact Or.inr ⟨hkind, hlabel⟩
  · rintro (hrange | ⟨hkind, hlabel⟩)
    · exact Or.inl hrange
    · exact Or.inr ⟨e.format, ⟨hkind, rfl⟩, hlabel⟩

end Realize

theorem AlertRule.realize_eq_ok {a : AlertRule} {name : String} {r : RealizedAlert} :
    a.realize name = .ok r ↔ a.expr.kind ≠ .range ∧ LabelNamesValid a.labels ∧
      r = ⟨name, a.expr.format, a.holdFor, a.fireFor, a.labels, a.annotations⟩ :=
  realizeWith_eq_ok

theorem AlertRule.realize_eq_error {a : AlertRule} {name : String} {err : RuleError} :
    a.realize name = .error err ↔ RealizeFailure name a.expr a.labels err :=
  realizeWith_eq_error

theorem RecordingRule.realize_eq_ok {rule : RecordingRule} {name : String}
    {r : RealizedRecording} :
    rule.realize name = .ok r ↔ rule.expr.kind ≠ .range ∧ LabelNamesValid rule.labels ∧
      r = ⟨name, rule.expr.format, rule.labels⟩ :=
  realizeWith_eq_ok

theorem RecordingRule.realize_eq_error {rule : RecordingRule} {name : String} {err : RuleError} :
    rule.realize name = .error err ↔ RealizeFailure name rule.expr rule.labels err :=
  realizeWith_eq_error

/-! ### Realizing an entry -/

/-- What an entry is realized as: the rule its producer gives, under the entry's name, with the
query text of its expression and everything else as authored. The expression must not yield a
range vector and the label names must be label names. -/
def Entry.RealizesAs (entry : Entry) (r : RealizedRule) : Prop :=
  match entry.producer with
  | .alert (.ok a) => a.expr.kind ≠ .range ∧ LabelNamesValid a.labels ∧
      r = .alert ⟨entry.name, a.expr.format, a.holdFor, a.fireFor, a.labels, a.annotations⟩
  | .recording (.ok rule) => rule.expr.kind ≠ .range ∧ LabelNamesValid rule.labels ∧
      r = .recording ⟨entry.name, rule.expr.format, rule.labels⟩
  | _ => False

/-- Why an entry is not realized: its producer's own failure as it is, or else why its rule is
refused. -/
def Entry.FailsWith (entry : Entry) (err : RuleError) : Prop :=
  match entry.producer with
  | .alert (.error cause) => err = cause
  | .recording (.error cause) => err = cause
  | .alert (.ok a) => RealizeFailure entry.name a.expr a.labels err
  | .recording (.ok rule) => RealizeFailure entry.name rule.expr rule.labels err

theorem Entry.realize_eq_ok {entry : Entry} {r : RealizedRule} :
    entry.realize = .ok r ↔ entry.RealizesAs r := by
  obtain ⟨name, (result | result)⟩ := entry
  · cases result with
    | error cause => simp [Entry.realize, Entry.RealizesAs, bind, Except.bind]
    | ok a =>
      simp only [Entry.realize, Entry.RealizesAs, Query.bind_eq_ok, Except.ok.injEq,
        Query.fmap_eq_ok, AlertRule.realize_eq_ok]
      constructor
      · rintro ⟨_, rfl, _, ⟨hkind, hvalid, rfl⟩, rfl⟩
        exact ⟨hkind, hvalid, rfl⟩
      · rintro ⟨hkind, hvalid, rfl⟩
        exact ⟨a, rfl, _, ⟨hkind, hvalid, rfl⟩, rfl⟩
  · cases result with
    | error cause => simp [Entry.realize, Entry.RealizesAs, bind, Except.bind]
    | ok rule =>
      simp only [Entry.realize, Entry.RealizesAs, Query.bind_eq_ok, Except.ok.injEq,
        Query.fmap_eq_ok, RecordingRule.realize_eq_ok]
      constructor
      · rintro ⟨_, rfl, _, ⟨hkind, hvalid, rfl⟩, rfl⟩
        exact ⟨hkind, hvalid, rfl⟩
      · rintro ⟨hkind, hvalid, rfl⟩
        exact ⟨rule, rfl, _, ⟨hkind, hvalid, rfl⟩, rfl⟩

theorem Entry.realize_eq_error {entry : Entry} {err : RuleError} :
    entry.realize = .error err ↔ entry.FailsWith err := by
  obtain ⟨name, (result | result)⟩ := entry
  · cases result with
    | error cause => simp [Entry.realize, Entry.FailsWith, bind, Except.bind, eq_comm]
    | ok a =>
      simp [Entry.realize, Entry.FailsWith, bind_eq_error, fmap_eq_error,
        AlertRule.realize_eq_error]
  · cases result with
    | error cause => simp [Entry.realize, Entry.FailsWith, bind, Except.bind, eq_comm]
    | ok rule =>
      simp [Entry.realize, Entry.FailsWith, bind_eq_error, fmap_eq_error,
        RecordingRule.realize_eq_error]

/-! ### Bundles and the rule file -/

/-- The group a bundle becomes: the bundle's name, its interval or else the fallback one, and
its entries realized in order. -/
def Bundle.GroupAs (fallback : Option Duration) (b : Bundle) (g : RuleGroup) : Prop :=
  g.name = b.name ∧ g.interval = b.interval.or fallback ∧
    List.Forall₂ Entry.RealizesAs b.entries g.rules

theorem Bundle.toGroup_eq_ok {b : Bundle} {g : RuleGroup} :
    b.toGroup = .ok g ↔ g.name = b.name ∧ g.interval = b.interval ∧
      List.Forall₂ Entry.RealizesAs b.entries g.rules := by
  simp only [Bundle.toGroup, Query.bind_eq_ok, mapM_eq_ok_iff, Entry.realize_eq_ok]
  constructor
  · rintro ⟨rules, hrules, hg⟩
    cases Except.ok.inj hg
    exact ⟨rfl, rfl, hrules⟩
  · rintro ⟨hname, hinterval, hrules⟩
    obtain ⟨name, interval, rules⟩ := g
    dsimp only at hname hinterval hrules
    subst hname hinterval
    exact ⟨rules, hrules, rfl⟩

/-- A bundle's group is refused at its first entry that is not realized. -/
theorem Bundle.toGroup_eq_error {b : Bundle} {err : RuleError} :
    b.toGroup = .error err ↔ ∃ pre e post, b.entries = pre ++ e :: post ∧
      (∀ x ∈ pre, ∃ r, x.RealizesAs r) ∧ e.FailsWith err := by
  simp only [Bundle.toGroup, bind_eq_error, pure_ne_error, and_false, exists_false, or_false,
    mapM_eq_error_iff, Entry.realize_eq_ok, Entry.realize_eq_error]

/-- A bundle has a group exactly when each of its entries is realized. -/
theorem Bundle.exists_groupAs {b : Bundle} (fallback : Option Duration) :
    (∃ g, b.GroupAs fallback g) ↔ ∀ x ∈ b.entries, ∃ r, x.RealizesAs r := by
  constructor
  · rintro ⟨g, -, -, hrules⟩ x hx
    exact forall₂_exists_of_mem hrules hx
  · intro h
    obtain ⟨rules, hrules⟩ := exists_forall₂_of_forall h
    exact ⟨⟨b.name, b.interval.or fallback, rules⟩, rfl, rfl, hrules⟩

section Groups

variable {b : Bundle} {fallback : Option Duration}

/-- One step of building a rule file: a bundle's group, given the fallback interval when it has
none. -/
theorem groupWithFallback_eq_ok {g : RuleGroup} :
    (do let g' ← b.toGroup; pure { g' with interval := g'.interval.or fallback } :
      Except RuleError RuleGroup) = .ok g ↔ b.GroupAs fallback g := by
  simp only [Query.bind_eq_ok, Bundle.toGroup_eq_ok]
  constructor
  · rintro ⟨g', ⟨hname, hinterval, hrules⟩, hg⟩
    cases Except.ok.inj hg
    exact ⟨hname, by rw [hinterval], hrules⟩
  · rintro ⟨hname, hinterval, hrules⟩
    refine ⟨⟨b.name, b.interval, g.rules⟩, ⟨rfl, rfl, hrules⟩, ?_⟩
    obtain ⟨name, interval, rules⟩ := g
    dsimp only at hname hinterval
    subst hname hinterval
    rfl

theorem groupWithFallback_eq_error {err : RuleError} :
    (do let g' ← b.toGroup; pure { g' with interval := g'.interval.or fallback } :
      Except RuleError RuleGroup) = .error err ↔ b.toGroup = .error err := by
  simp only [bind_eq_error, pure_ne_error, and_false, exists_false, or_false]

end Groups

theorem buildRuleFile_eq_ok {bundles : List Bundle} {fallback : Option Duration} {f : RuleFile} :
    buildRuleFile bundles fallback = .ok f ↔
      List.Forall₂ (Bundle.GroupAs fallback) bundles f.groups := by
  -- the outer bind first, so that each bundle's step is read by its own lemma
  rw [buildRuleFile, Query.bind_eq_ok]
  simp only [mapM_eq_ok_iff, groupWithFallback_eq_ok]
  constructor
  · rintro ⟨groups, hgroups, hf⟩
    cases Except.ok.inj hf
    exact hgroups
  · intro h
    exact ⟨f.groups, h, rfl⟩

/-- Building a rule file is refused at its first bundle that is refused, every bundle before it
having all its entries realized. -/
theorem buildRuleFile_eq_error {bundles : List Bundle} {fallback : Option Duration}
    {err : RuleError} :
    buildRuleFile bundles fallback = .error err ↔ ∃ preB b postB, bundles = preB ++ b :: postB ∧
      (∀ b' ∈ preB, ∀ x ∈ b'.entries, ∃ r, x.RealizesAs r) ∧ b.toGroup = .error err := by
  rw [buildRuleFile, bind_eq_error]
  simp only [pure_ne_error, and_false, exists_false, or_false, mapM_eq_error_iff,
    groupWithFallback_eq_ok, groupWithFallback_eq_error, Bundle.exists_groupAs]

theorem RuleFile.ruleCount_eq_sum (f : RuleFile) :
    f.ruleCount = (f.groups.map fun g => g.rules.length).sum := by
  -- the count is a left fold from zero: generalize its start
  have hfold : ∀ (groups : List RuleGroup) (n : Nat),
      groups.foldl (fun n g => n + g.rules.length) n =
        n + (groups.map fun g => g.rules.length).sum := by
    intro groups
    induction groups with
    | nil => simp
    | cons g rest ih =>
      intro n
      simp only [List.foldl_cons, ih, List.map_cons, List.sum_cons]
      omega
  rw [RuleFile.ruleCount, hfold, Nat.zero_add]

theorem ruleCount_of_groupAs {bundles : List Bundle} {fallback : Option Duration} {f : RuleFile}
    (h : List.Forall₂ (Bundle.GroupAs fallback) bundles f.groups) :
    f.ruleCount = (bundles.map Bundle.size).sum := by
  obtain ⟨groups⟩ := f
  dsimp only at h
  rw [RuleFile.ruleCount_eq_sum]
  congr 1
  induction h with
  | nil => rfl
  | cons hbg _ ih => simp [Bundle.size, hbg.2.2.length_eq, ih]


/-- Building a rule file from bundles succeeds exactly when every entry of every bundle is
realized, and then gives one group per bundle in order, each with its bundle's name, its interval
or else the fallback one, and its entries realized in order, so that it counts the rules of all
bundles. Otherwise it fails with the first entry not realized, bundle by bundle and entry by
entry. -/
theorem buildRuleFile_groups_or_first_failure (bundles : List Bundle)
    (fallback : Option Duration) :
    ((∃ f, buildRuleFile bundles fallback = .ok f) ↔
        ∀ b ∈ bundles, ∀ e ∈ b.entries, ∃ r, e.RealizesAs r) ∧
      (∀ f, buildRuleFile bundles fallback = .ok f ↔
        List.Forall₂ (Bundle.GroupAs fallback) bundles f.groups) ∧
      (∀ f, buildRuleFile bundles fallback = .ok f →
        f.ruleCount = (bundles.map Bundle.size).sum) ∧
      ∀ err, buildRuleFile bundles fallback = .error err ↔
        ∃ preB b postB preE e postE, bundles = preB ++ b :: postB ∧
          b.entries = preE ++ e :: postE ∧ (∀ b' ∈ preB, ∀ x ∈ b'.entries, ∃ r, x.RealizesAs r) ∧
          (∀ x ∈ preE, ∃ r, x.RealizesAs r) ∧ e.FailsWith err := by
  refine ⟨⟨?_, ?_⟩, fun f => buildRuleFile_eq_ok,
    fun f hf => ruleCount_of_groupAs (buildRuleFile_eq_ok.1 hf), fun err => ?_⟩
  · -- a built file has a group for each bundle, and so a rule for each entry
    rintro ⟨f, hf⟩ b hb
    obtain ⟨g, hg⟩ := forall₂_exists_of_mem (buildRuleFile_eq_ok.1 hf) hb
    exact (Bundle.exists_groupAs fallback).1 ⟨g, hg⟩
  · intro hall
    obtain ⟨groups, hgroups⟩ :=
      exists_forall₂_of_forall fun b hb => (Bundle.exists_groupAs fallback).2 (hall b hb)
    exact ⟨⟨groups⟩, buildRuleFile_eq_ok.2 hgroups⟩
  · -- the first refused bundle is refused at its first entry not realized
    simp only [buildRuleFile_eq_error, Bundle.toGroup_eq_error]
    constructor
    · rintro ⟨preB, b, postB, hbundles, hpreB, preE, e, postE, hentries, hpreE, he⟩
      exact ⟨preB, b, postB, preE, e, postE, hbundles, hentries, hpreB, hpreE, he⟩
    · rintro ⟨preB, b, postB, preE, e, postE, hbundles, hentries, hpreB, hpreE, he⟩
      exact ⟨preB, b, postB, hbundles, hpreB, preE, e, postE, hentries, hpreE, he⟩

end PromRules.Rule
