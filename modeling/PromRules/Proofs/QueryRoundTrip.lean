import PromRules.Proofs.QueryLexing
import PromRules.Proofs.QueryParsing
import PromRules.Proofs.CallSignature

/-!
Reading the query text of a built tree back.

The query text of a tree (`Expr.format`) is read by `PromRules.Query.read` in two passes, the
lexer and then the reader of units. For every tree the checked operations build, the text is its
minimal text (`normalizeBlanks_of_tidy`), the lexer cuts that into the tree's units
(`lex_renderIn_minimal`), and the reader makes of those the tree read back
(`readExpr_tokens`), provided the names are ones the reader takes as written. The builder checks
function names against the table and never lets `@` take a range, so only selector names are
left: a metric named by a keyword such as `bool` or `nan` is accepted by the builder, printed
bare, and then read as the keyword.

The tree read back is the tree itself exactly when the tree is canonical (`Expr.Canonical`):
every NaN is the quiet one, no duration is the least one, and no number after `@` is one that
the reader takes as a time.
-/

namespace PromRules

theorem Binary64.readBack_eq_self_iff {x : Binary64} :
    x.readBack = x ↔ (x.isNaN = true → x = Binary64.nan) := by
  unfold Binary64.readBack
  cases x.isNaN <;> simp [eq_comm]

namespace Query

/-! ### Selector names -/

mutual

/-- The metric names of the selectors and ranges of an expression, left to right. -/
def Expr.selectorNames : Expr → List String
  | .literal _ => []
  | .selector sel => [sel.name]
  | .derived inner m => inner.selectorNames ++ m.selectorNames
  | .range sel _ => [sel.name]
  | .subquery inner _ _ => inner.selectorNames
  | .call _ args _ => Arg.listSelectorNames args
  | .binary _ lhs rhs _ _ => lhs.selectorNames ++ rhs.selectorNames
  | .aggregate _ args _ => Arg.listSelectorNames args

def Modifier.selectorNames : Modifier → List String
  | .atExpr target => target.selectorNames
  | _ => []

def Arg.listSelectorNames : List Arg → List String
  | [] => []
  | a :: more => a.selectorNames ++ Arg.listSelectorNames more

def Arg.selectorNames : Arg → List String
  | .expr e => e.selectorNames
  | .text _ => []

end

theorem Arg.mem_listSelectorNames {n : String} {args : List Arg} :
    n ∈ Arg.listSelectorNames args ↔ ∃ a ∈ args, n ∈ a.selectorNames := by
  induction args with
  | nil => simp [Arg.listSelectorNames]
  | cons a more ih => simp [Arg.listSelectorNames, ih]

theorem Arg.listReadable_iff {args : List Arg} :
    Arg.ListReadable args ↔ ∀ a ∈ args, a.Readable := by
  induction args with
  | nil => simp [Arg.ListReadable]
  | cons a more ih => simp [Arg.ListReadable, ih]

/-! ### Built trees are readable -/

section Readable

/-- The hypothesis carried through a build: a tree whose selectors have plain names is one the
reader takes as written. -/
abbrev ReadableIfPlain (e : Expr) : Prop :=
  (∀ n ∈ e.selectorNames, isKeyword n = false) → e.Readable

theorem Operand.readable_toExpr {o : Operand} (ho : ∀ x, o = .expr x → ReadableIfPlain x) :
    ReadableIfPlain o.toExpr := by
  cases o with
  | number v => exact fun _ => trivial
  | expr x => exact ho x rfl

/-- The arguments of a call, with numbers stored as literals, are readable when their
expressions are. -/
theorem listReadable_toArg {args : List CallArg}
    (hargs : ∀ x, CallArg.expr x ∈ args → ReadableIfPlain x)
    (hnames : ∀ n ∈ Arg.listSelectorNames (args.map CallArg.toArg), isKeyword n = false) :
    Arg.ListReadable (args.map CallArg.toArg) := by
  rw [Arg.listReadable_iff]
  intro a ha
  obtain ⟨arg, harg, rfl⟩ := List.mem_map.1 ha
  cases arg with
  | expr x => exact hargs x harg fun n hn => hnames n (Arg.mem_listSelectorNames.2 ⟨_, ha, hn⟩)
  | number v => trivial
  | text s => trivial

theorem call_selectorNames {name : String} {args : List CallArg} {e : Expr}
    (h : call name args = .ok e) :
    e.selectorNames = Arg.listSelectorNames (args.map CallArg.toArg) := by
  obtain ⟨spec, rfl | rfl⟩ := call_eq_ok h <;> rfl

/-- A call the table accepts is a node of the function it names, with the family and value kind
the table gives: an aggregation for an aggregation, a call returning its kind otherwise. -/
theorem call_readable {name : String} {args : List CallArg} {e : Expr}
    (h : call name args = .ok e) (hargs : Arg.ListReadable (args.map CallArg.toArg)) :
    e.Readable := by
  unfold call at h
  cases hlook : lookupFunction name with
  | none => simp [hlook] at h
  | some spec =>
    rw [hlook] at h
    have hname : spec.name = name := by simpa using List.find?_some hlook
    obtain ⟨-, -, rfl⟩ := FunctionSpec.build_eq_ok_iff.1 h
    by_cases hfamily : spec.family = .aggregate
    · rw [if_pos hfamily, hname]
      exact ⟨⟨spec, hlook, hfamily⟩, hargs⟩
    · rw [if_neg hfamily, hname]
      exact ⟨⟨spec, hlook, hfamily, rfl⟩, hargs⟩

/-- Every built tree whose selectors are not named by keywords is one the reader takes as
written: the builder checks the rest. -/
theorem Built.readable {e : Expr} (he : Built e) : ReadableIfPlain e := by
  induction he with
  | metric h =>
    obtain ⟨-, rfl⟩ := metric_eq_ok.1 h
    exact fun hnames => hnames _ (List.mem_singleton_self _)
  | literal value => exact fun _ => trivial
  | binop _ _ h ihl ihr =>
    obtain ⟨-, rfl⟩ := binop_eq_ok.1 h
    intro hnames
    simp only [Expr.selectorNames, List.mem_append] at hnames
    exact ⟨Operand.readable_toExpr ihl fun n hn => hnames n (.inl hn),
      Operand.readable_toExpr ihr fun n hn => hnames n (.inr hn)⟩
  | withLabels _ h _ =>
    obtain ⟨sel, ms, -, -, rfl⟩ := Expr.withLabels_eq_ok.1 h
    exact fun hnames => hnames _ (List.mem_singleton_self _)
  | sliced _ h _ =>
    obtain ⟨sel, -, -, rfl⟩ := Expr.sliced_eq_ok.1 h
    exact fun hnames => hnames _ (List.mem_singleton_self _)
  | subqueried _ h ih =>
    obtain ⟨-, -, -, rfl⟩ := Expr.subqueried_eq_ok.1 h
    exact ih
  | offsetBy _ h ih =>
    obtain ⟨-, -, rfl⟩ := Expr.withModifier_eq_ok.1 h
    intro hnames
    exact ⟨ih fun n hn => hnames n (List.mem_append_left _ hn), trivial⟩
  | atTime _ h ih =>
    obtain ⟨-, -, rfl⟩ := Expr.withModifier_eq_ok.1 h
    intro hnames
    exact ⟨ih fun n hn => hnames n (List.mem_append_left _ hn), trivial⟩
  | atExpr _ _ h ih ihtarget =>
    obtain ⟨hkind, hmod⟩ := Expr.atExpr_eq_ok.1 h
    obtain ⟨-, -, rfl⟩ := Expr.withModifier_eq_ok.1 hmod
    intro hnames
    exact ⟨ih fun n hn => hnames n (List.mem_append_left _ hn),
      ihtarget fun n hn => hnames n (List.mem_append_right _ hn), hkind⟩
  | byLabels _ h ih =>
    obtain ⟨name, args, rfl, rfl⟩ := Expr.withGrouping_eq_ok.1 (checkLabels_bind_eq_ok.1 h).2
    exact ih
  | withoutLabels _ h ih =>
    obtain ⟨name, args, rfl, rfl⟩ := Expr.withGrouping_eq_ok.1 (checkLabels_bind_eq_ok.1 h).2
    exact ih
  | on _ h ih =>
    obtain ⟨op, lhs, rhs, flag, rfl, rfl⟩ :=
      Expr.withMatching_eq_ok.1 (checkLabels_bind_eq_ok.1 h).2
    exact ih
  | ignoring _ h ih =>
    obtain ⟨op, lhs, rhs, flag, rfl, rfl⟩ :=
      Expr.withMatching_eq_ok.1 (checkLabels_bind_eq_ok.1 h).2
    exact ih
  | groupLeft _ h ih =>
    obtain ⟨op, lhs, rhs, flag, kind, ls, rfl, -, rfl⟩ :=
      Expr.withGroup_eq_ok.1 (checkLabels_bind_eq_ok.1 h).2
    exact ih
  | groupRight _ h ih =>
    obtain ⟨op, lhs, rhs, flag, kind, ls, rfl, -, rfl⟩ :=
      Expr.withGroup_eq_ok.1 (checkLabels_bind_eq_ok.1 h).2
    exact ih
  | asBool _ h ih =>
    obtain ⟨op, lhs, rhs, matching, rfl, -, rfl⟩ := Expr.asBool_eq_ok.1 h
    exact ih
  | call _ h ih =>
    intro hnames
    rw [call_selectorNames h] at hnames
    exact call_readable h (listReadable_toArg ih hnames)

end Readable

/-! ### The text read back -/

/-- The query text of every built tree whose selectors are not named by keywords is read, all
of it, as the tree read back. -/
theorem Built.read_format {e : Expr} (he : Built e)
    (hnames : ∀ n ∈ e.selectorNames, isKeyword n = false) :
    read e.format = some e.readBack := by
  obtain ⟨hwf, hknown⟩ := he.wellFormed_knownCalls
  have hlex := lex_renderIn_minimal hwf hknown
  have hunits := readExpr_tokens (he.readable hnames)
  rw [he.format_eq]
  unfold read
  simp only [hlex, hunits]

/-! ### Trees that read back as themselves -/

mutual

/-- The trees the reader gives back as they are: every NaN is the quiet NaN, no duration is the
least one, and every number after `@` is negative, for the reader takes any other as a time. -/
def Expr.Canonical : Expr → Prop
  | .literal v => v.isNaN = true → v = Binary64.nan
  | .selector _ => True
  | .derived inner m => inner.Canonical ∧ m.Canonical
  | .range _ width => width.millis ≠ Duration.minMillis
  | .subquery inner width step =>
    inner.Canonical ∧ width.millis ≠ Duration.minMillis ∧
      ∀ s ∈ step, s.millis ≠ Duration.minMillis
  | .call _ args _ => Arg.ListCanonical args
  | .binary _ lhs rhs _ _ => lhs.Canonical ∧ rhs.Canonical
  | .aggregate _ args _ => Arg.ListCanonical args

def Modifier.Canonical : Modifier → Prop
  | .offset shift => shift.millis ≠ Duration.minMillis
  | .atTime seconds => seconds.isNaN = true → seconds = Binary64.nan
  | .atExpr target =>
    target.Canonical ∧ ∀ v, target = .literal v → v.isNegative = true ∧ v.isNaN = false

def Arg.ListCanonical : List Arg → Prop
  | [] => True
  | a :: more => a.Canonical ∧ Arg.ListCanonical more

def Arg.Canonical : Arg → Prop
  | .expr e => e.Canonical
  | .text _ => True

end

/-- A number after `@` stays an expression exactly when it is negative and no NaN. -/
theorem Modifier.readBack_atNumber_eq_self_iff (v : Binary64) :
    (Modifier.atExpr (.literal v)).readBack = .atExpr (.literal v) ↔
      v.isNegative = true ∧ v.isNaN = false := by
  unfold Modifier.readBack
  cases v.isNegative <;> cases v.isNaN <;> simp

mutual

theorem Expr.readBack_eq_self_iff : (e : Expr) → e.readBack = e ↔ e.Canonical
  | .literal v => by
    simp only [Expr.readBack, Expr.Canonical, Expr.literal.injEq, Binary64.readBack_eq_self_iff]
  | .selector sel => by simp only [Expr.readBack, Expr.Canonical]
  | .derived inner m => by
    simp only [Expr.readBack, Expr.Canonical, Expr.derived.injEq, inner.readBack_eq_self_iff,
      m.readBack_eq_self_iff]
  | .range sel width => by
    simp only [Expr.readBack, Expr.Canonical, Expr.range.injEq, true_and,
      Duration.readBack_eq_self_iff]
  | .subquery inner width step => by
    simp only [Expr.readBack, Expr.Canonical, Expr.subquery.injEq, inner.readBack_eq_self_iff,
      Duration.readBack_eq_self_iff, Duration.map_readBack_eq_self_iff]
  | .call name args returns => by
    simp only [Expr.readBack, Expr.Canonical, Expr.call.injEq, true_and, and_true,
      Arg.readBackList_eq_self_iff args]
  | .binary op lhs rhs flag matching => by
    simp only [Expr.readBack, Expr.Canonical, Expr.binary.injEq, true_and, and_true,
      lhs.readBack_eq_self_iff, rhs.readBack_eq_self_iff]
  | .aggregate name args grouping => by
    simp only [Expr.readBack, Expr.Canonical, Expr.aggregate.injEq, true_and, and_true,
      Arg.readBackList_eq_self_iff args]

theorem Modifier.readBack_eq_self_iff : (m : Modifier) → m.readBack = m ↔ m.Canonical
  | .offset shift => by
    simp only [Modifier.readBack, Modifier.Canonical, Modifier.offset.injEq,
      Duration.readBack_eq_self_iff]
  | .atTime seconds => by
    simp only [Modifier.readBack, Modifier.Canonical, Modifier.atTime.injEq,
      Binary64.readBack_eq_self_iff]
  | .atExpr target => by
    -- a number after `@` is read apart from every other target
    by_cases hnumber : ∃ v, target = .literal v
    · obtain ⟨v, rfl⟩ := hnumber
      rw [Modifier.readBack_atNumber_eq_self_iff]
      simp +contextual [Modifier.Canonical, Expr.Canonical]
    · simp only [not_exists] at hnumber
      rw [Modifier.readBack_atExpr hnumber, Modifier.atExpr.injEq, target.readBack_eq_self_iff]
      exact ⟨fun h => ⟨h, fun v hv => absurd hv (hnumber v)⟩, And.left⟩

theorem Arg.readBackList_eq_self_iff : (args : List Arg) →
    Arg.readBackList args = args ↔ Arg.ListCanonical args
  | [] => by simp only [Arg.readBackList, Arg.ListCanonical]
  | a :: more => by
    simp only [Arg.readBackList, Arg.ListCanonical, List.cons.injEq, a.readBack_eq_self_iff,
      Arg.readBackList_eq_self_iff more]

theorem Arg.readBack_eq_self_iff : (a : Arg) → a.readBack = a ↔ a.Canonical
  | .expr e => by
    simp only [Arg.readBack, Arg.Canonical, Arg.expr.injEq, e.readBack_eq_self_iff]
  | .text s => by simp only [Arg.readBack, Arg.Canonical]

end

/-- The query text of every built tree whose selectors are not named by keywords reads back,
all of it, as the tree read back, and as the tree itself exactly when the tree is canonical. -/
theorem read_format_eq_iff_canonical {e : Expr} (he : Built e)
    (hnames : ∀ n ∈ e.selectorNames, isKeyword n = false) :
    read e.format = some e.readBack ∧ (read e.format = some e ↔ e.Canonical) := by
  have hread := he.read_format hnames
  refine ⟨hread, ?_⟩
  rw [hread, Option.some.injEq]
  exact e.readBack_eq_self_iff

/-- `up @ 5`, with the number given to `@` as an expression, is printed bare, and its text reads
back with the number as a time. -/
theorem at_number_reads_as_time :
    Built (.derived (.selector ⟨"up", none⟩) (.atExpr (.literal ⟨0x4014000000000000⟩))) ∧
      read (Expr.derived (.selector ⟨"up", none⟩) (.atExpr (.literal ⟨0x4014000000000000⟩))).format =
        some (.derived (.selector ⟨"up", none⟩) (.atTime ⟨0x4014000000000000⟩)) ∧
      ¬ (Expr.derived (.selector ⟨"up", none⟩) (.atExpr (.literal ⟨0x4014000000000000⟩))).Canonical := by
  have hup : Built (.selector ⟨"up", none⟩) := .metric (show metric "up" = .ok _ from rfl)
  have hbuilt : Built (.derived (.selector ⟨"up", none⟩) (.atExpr (.literal ⟨0x4014000000000000⟩))) :=
    .atExpr hup (.literal _) (show Expr.atExpr _ _ = .ok _ from rfl)
  obtain ⟨hread, hiff⟩ := read_format_eq_iff_canonical hbuilt (by decide +kernel)
  have hback : (Expr.derived (.selector ⟨"up", none⟩)
      (.atExpr (.literal ⟨0x4014000000000000⟩))).readBack =
      .derived (.selector ⟨"up", none⟩) (.atTime ⟨0x4014000000000000⟩) := rfl
  rw [hback] at hread
  refine ⟨hbuilt, hread, fun hcanon => ?_⟩
  rw [← hiff, hread] at hcanon
  simp at hcanon

/-- A metric named `NaN` passes the builder and is printed bare, so its text reads as the
number NaN. -/
theorem nan_metric_reads_as_number :
    Built (.selector ⟨"NaN", none⟩) ∧
      read (Expr.selector ⟨"NaN", none⟩).format = some (.literal Binary64.nan) := by
  have hbuilt : Built (.selector ⟨"NaN", none⟩) := .metric (show metric "NaN" = .ok _ from rfl)
  have hsame : (Expr.selector ⟨"NaN", none⟩).format = (Expr.literal Binary64.nan).format := by
    decide
  have hnan := (Built.literal Binary64.nan).read_format (by simp [Expr.selectorNames, literal])
  rw [hsame]
  exact ⟨hbuilt, hnan.trans rfl⟩

end Query

end PromRules
