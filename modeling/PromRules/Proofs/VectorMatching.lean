import Mathlib.Data.List.Induction
import PromRules.Proofs.QueryBuild

/-!
Vector-matching clauses on a binary operation.

A binary operation takes up to three clauses after it is built: a matching clause (`on` or
`ignoring`), a group clause (`group_left` or `group_right`) that lives inside the matching clause,
and `bool`. Each clause is put on by its own builder call, and each call checks only part of the
node. Put on in any order, the clauses succeed exactly when those other than `bool` are nothing,
one matching clause, or one matching clause and then one group clause, when `bool` comes at most
once, when a group clause stands on no set operator and when `bool` stands only on a comparison
(`Admissible`). The node they make depends only on which clauses occur (`clausedNode`), so where
`bool` stands does not matter.

The calls run one after another (`applyClauses_append_singleton`). After every admissible prefix
the node is `clausedNode` of the prefix; one more clause goes on exactly when it `Fits` the prefix
(`apply_clausedNode`), which is also what it takes for the longer list to stay admissible
(`admissible_append_singleton`).
-/

namespace PromRules.Query

/-- A clause that a builder call puts on a binary operation, with the labels it names. -/
inductive MatchClause where
  | on (labels : List String)
  | ignoring (labels : List String)
  | groupLeft (labels : List String)
  | groupRight (labels : List String)
  | asBool
deriving DecidableEq

namespace MatchClause

/-- Puts the clause on an expression through its builder call. -/
def apply : MatchClause → Expr → Except QueryError Expr
  | .on labels, e => e.on labels
  | .ignoring labels, e => e.ignoring labels
  | .groupLeft labels, e => e.groupLeft labels
  | .groupRight labels, e => e.groupRight labels
  | .asBool, e => e.asBool

/-- The labels the clause names; `bool` names none. -/
def labels : MatchClause → List String
  | .on labels | .ignoring labels | .groupLeft labels | .groupRight labels => labels
  | .asBool => []

/-- The kind and labels of a matching clause, for `on` and `ignoring`. -/
def matching? : MatchClause → Option (MatchingKind × List String)
  | .on labels => some (.on, labels)
  | .ignoring labels => some (.ignoring, labels)
  | _ => none

/-- The group clause, for `group_left` and `group_right`. -/
def group? : MatchClause → Option GroupClause
  | .groupLeft labels => some ⟨.left, labels⟩
  | .groupRight labels => some ⟨.right, labels⟩
  | _ => none

/-- A matching clause is no group clause. -/
theorem group_eq_none_of_matching {c : MatchClause} (h : c.matching?.isSome) : c.group? = none := by
  cases c <;> simp_all [matching?, group?]

end MatchClause

/-- Puts clauses on an expression one after another, stopping at the first refusal. -/
def applyClauses (e : Expr) (cs : List MatchClause) : Except QueryError Expr :=
  cs.foldlM (fun e c => c.apply e) e

/-- The order the clauses other than `bool` may come in: none, one matching clause, or one
matching clause and then one group clause. -/
inductive MatchingShape : List MatchClause → Prop
  | none : MatchingShape []
  | matching {c : MatchClause} : c.matching?.isSome → MatchingShape [c]
  | grouped {c g : MatchClause} : c.matching?.isSome → g.group?.isSome → MatchingShape [c, g]

/-- When clauses can be put, in this order, on a binary operation with operator `op`. -/
structure Admissible (op : BinOp) (cs : List MatchClause) : Prop where
  shape : MatchingShape (cs.filter (· != .asBool))
  bool_atMostOnce : cs.count .asBool ≤ 1
  group_not_set : (∃ c ∈ cs, c.group?.isSome) → op.category ≠ .set
  bool_comparison : .asBool ∈ cs → op.category = .comparison

/-- The matching clause that clauses describe: the kind and labels of the first `on` or
`ignoring`, holding the first group clause. -/
def matchingOf (cs : List MatchClause) : Option Matching :=
  (cs.findSome? MatchClause.matching?).map fun m => ⟨m.1, m.2, cs.findSome? MatchClause.group?⟩

/-- A binary operation with clauses on it: `bool` set when it occurs among them, and the
matching clause they describe. -/
def clausedNode (op : BinOp) (lhs rhs : Expr) (cs : List MatchClause) : Expr :=
  .binary op lhs rhs (cs.contains .asBool) (matchingOf cs)

/-- Whether one more clause can follow clauses `cs` on an operation with operator `op`. -/
def Fits (op : BinOp) (cs : List MatchClause) : MatchClause → Prop
  | .on _ | .ignoring _ => ∀ c ∈ cs, c.matching? = none
  | .groupLeft _ | .groupRight _ =>
    op.category ≠ .set ∧ (∃ c ∈ cs, c.matching?.isSome) ∧ ∀ c ∈ cs, c.group? = none
  | .asBool => op.category = .comparison ∧ .asBool ∉ cs

/-! ### Running the calls -/

theorem applyClauses_nil (e : Expr) : applyClauses e [] = .ok e := rfl

theorem applyClauses_append_singleton (e : Expr) (cs : List MatchClause) (c : MatchClause) :
    applyClauses e (cs ++ [c]) = applyClauses e cs >>= c.apply := by
  simp only [applyClauses, List.foldlM_append, List.foldlM_cons, List.foldlM_nil, bind_pure]

/-! ### The shape of the clauses other than `bool` -/

theorem matchingShape_append_matching {l : List MatchClause} {c : MatchClause}
    (hc : c.matching?.isSome) : MatchingShape (l ++ [c]) ↔ l = [] := by
  constructor
  · intro h
    rcases l with _ | ⟨a, _ | ⟨b, _ | ⟨d, rest⟩⟩⟩
    · rfl
    · -- `[a, c]` would put the matching clause where the group clause goes
      cases h with
      | grouped _ hg => cases c <;> simp [MatchClause.matching?, MatchClause.group?] at hc hg
    · cases h
    · cases h
  · rintro rfl
    exact .matching hc

theorem matchingShape_append_group {l : List MatchClause} {g : MatchClause}
    (hg : g.group?.isSome) :
    MatchingShape (l ++ [g]) ↔ ∃ m, m.matching?.isSome ∧ l = [m] := by
  constructor
  · intro h
    rcases l with _ | ⟨a, _ | ⟨b, _ | ⟨d, rest⟩⟩⟩
    · -- a group clause alone has no matching clause to live in
      cases h with
      | matching hm => simp [MatchClause.group_eq_none_of_matching hm] at hg
    · cases h with
      | grouped hm _ => exact ⟨a, hm, rfl⟩
    · cases h
    · cases h
  · rintro ⟨m, hm, rfl⟩
    exact .grouped hm hg

/-- The clauses other than `bool` are among the clauses. -/
theorem mem_of_mem_filter_ne_asBool {cs : List MatchClause} {c : MatchClause}
    (h : c ∈ cs.filter (· != .asBool)) : c ∈ cs :=
  (List.mem_filter.1 h).1

theorem mem_filter_ne_asBool {cs : List MatchClause} {c : MatchClause} (hc : c ∈ cs)
    (hne : c ≠ .asBool) : c ∈ cs.filter (· != .asBool) :=
  List.mem_filter.2 ⟨hc, bne_iff_ne.2 hne⟩

theorem ne_asBool_of_matching {c : MatchClause} (h : c.matching?.isSome) : c ≠ .asBool := by
  rintro rfl
  simp [MatchClause.matching?] at h

theorem ne_asBool_of_group {c : MatchClause} (h : c.group?.isSome) : c ≠ .asBool := by
  rintro rfl
  simp [MatchClause.group?] at h

/-- Under an admissible shape, clauses with no matching clause among them are all `bool`. -/
theorem filter_eq_nil_of_matching_none {cs : List MatchClause}
    (hshape : MatchingShape (cs.filter (· != .asBool)))
    (hnone : ∀ c ∈ cs, c.matching? = none) : cs.filter (· != .asBool) = [] := by
  generalize hl : cs.filter (· != .asBool) = l at hshape
  cases hshape with
  | none => rfl
  | matching hm =>
    have := hnone _ (mem_of_mem_filter_ne_asBool (hl ▸ List.mem_singleton_self _))
    simp [this] at hm
  | grouped hm _ =>
    have := hnone _ (mem_of_mem_filter_ne_asBool (hl ▸ List.mem_cons_self))
    simp [this] at hm

theorem eq_asBool_of_filter_eq_nil {cs : List MatchClause} (hnil : cs.filter (· != .asBool) = [])
    {c : MatchClause} (hc : c ∈ cs) : c = .asBool := by
  by_cases hbool : c = .asBool
  · exact hbool
  · have := mem_filter_ne_asBool hc hbool
    simp [hnil] at this

/-- Under an admissible shape, clauses with no matching clause have no group clause either. -/
theorem group_none_of_matching_none {cs : List MatchClause}
    (hshape : MatchingShape (cs.filter (· != .asBool)))
    (hnone : ∀ c ∈ cs, c.matching? = none) : ∀ c ∈ cs, c.group? = none := by
  intro c hc
  rw [eq_asBool_of_filter_eq_nil (filter_eq_nil_of_matching_none hshape hnone) hc]
  rfl

/-- Under an admissible shape, the clauses other than `bool` are one matching clause exactly
when some clause is a matching clause and none is a group clause. -/
theorem filter_eq_singleton_iff {cs : List MatchClause}
    (hshape : MatchingShape (cs.filter (· != .asBool))) :
    (∃ m, m.matching?.isSome ∧ cs.filter (· != .asBool) = [m]) ↔
      (∃ c ∈ cs, c.matching?.isSome) ∧ ∀ c ∈ cs, c.group? = none := by
  generalize hl : cs.filter (· != .asBool) = l at hshape
  have hmem : ∀ c, c ∈ l ↔ c ∈ cs ∧ c ≠ .asBool := by
    intro c
    rw [← hl, List.mem_filter, bne_iff_ne]
  cases hshape with
  | none =>
    constructor
    · rintro ⟨m, -, h⟩
      cases h
    · rintro ⟨⟨c, hc, hm⟩, -⟩
      exact absurd ((hmem c).2 ⟨hc, ne_asBool_of_matching hm⟩) List.not_mem_nil
  | @matching m hm =>
    refine ⟨fun _ => ⟨⟨m, ((hmem m).1 (List.mem_singleton_self _)).1, hm⟩, ?_⟩,
      fun _ => ⟨m, hm, rfl⟩⟩
    intro c hc
    by_cases hbool : c = .asBool
    · rw [hbool]
      rfl
    · -- the one clause other than `bool` is the matching clause
      rw [List.mem_singleton.1 ((hmem c).2 ⟨hc, hbool⟩)]
      exact MatchClause.group_eq_none_of_matching hm
  | @grouped m g hm hg =>
    constructor
    · rintro ⟨m', -, h⟩
      cases h
    · rintro ⟨-, hnone⟩
      have := hnone g ((hmem g).1 (by simp)).1
      simp [this] at hg

/-! ### Admissible lists, one clause at a time -/

theorem admissible_nil (op : BinOp) : Admissible op [] :=
  ⟨.none, by simp, by simp, by simp⟩

/-- The fields of `Admissible` that a clause other than `bool` leaves as they were. -/
theorem count_asBool_append_of_ne {cs : List MatchClause} {c : MatchClause} (hne : c ≠ .asBool) :
    (cs ++ [c]).count .asBool = cs.count .asBool := by
  simp [List.count_append, hne]

theorem mem_append_singleton_of_ne {cs : List MatchClause} {c x : MatchClause} (hne : c ≠ x) :
    x ∈ cs ++ [c] ↔ x ∈ cs := by
  simp only [List.mem_append, List.mem_singleton, or_iff_left_iff_imp]
  exact fun h => absurd h.symm hne

theorem admissible_append_matching {op : BinOp} {cs : List MatchClause} {c : MatchClause}
    (hc : c.matching?.isSome) :
    Admissible op (cs ++ [c]) ↔ Admissible op cs ∧ ∀ x ∈ cs, x.matching? = none := by
  have hne := ne_asBool_of_matching hc
  have hgroup : c.group? = none := MatchClause.group_eq_none_of_matching hc
  have hfilter : (cs ++ [c]).filter (· != .asBool) = cs.filter (· != .asBool) ++ [c] := by
    simp [hne]
  have hgroups : (∃ x ∈ cs ++ [c], x.group?.isSome) ↔ ∃ x ∈ cs, x.group?.isSome := by
    simp [hgroup]
  constructor
  · intro h
    have hnil := (matchingShape_append_matching hc).1 (hfilter ▸ h.shape)
    refine ⟨⟨hnil ▸ .none, ?_, ?_, ?_⟩, ?_⟩
    · exact count_asBool_append_of_ne hne ▸ h.bool_atMostOnce
    · exact fun hg => h.group_not_set (hgroups.2 hg)
    · exact fun hb => h.bool_comparison (List.mem_append_left _ hb)
    · intro x hx
      rw [eq_asBool_of_filter_eq_nil hnil hx]
      rfl
  · rintro ⟨h, hnone⟩
    have hnil := filter_eq_nil_of_matching_none h.shape hnone
    refine ⟨?_, ?_, ?_, ?_⟩
    · rw [hfilter, hnil]
      exact .matching hc
    · exact (count_asBool_append_of_ne hne).symm ▸ h.bool_atMostOnce
    · exact fun hg => h.group_not_set (hgroups.1 hg)
    · exact fun hb => h.bool_comparison ((mem_append_singleton_of_ne hne).1 hb)

theorem admissible_append_group {op : BinOp} {cs : List MatchClause} {g : MatchClause}
    (hg : g.group?.isSome) :
    Admissible op (cs ++ [g]) ↔ Admissible op cs ∧ op.category ≠ .set ∧
      (∃ x ∈ cs, x.matching?.isSome) ∧ ∀ x ∈ cs, x.group? = none := by
  have hne := ne_asBool_of_group hg
  have hfilter : (cs ++ [g]).filter (· != .asBool) = cs.filter (· != .asBool) ++ [g] := by
    simp [hne]
  constructor
  · intro h
    obtain ⟨m, hm, hsingle⟩ := (matchingShape_append_group hg).1 (hfilter ▸ h.shape)
    have hshape : MatchingShape (cs.filter (· != .asBool)) := hsingle ▸ .matching hm
    refine ⟨⟨hshape, ?_, ?_, ?_⟩, h.group_not_set ⟨g, by simp, hg⟩,
      (filter_eq_singleton_iff hshape).1 ⟨m, hm, hsingle⟩⟩
    · exact count_asBool_append_of_ne hne ▸ h.bool_atMostOnce
    · rintro ⟨x, hx, hxg⟩
      exact h.group_not_set ⟨x, List.mem_append_left _ hx, hxg⟩
    · exact fun hb => h.bool_comparison (List.mem_append_left _ hb)
  · rintro ⟨h, hset, hmatching, hnone⟩
    obtain ⟨m, hm, hsingle⟩ := (filter_eq_singleton_iff h.shape).2 ⟨hmatching, hnone⟩
    refine ⟨?_, ?_, fun _ => hset, ?_⟩
    · rw [hfilter, hsingle]
      exact .grouped hm hg
    · exact (count_asBool_append_of_ne hne).symm ▸ h.bool_atMostOnce
    · exact fun hb => h.bool_comparison ((mem_append_singleton_of_ne hne).1 hb)

theorem admissible_append_asBool {op : BinOp} {cs : List MatchClause} :
    Admissible op (cs ++ [MatchClause.asBool]) ↔
      Admissible op cs ∧ op.category = .comparison ∧ .asBool ∉ cs := by
  have hfilter : (cs ++ [MatchClause.asBool]).filter (· != .asBool) = cs.filter (· != .asBool) := by
    simp
  have hcount : (cs ++ [MatchClause.asBool]).count .asBool = cs.count .asBool + 1 := by
    simp [List.count_append]
  have hgroups : (∃ x ∈ cs ++ [MatchClause.asBool], x.group?.isSome) ↔ ∃ x ∈ cs, x.group?.isSome := by
    simp [MatchClause.group?]
  constructor
  · intro h
    have hzero : cs.count .asBool = 0 := by
      have := h.bool_atMostOnce
      omega
    refine ⟨⟨hfilter ▸ h.shape, by omega, fun hg => h.group_not_set (hgroups.2 hg), ?_⟩,
      h.bool_comparison (by simp), List.count_eq_zero.1 hzero⟩
    exact fun hb => h.bool_comparison (List.mem_append_left _ hb)
  · rintro ⟨h, hcmp, hfresh⟩
    have hzero : cs.count .asBool = 0 := List.count_eq_zero.2 hfresh
    exact ⟨hfilter ▸ h.shape, by omega, fun hg => h.group_not_set (hgroups.1 hg),
      fun _ => hcmp⟩

/-- One more clause keeps a list admissible exactly when it fits the clauses before it. -/
theorem admissible_append_singleton {op : BinOp} {cs : List MatchClause} {c : MatchClause} :
    Admissible op (cs ++ [c]) ↔ Admissible op cs ∧ Fits op cs c := by
  cases c with
  | on labels => exact admissible_append_matching rfl
  | ignoring labels => exact admissible_append_matching rfl
  | groupLeft labels => exact admissible_append_group rfl
  | groupRight labels => exact admissible_append_group rfl
  | asBool => exact admissible_append_asBool

/-! ### One clause on the node of a prefix -/

theorem MatchClause.apply_of_matching {c : MatchClause} {kind : MatchingKind}
    {labels : List String} (h : c.matching? = some (kind, labels)) (e : Expr) :
    c.apply e = (checkLabels labels >>= e.withMatching kind) := by
  cases c <;> simp only [MatchClause.matching?, Option.some.injEq, Prod.mk.injEq,
    reduceCtorEq] at h <;> obtain ⟨rfl, rfl⟩ := h <;> rfl

theorem MatchClause.apply_of_group {c : MatchClause} {side : GroupSide} {labels : List String}
    (h : c.group? = some ⟨side, labels⟩) (e : Expr) :
    c.apply e = (checkLabels labels >>= e.withGroup side) := by
  cases c <;> simp only [MatchClause.group?, Option.some.injEq, GroupClause.mk.injEq,
    reduceCtorEq] at h <;> obtain ⟨rfl, rfl⟩ := h <;> rfl

theorem contains_append_of_ne {cs : List MatchClause} {c : MatchClause} (hne : c ≠ .asBool) :
    (cs ++ [c]).contains .asBool = cs.contains .asBool := by
  simp [Ne.symm hne]

theorem matchingOf_eq_none_iff {cs : List MatchClause} :
    matchingOf cs = none ↔ ∀ c ∈ cs, c.matching? = none := by
  simp [matchingOf]

theorem matchingOf_eq_some_none_iff {cs : List MatchClause} {kind : MatchingKind}
    {labels : List String} :
    matchingOf cs = some ⟨kind, labels, none⟩ ↔
      cs.findSome? MatchClause.matching? = some (kind, labels) ∧
        cs.findSome? MatchClause.group? = none := by
  constructor
  · intro h
    obtain ⟨⟨kind', labels'⟩, hfirst, hm⟩ := Option.map_eq_some_iff.1 h
    simp only [Matching.mk.injEq] at hm
    obtain ⟨rfl, rfl, hgroup⟩ := hm
    exact ⟨hfirst, hgroup⟩
  · rintro ⟨hfirst, hgroup⟩
    simp [matchingOf, hfirst, hgroup]

theorem matchingOf_append_matching {cs : List MatchClause} {c : MatchClause}
    {kind : MatchingKind} {labels : List String} (hnone : ∀ x ∈ cs, x.matching? = none)
    (hgroups : ∀ x ∈ cs, x.group? = none) (hc : c.matching? = some (kind, labels)) :
    matchingOf (cs ++ [c]) = some ⟨kind, labels, none⟩ := by
  have hgroup : c.group? = none := MatchClause.group_eq_none_of_matching (by simp [hc])
  simp [matchingOf, List.findSome?_eq_none_iff.2 hnone, List.findSome?_eq_none_iff.2 hgroups,
    hc, hgroup]

theorem matchingOf_append_group {cs : List MatchClause} {g : MatchClause} {kind : MatchingKind}
    {labels : List String} {clause : GroupClause} (h : matchingOf cs = some ⟨kind, labels, none⟩)
    (hg : g.group? = some clause) :
    matchingOf (cs ++ [g]) = some ⟨kind, labels, some clause⟩ := by
  obtain ⟨hfirst, hgroups⟩ := matchingOf_eq_some_none_iff.1 h
  simp [matchingOf, hfirst, hgroups, hg]

theorem matchingOf_append_asBool (cs : List MatchClause) :
    matchingOf (cs ++ [MatchClause.asBool]) = matchingOf cs := by
  simp [matchingOf, MatchClause.matching?, MatchClause.group?]

theorem apply_clausedNode_matching {op : BinOp} {lhs rhs : Expr} {cs : List MatchClause}
    {c : MatchClause} {kind : MatchingKind} {labels : List String} {r : Expr}
    (hadm : Admissible op cs) (hc : c.matching? = some (kind, labels))
    (hlabels : ∀ l ∈ labels, isLabelName l = true) :
    c.apply (clausedNode op lhs rhs cs) = .ok r ↔
      (∀ x ∈ cs, x.matching? = none) ∧ r = clausedNode op lhs rhs (cs ++ [c]) := by
  have hne : c ≠ .asBool := ne_asBool_of_matching (by simp [hc])
  rw [MatchClause.apply_of_matching hc, checkLabels_bind_eq_ok, Expr.withMatching_eq_ok]
  constructor
  · rintro ⟨-, op', lhs', rhs', flag, heq, rfl⟩
    simp only [clausedNode, Expr.binary.injEq] at heq
    obtain ⟨rfl, rfl, rfl, rfl, hnone⟩ := heq
    have hfree := matchingOf_eq_none_iff.1 hnone
    refine ⟨hfree, ?_⟩
    rw [clausedNode, matchingOf_append_matching hfree
      (group_none_of_matching_none hadm.shape hfree) hc, contains_append_of_ne hne]
  · rintro ⟨hfree, rfl⟩
    refine ⟨hlabels, op, lhs, rhs, cs.contains .asBool, ?_, ?_⟩
    · rw [clausedNode, matchingOf_eq_none_iff.2 hfree]
    · rw [clausedNode, matchingOf_append_matching hfree
        (group_none_of_matching_none hadm.shape hfree) hc, contains_append_of_ne hne]

theorem apply_clausedNode_group {op : BinOp} {lhs rhs : Expr} {cs : List MatchClause}
    {g : MatchClause} {side : GroupSide} {labels : List String} {r : Expr}
    (hg : g.group? = some ⟨side, labels⟩) (hlabels : ∀ l ∈ labels, isLabelName l = true) :
    g.apply (clausedNode op lhs rhs cs) = .ok r ↔
      (op.category ≠ .set ∧ (∃ x ∈ cs, x.matching?.isSome) ∧ ∀ x ∈ cs, x.group? = none) ∧
        r = clausedNode op lhs rhs (cs ++ [g]) := by
  have hne : g ≠ .asBool := ne_asBool_of_group (by simp [hg])
  rw [MatchClause.apply_of_group hg, checkLabels_bind_eq_ok, Expr.withGroup_eq_ok]
  constructor
  · rintro ⟨-, op', lhs', rhs', flag, kind, ls, heq, hset, rfl⟩
    simp only [clausedNode, Expr.binary.injEq] at heq
    obtain ⟨rfl, rfl, rfl, rfl, hm⟩ := heq
    obtain ⟨hfirst, hgroups⟩ := matchingOf_eq_some_none_iff.1 hm
    obtain ⟨x, hx, hxm⟩ := List.exists_of_findSome?_eq_some hfirst
    refine ⟨⟨hset, ⟨x, hx, by simp [hxm]⟩, List.findSome?_eq_none_iff.1 hgroups⟩, ?_⟩
    rw [clausedNode, matchingOf_append_group hm hg, contains_append_of_ne hne]
  · rintro ⟨⟨hset, ⟨x, hx, hxm⟩, hnone⟩, rfl⟩
    -- the first matching clause is the one the node carries
    obtain ⟨⟨kind, ls⟩, hfirst⟩ : ∃ m, cs.findSome? MatchClause.matching? = some m :=
      Option.isSome_iff_exists.1 (by rw [List.isSome_findSome?]; exact List.any_eq_true.2 ⟨x, hx, hxm⟩)
    have hm : matchingOf cs = some ⟨kind, ls, none⟩ :=
      matchingOf_eq_some_none_iff.2 ⟨hfirst, List.findSome?_eq_none_iff.2 hnone⟩
    refine ⟨hlabels, op, lhs, rhs, cs.contains .asBool, kind, ls, ?_, hset, ?_⟩
    · rw [clausedNode, hm]
    · rw [clausedNode, matchingOf_append_group hm hg, contains_append_of_ne hne]

theorem apply_clausedNode_asBool {op : BinOp} {lhs rhs : Expr} {cs : List MatchClause}
    {r : Expr} :
    MatchClause.asBool.apply (clausedNode op lhs rhs cs) = .ok r ↔
      (op.category = .comparison ∧ .asBool ∉ cs) ∧
        r = clausedNode op lhs rhs (cs ++ [MatchClause.asBool]) := by
  rw [MatchClause.apply, Expr.asBool_eq_ok]
  constructor
  · rintro ⟨op', lhs', rhs', m, heq, hcmp, rfl⟩
    simp only [clausedNode, Expr.binary.injEq] at heq
    obtain ⟨rfl, rfl, rfl, hflag, rfl⟩ := heq
    refine ⟨⟨hcmp, by simpa using hflag⟩, ?_⟩
    simp [clausedNode, matchingOf_append_asBool]
  · rintro ⟨⟨hcmp, hfresh⟩, rfl⟩
    refine ⟨op, lhs, rhs, matchingOf cs, by simp [clausedNode, hfresh], hcmp, ?_⟩
    simp [clausedNode, matchingOf_append_asBool]

/-- One clause on the node of an admissible prefix: it goes on exactly when it fits the prefix,
and then gives the node of the longer list. -/
theorem apply_clausedNode {op : BinOp} {lhs rhs : Expr} {cs : List MatchClause}
    {c : MatchClause} {r : Expr} (hadm : Admissible op cs)
    (hlabels : ∀ l ∈ c.labels, isLabelName l = true) :
    c.apply (clausedNode op lhs rhs cs) = .ok r ↔
      Fits op cs c ∧ r = clausedNode op lhs rhs (cs ++ [c]) := by
  cases c with
  | on labels => exact apply_clausedNode_matching hadm rfl hlabels
  | ignoring labels => exact apply_clausedNode_matching hadm rfl hlabels
  | groupLeft labels => exact apply_clausedNode_group rfl hlabels
  | groupRight labels => exact apply_clausedNode_group rfl hlabels
  | asBool => exact apply_clausedNode_asBool

/-! ### Every order of clauses -/

/-- Clauses put on a binary operation that has none succeed exactly when they are admissible,
and then give the operation with the clauses they describe. -/
theorem applyClauses_eq_ok_iff {op : BinOp} {lhs rhs : Expr} {cs : List MatchClause}
    (hlabels : ∀ c ∈ cs, ∀ l ∈ c.labels, isLabelName l = true) {r : Expr} :
    applyClauses (.binary op lhs rhs false none) cs = .ok r ↔
      Admissible op cs ∧ r = clausedNode op lhs rhs cs := by
  -- the calls run from the left, so the induction adds one clause at the end
  induction cs using List.reverseRecOn generalizing r with
  | nil =>
    rw [applyClauses_nil]
    constructor
    · rintro ⟨⟩
      exact ⟨admissible_nil op, rfl⟩
    · rintro ⟨-, rfl⟩
      rfl
  | append_singleton cs c ih =>
    have hprefix : ∀ x ∈ cs, ∀ l ∈ x.labels, isLabelName l = true :=
      fun x hx => hlabels x (List.mem_append_left _ hx)
    have hlast : ∀ l ∈ c.labels, isLabelName l = true :=
      hlabels c (List.mem_append_right _ (List.mem_singleton_self c))
    rw [applyClauses_append_singleton, bind_eq_ok, admissible_append_singleton]
    constructor
    · rintro ⟨mid, hmid, hstep⟩
      obtain ⟨hadm, rfl⟩ := (ih hprefix).1 hmid
      obtain ⟨hfits, rfl⟩ := (apply_clausedNode hadm hlast).1 hstep
      exact ⟨⟨hadm, hfits⟩, rfl⟩
    · rintro ⟨⟨hadm, hfits⟩, rfl⟩
      exact ⟨_, (ih hprefix).2 ⟨hadm, rfl⟩, (apply_clausedNode hadm hlast).2 ⟨hfits, rfl⟩⟩

/-! ### Where `bool` stands -/

/-- Admissibility asks only which clauses occur and in what order those other than `bool`
come. -/
theorem Admissible.of_perm {op : BinOp} {cs cs' : List MatchClause} (h : Admissible op cs)
    (hperm : cs.Perm cs') (hfilter : cs.filter (· != .asBool) = cs'.filter (· != .asBool)) :
    Admissible op cs' := by
  obtain ⟨hshape, hcount, hgroup, hbool⟩ := h
  refine ⟨hfilter ▸ hshape, hperm.count_eq MatchClause.asBool ▸ hcount, ?_, ?_⟩
  · rintro ⟨x, hx, hxg⟩
    exact hgroup ⟨x, hperm.mem_iff.2 hx, hxg⟩
  · exact fun hb => hbool (hperm.mem_iff.2 hb)

theorem admissible_asBool_middle {op : BinOp} {pre post : List MatchClause} :
    Admissible op (pre ++ MatchClause.asBool :: post) ↔
      Admissible op (MatchClause.asBool :: (pre ++ post)) := by
  have hperm : (pre ++ MatchClause.asBool :: post).Perm (MatchClause.asBool :: (pre ++ post)) :=
    List.perm_middle
  have hfilter : (pre ++ MatchClause.asBool :: post).filter (· != .asBool) =
      (MatchClause.asBool :: (pre ++ post)).filter (· != .asBool) := by
    simp
  exact ⟨fun h => h.of_perm hperm hfilter, fun h => h.of_perm hperm.symm hfilter.symm⟩

theorem clausedNode_asBool_middle (op : BinOp) (lhs rhs : Expr) (pre post : List MatchClause) :
    clausedNode op lhs rhs (pre ++ MatchClause.asBool :: post) =
      clausedNode op lhs rhs (MatchClause.asBool :: (pre ++ post)) := by
  -- `bool` is neither a matching clause nor a group clause, so both searches skip it
  have hskip : ∀ {β : Type} (f : MatchClause → Option β), f .asBool = none →
      (pre ++ MatchClause.asBool :: post).findSome? f =
        (MatchClause.asBool :: (pre ++ post)).findSome? f := by
    intro β f hf
    simp [List.findSome?_append, hf]
  simp only [clausedNode, matchingOf, hskip MatchClause.matching? rfl,
    hskip MatchClause.group? rfl, List.contains_append, List.contains_cons, BEq.rfl,
    Bool.true_or, Bool.or_true]

/-- `bool` names no labels, so inserting it keeps every label valid. -/
theorem labels_asBool_middle {pre post : List MatchClause}
    (hlabels : ∀ c ∈ pre ++ post, ∀ l ∈ c.labels, isLabelName l = true) :
    ∀ c ∈ pre ++ MatchClause.asBool :: post, ∀ l ∈ c.labels, isLabelName l = true := by
  intro c hc
  rcases List.mem_append.1 hc with hc | hc
  · exact hlabels c (List.mem_append_left _ hc)
  · rcases List.mem_cons.1 hc with rfl | hc
    · simp [MatchClause.labels]
    · exact hlabels c (List.mem_append_right _ hc)

/-- Moving `bool` within a list of clauses changes neither whether they go on nor what they
give. -/
theorem applyClauses_asBool_middle {op : BinOp} {lhs rhs : Expr} {pre post : List MatchClause}
    (hlabels : ∀ c ∈ pre ++ post, ∀ l ∈ c.labels, isLabelName l = true) {r : Expr} :
    applyClauses (.binary op lhs rhs false none) (pre ++ MatchClause.asBool :: post) = .ok r ↔
      applyClauses (.binary op lhs rhs false none) (MatchClause.asBool :: (pre ++ post)) =
        .ok r := by
  have hfront : ∀ c ∈ MatchClause.asBool :: (pre ++ post), ∀ l ∈ c.labels,
      isLabelName l = true := by
    intro c hc
    rcases List.mem_cons.1 hc with rfl | hc
    · simp [MatchClause.labels]
    · exact hlabels c hc
  rw [applyClauses_eq_ok_iff (labels_asBool_middle hlabels), applyClauses_eq_ok_iff hfront,
    admissible_asBool_middle, clausedNode_asBool_middle]

/-- Vector-matching clauses, put on a built binary operation in any order, succeed exactly when
they are admissible, and then give the operation with `bool` set when it occurs and the
matching clause the others describe. In particular where `bool` stands among them does not
matter. -/
theorem binop_clauses_eq_ok_iff {lhs rhs : Operand} {op : BinOp} {e : Expr}
    (he : binop lhs op rhs = .ok e) :
    (∀ cs : List MatchClause, (∀ c ∈ cs, ∀ l ∈ c.labels, isLabelName l = true) → ∀ r,
      applyClauses e cs = .ok r ↔
        Admissible op cs ∧
          r = .binary op lhs.toExpr rhs.toExpr (cs.contains .asBool) (matchingOf cs)) ∧
    ∀ pre post pre' post' : List MatchClause,
      (∀ c ∈ pre ++ post, ∀ l ∈ c.labels, isLabelName l = true) →
        pre ++ post = pre' ++ post' → ∀ r,
          applyClauses e (pre ++ MatchClause.asBool :: post) = .ok r ↔
            applyClauses e (pre' ++ MatchClause.asBool :: post') = .ok r := by
  obtain ⟨-, rfl⟩ := binop_eq_ok.1 he
  refine ⟨fun cs hlabels r => applyClauses_eq_ok_iff hlabels, ?_⟩
  intro pre post pre' post' hlabels hsame r
  rw [applyClauses_asBool_middle hlabels, applyClauses_asBool_middle (hsame ▸ hlabels), hsame]

/-- `a > bool on(job) group_left(team) 0`, with `bool` put on between the two clauses. -/
theorem gt_bool_between_matching_clauses :
    applyClauses (.binary .gt (.selector ⟨"a", none⟩) (.literal ⟨0⟩) false none)
        [.on ["job"], .asBool, .groupLeft ["team"]] =
      .ok (.binary .gt (.selector ⟨"a", none⟩) (.literal ⟨0⟩) true
        (some ⟨.on, ["job"], some ⟨.left, ["team"]⟩⟩)) :=
  ((binop_clauses_eq_ok_iff
      (show binop (.expr (.selector ⟨"a", none⟩)) .gt (.number ⟨0⟩) = .ok _ from rfl)).1
    _ (by decide) _).2 ⟨⟨.grouped rfl rfl, by decide, fun _ => by decide, fun _ => rfl⟩, rfl⟩

end PromRules.Query
