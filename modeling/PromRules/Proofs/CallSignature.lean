import Mathlib.Data.List.Nodup
import PromRules.Proofs.QueryBuild

/-!
Calls checked against their signature.

A signature takes an argument at a position when it expects a kind there, the parameter at that
position or past the parameters the trailing kind, and that kind accepts the argument
(`FunctionSpec.AcceptsAt`). Checking the arguments from a position succeeds exactly when every
argument is taken, and gives them back in order with each bare number turned into a literal
(`checkArgs_eq_ok_iff`); otherwise it fails at the first argument that is not taken
(`checkArgs_eq_error_iff`). A call has its count checked first, so every position it then checks
expects a kind, and the refusal of an argument beyond the signature never happens
(`expectedAt_isSome`). The main statement, `call_checks_signature`, puts these together for a
call by name: the names of the function table are pairwise distinct, so a call builds with the
signature of its name, and a name outside the table is refused as unknown.
-/

namespace PromRules.Query

/-! ### Positions of a list -/

section Positions

variable {α : Type} {a : α} {rest : List α}

/-- A property of every position of `a :: rest` is one of `a` and one of every later position. -/
theorem forall_lt_length_cons {P : Nat → α → Prop} :
    (∀ i (h : i < (a :: rest).length), P i (a :: rest)[i]) ↔
      P 0 a ∧ ∀ i (h : i < rest.length), P (i + 1) rest[i] := by
  constructor
  · intro h
    exact ⟨h 0 (Nat.zero_lt_succ _), fun i hi => h (i + 1) (Nat.succ_lt_succ hi)⟩
  · rintro ⟨h0, hs⟩ i hi
    cases i with
    | zero => exact h0
    | succ i => exact hs i (Nat.lt_of_succ_lt_succ hi)

/-- The first position of `a :: rest` where `R` holds after `Q` held everywhere before is `a`
itself, or a position of `rest` when `Q` holds of `a`. -/
theorem exists_first_cons {Q R : Nat → α → Prop} :
    (∃ i, ∃ h : i < (a :: rest).length,
        (∀ j (hj : j < i), Q j (a :: rest)[j]) ∧ R i (a :: rest)[i]) ↔
      R 0 a ∨ (Q 0 a ∧ ∃ i, ∃ h : i < rest.length,
        (∀ j (hj : j < i), Q (j + 1) rest[j]) ∧ R (i + 1) rest[i]) := by
  constructor
  · rintro ⟨i, hi, hbefore, hat⟩
    cases i with
    | zero => exact .inl hat
    | succ i =>
      exact .inr ⟨hbefore 0 (Nat.zero_lt_succ _), i, Nat.lt_of_succ_lt_succ hi,
        fun j hj => hbefore (j + 1) (Nat.succ_lt_succ hj), hat⟩
  · rintro (hat | ⟨h0, i, hi, hbefore, hat⟩)
    · exact ⟨0, Nat.zero_lt_succ _, fun j hj => absurd hj (Nat.not_lt_zero j), hat⟩
    · refine ⟨i + 1, Nat.succ_lt_succ hi, fun j hj => ?_, hat⟩
      cases j with
      | zero => exact h0
      | succ j => exact hbefore j (Nat.lt_of_succ_lt_succ hj)

end Positions

namespace FunctionSpec

variable {spec : FunctionSpec}

/-- A signature takes an argument at a position when it expects a kind there that accepts it. -/
def AcceptsAt (spec : FunctionSpec) (position : Nat) (arg : CallArg) : Prop :=
  ∃ k, spec.expectedAt position = some k ∧ k.accepts arg = true

/-- How checking refuses an argument at a position with an error: no kind is expected there, or
the kind expected there does not accept it. The message counts positions from one. -/
def RefusesWith (spec : FunctionSpec) (err : QueryError) (position : Nat) (arg : CallArg) : Prop :=
  (spec.expectedAt position = none ∧
      err = spec.mismatch s!"unexpected argument {position + 1}") ∨
    ∃ k, spec.expectedAt position = some k ∧ k.accepts arg = false ∧
      err = spec.mismatch s!"argument {position + 1} expected {k.name}, got {arg.describe}"

theorem expectedAt_of_lt {i : Nat} (h : i < spec.params.length) :
    spec.expectedAt i = some spec.params[i] := by
  simp [expectedAt, h]

theorem expectedAt_of_le {i : Nat} (h : spec.params.length ≤ i) :
    spec.expectedAt i = spec.variadic := by
  simp [expectedAt, h]

/-- Once the count fits, every position below it expects a kind. -/
theorem expectedAt_isSome {count i : Nat} (hfit : spec.arityFits count = true) (hi : i < count) :
    (spec.expectedAt i).isSome := by
  by_cases hlt : i < spec.params.length
  · simp [expectedAt_of_lt hlt]
  · -- past the parameters, only a signature with trailing arguments admits the count
    rw [expectedAt_of_le (Nat.le_of_not_lt hlt)]
    unfold arityFits at hfit
    cases hv : spec.variadic with
    | none =>
      rw [hv] at hfit
      have hcount : count = spec.params.length := by simpa using hfit
      omega
    | some k => rfl

theorem checkArgs_cons_eq_ok {position : Nat} {arg : CallArg} {rest : List CallArg}
    {checked : List Arg} :
    spec.checkArgs position (arg :: rest) = .ok checked ↔
      spec.AcceptsAt position arg ∧
        ∃ tail, spec.checkArgs (position + 1) rest = .ok tail ∧ checked = arg.toArg :: tail := by
  unfold AcceptsAt
  cases hk : spec.expectedAt position with
  | none => simp [checkArgs, hk]
  | some expected =>
    cases hacc : expected.accepts arg with
    | false => simp [checkArgs, hk, hacc]
    | true =>
      simp only [checkArgs, hk, hacc, if_true, map_eq_ok, Option.some.injEq, exists_eq_left',
        true_and]
      exact exists_congr fun tail => and_congr_right fun _ => eq_comm

theorem checkArgs_cons_eq_error {position : Nat} {arg : CallArg} {rest : List CallArg}
    {err : QueryError} :
    spec.checkArgs position (arg :: rest) = .error err ↔
      spec.RefusesWith err position arg ∨
        (spec.AcceptsAt position arg ∧ spec.checkArgs (position + 1) rest = .error err) := by
  unfold AcceptsAt RefusesWith
  cases hk : spec.expectedAt position with
  | none =>
    simp only [checkArgs, hk, Except.error.injEq, true_and, reduceCtorEq, false_and, exists_false,
      or_false]
    exact eq_comm
  | some expected =>
    cases hacc : expected.accepts arg with
    | false =>
      simp only [checkArgs, hk, hacc, Bool.false_eq_true, if_false, Except.error.injEq,
        reduceCtorEq, false_and, Option.some.injEq, exists_eq_left', true_and, false_or, or_false]
      exact eq_comm
    | true =>
      -- the head is taken, so the error can only come from the rest
      cases hrest : spec.checkArgs (position + 1) rest <;>
        simp [checkArgs, hk, hacc, hrest, Except.map]

/-- Checking from a position succeeds exactly when the signature takes every argument at its
position, and gives the arguments in order with each bare number turned into a literal. -/
theorem checkArgs_eq_ok_iff {position : Nat} {args : List CallArg} {checked : List Arg} :
    spec.checkArgs position args = .ok checked ↔
      (∀ i (h : i < args.length), spec.AcceptsAt (position + i) args[i]) ∧
        checked = args.map CallArg.toArg := by
  induction args generalizing position checked with
  | nil => simp [checkArgs, eq_comm]
  | cons arg rest ih =>
    rw [checkArgs_cons_eq_ok, forall_lt_length_cons]
    -- position `i + 1` of the whole list is position `i` of the rest, checked one further on
    constructor
    · rintro ⟨hhead, tail, hrest, rfl⟩
      obtain ⟨hall, rfl⟩ := ih.1 hrest
      refine ⟨⟨hhead, fun i hi => ?_⟩, rfl⟩
      have hshift : position + (i + 1) = position + 1 + i := by omega
      rw [hshift]
      exact hall i hi
    · rintro ⟨⟨hhead, hall⟩, rfl⟩
      refine ⟨hhead, _, ih.2 ⟨fun i hi => ?_, rfl⟩, rfl⟩
      have hshift : position + 1 + i = position + (i + 1) := by omega
      rw [hshift]
      exact hall i hi

/-- Checking from a position fails exactly at the first argument the signature does not take. -/
theorem checkArgs_eq_error_iff {position : Nat} {args : List CallArg} {err : QueryError} :
    spec.checkArgs position args = .error err ↔
      ∃ i, ∃ h : i < args.length, (∀ j (hj : j < i), spec.AcceptsAt (position + j) args[j]) ∧
        spec.RefusesWith err (position + i) args[i] := by
  induction args generalizing position with
  | nil => simp [checkArgs]
  | cons arg rest ih =>
    rw [checkArgs_cons_eq_error, exists_first_cons, ih]
    -- position `i + 1` of the whole list is position `i` of the rest, checked one further on
    simp only [Nat.add_zero, Nat.add_assoc, Nat.add_comm 1]

/-- A call is built exactly when the count fits and the signature takes every argument at its
position; the node holds the arguments in order, each bare number turned into a literal. -/
theorem build_eq_ok_iff {args : List CallArg} {node : Expr} :
    spec.build args = .ok node ↔
      spec.arityFits args.length = true ∧
        (∀ i (h : i < args.length), spec.AcceptsAt i args[i]) ∧
        node = if spec.family = .aggregate then .aggregate spec.name (args.map CallArg.toArg) none
          else .call spec.name (args.map CallArg.toArg) spec.returns := by
  unfold build
  cases hfit : spec.arityFits args.length with
  | false => simp
  | true =>
    simp only [if_true, map_eq_ok, checkArgs_eq_ok_iff, Nat.zero_add, true_and]
    constructor
    · rintro ⟨checked, ⟨hall, rfl⟩, rfl⟩
      refine ⟨hall, ?_⟩
      cases spec.family <;> rfl
    · rintro ⟨hall, rfl⟩
      refine ⟨_, ⟨hall, rfl⟩, ?_⟩
      cases spec.family <;> rfl

/-- A call is refused for its count when the count does not fit, and otherwise at the first
argument whose position expects a kind that does not accept it. -/
theorem build_eq_error_iff {args : List CallArg} {err : QueryError} :
    spec.build args = .error err ↔
      (spec.arityFits args.length = false ∧
        err = spec.mismatch ("expected " ++ (if spec.variadic.isSome then "at least " else "") ++
          s!"{spec.params.length} argument(s), got {args.length}")) ∨
      (spec.arityFits args.length = true ∧
        ∃ i k, ∃ h : i < args.length, (∀ j (hj : j < i), spec.AcceptsAt j args[j]) ∧
          spec.expectedAt i = some k ∧ k.accepts args[i] = false ∧
          err = spec.mismatch s!"argument {i + 1} expected {k.name}, got {args[i].describe}") := by
  unfold build
  cases hfit : spec.arityFits args.length with
  | false =>
    simp only [Bool.false_eq_true, if_false, Except.error.injEq, true_and, false_and, or_false]
    have hmsg : ∀ q : String, s!"expected {q}{spec.params.length} argument(s), got {args.length}" =
        "expected " ++ q ++ s!"{spec.params.length} argument(s), got {args.length}" := by
      intro q
      simp only [String.append_assoc]
      rfl
    rw [hmsg]
    exact eq_comm
  | true =>
    simp only [if_true, map_eq_error, checkArgs_eq_error_iff, Nat.zero_add, true_and, Bool.true_eq_false,
      false_and, false_or]
    constructor
    · rintro ⟨i, hi, hbefore, ⟨hnone, -⟩ | ⟨k, hk, hacc, rfl⟩⟩
      · -- the count fits, so the position expects a kind
        have hsome := expectedAt_isSome hfit hi
        rw [hnone] at hsome
        cases hsome
      · exact ⟨i, k, hi, hbefore, hk, hacc, rfl⟩
    · rintro ⟨i, k, hi, hbefore, hk, hacc, rfl⟩
      exact ⟨i, hi, hbefore, .inr ⟨k, hk, hacc, rfl⟩⟩

end FunctionSpec

/-- No two functions of the table share a name. -/
theorem functions_names_nodup : (functions.map FunctionSpec.name).Nodup := by
  decide +kernel

/-- A function of the table is found under its own name. -/
theorem lookupFunction_name {spec : FunctionSpec} (hspec : spec ∈ functions) :
    lookupFunction spec.name = some spec := by
  cases hfind : lookupFunction spec.name with
  | none =>
    have hnone := List.find?_eq_none.1 hfind spec hspec
    simp at hnone
  | some found =>
    -- what is found carries the name, and the names tell the functions apart
    have hmem := List.mem_of_find?_eq_some hfind
    have hname : found.name = spec.name := by simpa using List.find?_some hfind
    rw [List.inj_on_of_nodup_map functions_names_nodup hmem hspec hname]

/-- A name that no function of the table carries is refused as unknown. -/
theorem call_of_not_mem {name : String} (hname : name ∉ functions.map FunctionSpec.name)
    (args : List CallArg) : call name args = .error (.unknownFunction name) := by
  have hnone : lookupFunction name = none := by
    refine List.find?_eq_none.2 fun spec hspec heq => hname ?_
    exact List.mem_map.2 ⟨spec, hspec, by simpa using heq⟩
  simp [call, hnone]

/-- A call of a function of the table is built with its signature: exactly when the count fits
and every argument is of its position's kind, as a node over the converted arguments; otherwise
it is refused for the count, or else at the first argument that does not fit. A name outside the
table is refused as unknown. -/
theorem call_checks_signature {spec : FunctionSpec} (hspec : spec ∈ functions)
    (args : List CallArg) :
    call spec.name args = spec.build args ∧
    (∀ node, spec.build args = .ok node ↔
      spec.arityFits args.length = true ∧
        (∀ i (h : i < args.length), spec.AcceptsAt i args[i]) ∧
        node = if spec.family = .aggregate then .aggregate spec.name (args.map CallArg.toArg) none
          else .call spec.name (args.map CallArg.toArg) spec.returns) ∧
    (∀ err, spec.build args = .error err ↔
      (spec.arityFits args.length = false ∧
        err = spec.mismatch ("expected " ++ (if spec.variadic.isSome then "at least " else "") ++
          s!"{spec.params.length} argument(s), got {args.length}")) ∨
      (spec.arityFits args.length = true ∧
        ∃ i k, ∃ h : i < args.length, (∀ j (hj : j < i), spec.AcceptsAt j args[j]) ∧
          spec.expectedAt i = some k ∧ k.accepts args[i] = false ∧
          err = spec.mismatch s!"argument {i + 1} expected {k.name}, got {args[i].describe}")) ∧
    (∀ name, name ∉ functions.map FunctionSpec.name →
      call name args = .error (.unknownFunction name)) := by
  refine ⟨?_, fun _ => FunctionSpec.build_eq_ok_iff, fun _ => FunctionSpec.build_eq_error_iff,
    fun _ hname => call_of_not_mem hname args⟩
  simp [call, lookupFunction_name hspec]

/-- `rate` refuses a bare number where it expects a range vector. -/
theorem rate_refuses_number :
    rollup "rate" [.rangeVector] ∈ functions ∧
      call "rate" [.number (Binary64.zero false)] =
        .error (.typeMismatch "rate" "argument 1 expected range vector, got number") := by
  have hmem : rollup "rate" [.rangeVector] ∈ functions := by decide +kernel
  obtain ⟨hcall, -, herr, -⟩ := call_checks_signature hmem [.number (Binary64.zero false)]
  refine ⟨hmem, ?_⟩
  refine hcall.trans ((herr _).2 (.inr ⟨rfl, 0, .rangeVector, by decide, ?_, rfl, rfl, rfl⟩))
  intro j hj
  exact absurd hj (Nat.not_lt_zero j)

end PromRules.Query
