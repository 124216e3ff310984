import Mathlib
import PromRules.Rule.Bundle

/-!
Registration keeps a bundle consistent, and a refused registration changes nothing.

A bundle is consistent when the names it has taken are exactly the names of its rules, those
names are nonempty and pairwise distinct, and every recording is named like a metric. All six
registration calls are `insert` under the name the call derives, and `insert` makes every one
of its checks before it touches the bundle (`insert_run_eq_error`, `insert_run_eq_ok`). So a
refused call leaves the bundle exactly as it was, and an accepted one takes one new name and
appends one rule. Every bundle a program holds is made by `create`, `withInterval` and
registration calls (`Reachable`), and by induction over these every such bundle is consistent
(`Reachable.consistent`).
-/

namespace PromRules.Rule

open Query

namespace Bundle

/-- What registration keeps: the taken names are the rules' names, which are nonempty and
pairwise distinct, and every recording is named like a metric. -/
structure Consistent (b : Bundle) : Prop where
  mem_taken_iff : ∀ n, n ∈ b.taken ↔ n ∈ b.names
  names_nodup : b.names.Nodup
  names_ne_empty : ∀ n ∈ b.names, n ≠ ""
  recording_named :
    ∀ e ∈ b.entries, ∀ r, e.producer = .recording r → isMetricName e.name = true

/-- The bundle after a call, whatever the call returned. -/
def after {α : Type} (calls : EStateM RuleError Bundle α) (b : Bundle) : Bundle :=
  match calls.run b with
  | .ok _ b' => b'
  | .error _ b' => b'

theorem names_after_append {b : Bundle} {name : String} {p : Producer} :
    ({ b with taken := name :: b.taken, entries := b.entries ++ [Entry.mk name p] } :
      Bundle).names = b.names ++ [name] := by
  simp [names]

theorem create_consistent (name : String) : (create name).Consistent where
  mem_taken_iff := by simp [create, names]
  names_nodup := by simp [create, names]
  names_ne_empty := by simp [create, names]
  recording_named := by simp [create]

theorem withInterval_consistent {b : Bundle} (hb : b.Consistent) (d : Duration) :
    (b.withInterval d).Consistent :=
  ⟨hb.mem_taken_iff, hb.names_nodup, hb.names_ne_empty, hb.recording_named⟩

/-! ### The series of a rule -/

theorem checkLabelName_alertname : checkLabelName "alertname" = .ok () := by
  rfl

/-- An alert is always seen as `ALERTS{alertname="<name>"}`, whatever its name. -/
theorem output_alert (name : String) (r : Except RuleError AlertRule) :
    output name (.alert r) = .ok (.selector ⟨"ALERTS", some [⟨"alertname", name⟩]⟩) := by
  simp only [output, metric, checkMetricName, Expr.withLabels, setMatchers,
    checkLabelName_alertname]
  rfl

/-- A recording is seen as `<name>{}` when its name is a metric name, and is refused as an
invalid name otherwise. -/
theorem output_recording (name : String) (r : Except RuleError RecordingRule) :
    output name (.recording r) =
      if isMetricName name then .ok (.selector ⟨name, some []⟩)
      else .error (.query (.invalidName s!"'{name}' is not a valid metric name")) := by
  simp only [output, checkMetricName]
  split <;> rfl

theorem isMetricName_of_output_recording {name : String} {r : Except RuleError RecordingRule}
    {s : Expr} (h : output name (.recording r) = .ok s) : isMetricName name = true := by
  rw [output_recording] at h
  split at h
  · assumption
  · cases h

/-! ### One registration -/

section Run

variable {ε σ α : Type} (st : σ)

/-! `get`, `modify` and `>>=` run by the state monad's own simp lemmas; a refusal is a `throw`,
and the checked series comes in through `MonadExcept.ofExcept`. -/

attribute [local simp] EStateM.run_throw

@[simp] theorem run_ofExcept_ok (a : α) :
    (MonadExcept.ofExcept (.ok a : Except ε α) : EStateM ε σ α).run st = .ok a st := rfl

@[simp] theorem run_ofExcept_error (e : ε) :
    (MonadExcept.ofExcept (.error e : Except ε α) : EStateM ε σ α).run st = .error e st := rfl

/-! A name already taken, or an empty one, or a series that cannot be built, refuses the
registration and leaves the bundle as it was; otherwise the name is taken and the entry added. -/

theorem insert_run_of_empty (b : Bundle) (p : Producer) :
    (insert "" p).run b = .error .emptyName b := by
  simp [insert]

theorem insert_run_of_taken {b : Bundle} {name : String} (hname : name ≠ "")
    (htaken : name ∈ b.taken) (p : Producer) :
    (insert name p).run b = .error (.duplicateRule name) b := by
  simp [insert, hname, htaken]

theorem insert_run_of_output_error {b : Bundle} {name : String} (hname : name ≠ "")
    (hfree : name ∉ b.taken) {p : Producer} {err : RuleError}
    (hout : output name p = .error err) :
    (insert name p).run b = .error err b := by
  simp [insert, hname, hfree, hout]

theorem insert_run_of_output_ok {b : Bundle} {name : String} (hname : name ≠ "")
    (hfree : name ∉ b.taken) {p : Producer} {s : Expr} (hout : output name p = .ok s) :
    (insert name p).run b =
      .ok s { b with taken := name :: b.taken, entries := b.entries ++ [⟨name, p⟩] } := by
  simp [insert, hname, hfree, hout]

end Run

/-- Everything a refused registration can do: it leaves the bundle as it was, and the cause is
an empty name, a taken name, or the refused name of a recording. -/
theorem insert_run_eq_error {b b' : Bundle} {name : String} {p : Producer} {err : RuleError}
    (h : (insert name p).run b = .error err b') :
    b' = b ∧ (err = .emptyName ∨ err = .duplicateRule name ∨
      ∃ detail, err = .query (.invalidName detail)) := by
  by_cases hname : name = ""
  · subst hname
    rw [insert_run_of_empty] at h
    cases h
    exact ⟨rfl, .inl rfl⟩
  by_cases htaken : name ∈ b.taken
  · rw [insert_run_of_taken hname htaken] at h
    cases h
    exact ⟨rfl, .inr (.inl rfl)⟩
  cases hout : output name p with
  | error cause =>
    rw [insert_run_of_output_error hname htaken hout] at h
    cases h
    -- only a recording's series can be refused, and only for its name
    cases p with
    | alert r => rw [output_alert] at hout; cases hout
    | recording r =>
      rw [output_recording] at hout
      split at hout
      · cases hout
      · cases hout
        exact ⟨rfl, .inr (.inr ⟨_, rfl⟩)⟩
  | ok s =>
    rw [insert_run_of_output_ok hname htaken hout] at h
    cases h

/-- Everything an accepted registration does: the name was free and nonempty, the series is
the rule's, the name is taken and the rule is appended. -/
theorem insert_run_eq_ok {b b' : Bundle} {name : String} {p : Producer} {s : Expr}
    (h : (insert name p).run b = .ok s b') :
    name ≠ "" ∧ name ∉ b.taken ∧ output name p = .ok s ∧
      b' = { b with taken := name :: b.taken, entries := b.entries ++ [⟨name, p⟩] } := by
  by_cases hname : name = ""
  · subst hname
    rw [insert_run_of_empty] at h
    cases h
  by_cases htaken : name ∈ b.taken
  · rw [insert_run_of_taken hname htaken] at h
    cases h
  cases hout : output name p with
  | error cause =>
    rw [insert_run_of_output_error hname htaken hout] at h
    cases h
  | ok s' =>
    rw [insert_run_of_output_ok hname htaken hout] at h
    cases h
    exact ⟨hname, htaken, rfl, rfl⟩

/-- An accepted registration keeps the bundle consistent. -/
theorem consistent_of_insert_run_eq_ok {b b' : Bundle} {name : String} {p : Producer}
    {s : Expr} (hb : b.Consistent) (h : (insert name p).run b = .ok s b') : b'.Consistent := by
  obtain ⟨hname, hfree, hout, rfl⟩ := insert_run_eq_ok h
  have hnew : name ∉ b.names := fun hmem => hfree ((hb.mem_taken_iff name).mpr hmem)
  constructor
  · intro n
    rw [names_after_append]
    simp only [List.mem_cons, List.mem_append, List.not_mem_nil, or_false, hb.mem_taken_iff]
    exact or_comm
  · rw [names_after_append, List.nodup_append]
    refine ⟨hb.names_nodup, by simp, ?_⟩
    intro a ha c hc
    rw [List.mem_singleton.mp hc]
    rintro rfl
    exact hnew ha
  · intro n hn
    rw [names_after_append, List.mem_append, List.mem_singleton] at hn
    rcases hn with hn | rfl
    · exact hb.names_ne_empty n hn
    · exact hname
  · intro e he r hr
    rcases List.mem_append.mp he with he | he
    · exact hb.recording_named e he r hr
    · rw [List.mem_singleton.mp he] at hr ⊢
      cases hr
      exact isMetricName_of_output_recording hout

/-- One registration, accepted or refused, keeps the bundle consistent. -/
theorem after_insert_consistent {b : Bundle} (hb : b.Consistent) (name : String)
    (p : Producer) : (after (insert name p) b).Consistent := by
  unfold after
  split
  · next s b' h => exact consistent_of_insert_run_eq_ok hb h
  · next err b' h => rw [(insert_run_eq_error h).1]; exact hb

/-! ### Registration calls -/

/-- The registration calls of a bundle with their arguments: two name the rule from an
identifier, two take the name as given, and two register an expression directly. -/
inductive Call where
  | registerAlert (identifier : String) (result : Except RuleError AlertRule)
  | registerRecording (identifier : String) (result : Except RuleError RecordingRule)
  | registerAlertNamed (name : String) (result : Except RuleError AlertRule)
  | registerRecordingNamed (name : String) (result : Except RuleError RecordingRule)
  | alert (e : Expr) (name : String)
  | record (e : Expr) (name : String)

namespace Call

/-- The call as the bundle runs it. -/
def run : Call → EStateM RuleError Bundle Expr
  | .registerAlert identifier result => Bundle.registerAlert identifier result
  | .registerRecording identifier result => Bundle.registerRecording identifier result
  | .registerAlertNamed name result => Bundle.registerAlertNamed name result
  | .registerRecordingNamed name result => Bundle.registerRecordingNamed name result
  | .alert e name => Bundle.alert e name
  | .record e name => Bundle.record e name

/-- The name a call registers its rule under: derived from the identifier by `alertName` or
`recordingName`, and taken as given by the other four calls. -/
def ruleName : Call → String
  | .registerAlert identifier _ => alertName identifier
  | .registerRecording identifier _ => recordingName identifier
  | .registerAlertNamed name _ | .registerRecordingNamed name _ => name
  | .alert _ name | .record _ name => name

/-- The producer a call stores. -/
def producer : Call → Producer
  | .registerAlert _ result | .registerAlertNamed _ result => .alert result
  | .registerRecording _ result | .registerRecordingNamed _ result => .recording result
  | .alert e _ => .alert (.ok (AlertRule.ofExpr e))
  | .record e _ => .recording (.ok (RecordingRule.ofExpr e))

/-- The series an accepted call returns: `ALERTS{alertname="<name>"}` for an alert, and the
recorded series with empty braces, `<name>{}`, for a recording. -/
def series (c : Call) : Expr :=
  match c.producer with
  | .alert _ => .selector ⟨"ALERTS", some [⟨"alertname", c.ruleName⟩]⟩
  | .recording _ => .selector ⟨c.ruleName, some []⟩

/-- All six calls funnel through `insert`. -/
theorem run_eq_insert (c : Call) : c.run = insert c.ruleName c.producer := by
  cases c <;> rfl

theorem output_eq_series {c : Call} {s : Expr} (h : output c.ruleName c.producer = .ok s) :
    s = c.series := by
  unfold series
  cases hp : c.producer with
  | alert r =>
    rw [hp, output_alert] at h
    cases h
    rfl
  | recording r =>
    rw [hp, output_recording] at h
    split at h
    · cases h
      rfl
    · cases h

end Call

/-- The bundles a program can hold: a new bundle, a bundle given an interval, and the bundle a
registration call leaves, whether the call was accepted or refused. -/
inductive Reachable : Bundle → Prop where
  | create (name : String) : Reachable (create name)
  | withInterval {b : Bundle} (d : Duration) : Reachable b → Reachable (b.withInterval d)
  | call {b : Bundle} (c : Call) : Reachable b → Reachable (after c.run b)

/-- Every bundle a program can hold is consistent: induction over how it was made, with
`after_insert_consistent` as the step. -/
theorem Reachable.consistent {b : Bundle} (hb : Reachable b) : b.Consistent := by
  induction hb with
  | create name => exact create_consistent name
  | withInterval d _ ih => exact withInterval_consistent ih d
  | call c _ ih =>
    rw [Call.run_eq_insert]
    exact after_insert_consistent ih _ _

/-- Registration on any bundle a program holds. The bundle is consistent before and after the
call. A refused call leaves the bundle exactly as it was and fails for an empty name, a taken
name, or a recording's invalid name; an accepted call appends exactly one rule, under the name
the call gives it, and returns the rule's series. -/
theorem registration_consistent_and_atomic {b : Bundle} (hb : Reachable b) (c : Call) :
    b.Consistent ∧ (after c.run b).Consistent ∧
      (∀ err b', c.run.run b = .error err b' →
        b' = b ∧ (err = .emptyName ∨ err = .duplicateRule c.ruleName ∨
          ∃ detail, err = .query (.invalidName detail))) ∧
      (∀ s b', c.run.run b = .ok s b' →
        b'.entries = b.entries ++ [⟨c.ruleName, c.producer⟩] ∧ s = c.series) := by
  refine ⟨hb.consistent, (hb.call c).consistent, ?_, ?_⟩
  · intro err b' h
    rw [Call.run_eq_insert] at h
    exact insert_run_eq_error h
  · intro s b' h
    rw [Call.run_eq_insert] at h
    obtain ⟨-, -, hout, rfl⟩ := insert_run_eq_ok h
    exact ⟨rfl, Call.output_eq_series hout⟩

/-- Recording `up` as `up:copy` in a new bundle. -/
theorem registration_record_in_new_bundle :
    Reachable (create "rules") ∧
      (create "rules").Consistent ∧
      (after (Call.record (.selector ⟨"up", none⟩) "up:copy").run
        (create "rules")).Consistent ∧
      (∀ err b',
        (Call.record (.selector ⟨"up", none⟩) "up:copy").run.run (create "rules") =
          .error err b' →
        b' = create "rules" ∧ (err = .emptyName ∨ err = .duplicateRule "up:copy" ∨
          ∃ detail, err = .query (.invalidName detail))) ∧
      (∀ s b',
        (Call.record (.selector ⟨"up", none⟩) "up:copy").run.run (create "rules") =
          .ok s b' →
        b'.entries = (create "rules").entries ++
            [⟨"up:copy",
              .recording (.ok (RecordingRule.ofExpr (.selector ⟨"up", none⟩)))⟩] ∧
          s = .selector ⟨"up:copy", some []⟩) :=
  ⟨.create "rules", registration_consistent_and_atomic (.create "rules")
    (.record (.selector ⟨"up", none⟩) "up:copy")⟩

end Bundle

end PromRules.Rule
