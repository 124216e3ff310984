/-!
Names of metrics and labels.

A metric name starts with an ASCII letter, `_` or `:` and goes on with those or ASCII digits.
A label name is the same without the colon. Both are ASCII only: any other character makes the
name invalid.
-/

namespace PromRules.Query

/-- An ASCII letter or `_`. -/
def isWordStart (c : Char) : Bool := c.isAlpha || c == '_'

/-- An ASCII letter, digit or `_`. -/
def isWordChar (c : Char) : Bool := c.isAlphanum || c == '_'

/-- Whether a text is a metric name: `[a-zA-Z_:][a-zA-Z0-9_:]*`. -/
def isMetricName (s : String) : Bool :=
  match s.toList with
  | [] => false
  | c :: rest => (isWordStart c || c == ':') && rest.all (fun d => isWordChar d || d == ':')

/-- Whether a text is a label name: `[a-zA-Z_][a-zA-Z0-9_]*`. -/
def isLabelName (s : String) : Bool :=
  match s.toList with
  | [] => false
  | c :: rest => isWordStart c && rest.all isWordChar

theorem isMetricName_of_isLabelName (s : String) (h : isLabelName s = true) :
    isMetricName s = true := by
  unfold isLabelName at h
  unfold isMetricName
  cases hs : s.toList with
  | nil => simp [hs] at h
  | cons c rest =>
    simp only [hs, Bool.and_eq_true, List.all_eq_true, Bool.or_eq_true] at h ⊢
    exact ⟨Or.inl h.1, fun d hd => Or.inl (h.2 d hd)⟩

end PromRules.Query
