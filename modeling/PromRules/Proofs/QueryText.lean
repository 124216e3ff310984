import Mathlib
import PromRules.Proofs.BlankFolding
import PromRules.Proofs.WellFormed
import PromRules.Proofs.DurationText

/-!
The printed text of a built expression has no blank run to fold.

`Expr.format` folds the blank runs of the printed text outside string literals, but the printer
writes none: it separates the parts of a node by single spaces and writes everything else
without blanks, names and numbers and durations and brackets, except inside string literals,
which `quote` writes. So on every built tree the folding changes nothing
(`normalizeBlanks_renderIn_minimal`), and every label value and string argument appears in the
query text exactly as `quote` writes it.

The names the printer writes come from the checks of the builder: metric and label names, which
`Expr.WellFormed` records, and the names of the function table (`Expr.KnownCalls`); every built
tree has both (`Built.wellFormed_knownCalls`). From there one recursion over the tree shows its
text tidy, not empty, and showing its strings (`Expr.printed`), one lemma per kind of node.
-/

namespace PromRules.Query

open Text

instance : DecidablePred Plain := fun c => inferInstanceAs (Decidable (isBlank c = false ∧ c ≠ '"'))

/-- A fixed text is plain when each of its characters is: the check `decide` runs on it. -/
theorem plain_of_all {t : List Char} (h : (t.all fun c => decide (Plain c)) = true) :
    ∀ c ∈ t, Plain c := by
  intro c hc
  simpa using List.all_eq_true.1 h c hc

/-! ### Plain characters -/

/-- The printable ASCII characters other than the double quote are plain. -/
theorem plain_of_ascii {c : Char} (hlow : 33 ≤ c.toNat) (hhigh : c.toNat ≤ 126) (hq : c ≠ '"') :
    Plain c := by
  refine ⟨?_, hq⟩
  simp only [isBlank, blankRanges, List.any_cons, List.any_nil, Bool.or_false,
    Bool.or_eq_false_iff, Bool.and_eq_false_iff, decide_eq_false_iff_not, Nat.not_le]
  omega

theorem plain_of_isAlphanum {c : Char} (h : c.isAlphanum = true) : Plain c := by
  have hrange : 48 ≤ c.toNat ∧ c.toNat ≤ 122 := by
    simp only [Char.isAlphanum, Char.isAlpha, Char.isUpper, Char.isLower, Char.isDigit,
      Bool.or_eq_true, Bool.and_eq_true, decide_eq_true_eq] at h
    rcases h with (⟨hlow, hhigh⟩ | ⟨hlow, hhigh⟩) | ⟨hlow, hhigh⟩
    · have hlow' : 65 ≤ c.toNat := hlow
      have hhigh' : c.toNat ≤ 90 := hhigh
      omega
    · have hlow' : 97 ≤ c.toNat := hlow
      have hhigh' : c.toNat ≤ 122 := hhigh
      omega
    · have hlow' : 48 ≤ c.toNat := hlow
      have hhigh' : c.toNat ≤ 57 := hhigh
      omega
  refine plain_of_ascii (by omega) (by omega) ?_
  rintro rfl
  simp at hrange

theorem plain_of_nameChar {c : Char} (h : isWordChar c = true ∨ c = ':') : Plain c := by
  simp only [isWordChar, Bool.or_eq_true, beq_iff_eq] at h
  rcases h with (h | rfl) | rfl
  · exact plain_of_isAlphanum h
  · decide
  · decide

/-- A metric name is a nonempty run of plain characters. -/
theorem isMetricName_chars {s : String} (h : isMetricName s = true) :
    (∀ c ∈ s.toList, Plain c) ∧ s.toList ≠ [] := by
  unfold isMetricName at h
  split at h
  · cases h
  · rename_i c rest hs
    simp only [Bool.and_eq_true, Bool.or_eq_true, List.all_eq_true, beq_iff_eq] at h
    obtain ⟨hfirst, hrest⟩ := h
    refine ⟨?_, by simp [hs]⟩
    rw [hs]
    intro d hd
    rcases List.mem_cons.1 hd with rfl | hd
    · rcases hfirst with hstart | rfl
      · simp only [isWordStart, Bool.or_eq_true, beq_iff_eq] at hstart
        rcases hstart with halpha | rfl
        · exact plain_of_isAlphanum (by simp [Char.isAlphanum, halpha])
        · decide
      · decide
    · exact plain_of_nameChar (by simpa using hrest d hd)

theorem isLabelName_chars {s : String} (h : isLabelName s = true) : ∀ c ∈ s.toList, Plain c :=
  (isMetricName_chars (isMetricName_of_isLabelName s h)).1

/-- The functions of the table have names of plain characters. -/
theorem functionName_chars : ∀ spec ∈ functions, ∀ c ∈ spec.name.toList, Plain c := by
  have hall :
      functions.all (fun spec => spec.name.toList.all fun c => decide (Plain c)) = true := by
    cbv
  intro spec hspec c hc
  have h := List.all_eq_true.mp (List.all_eq_true.mp hall spec hspec) c hc
  simpa using h

theorem durationText_chars (d : Duration) : ∀ c ∈ d.render.toList, Plain c := by
  intro c hc
  rcases Duration.render_chars d c hc with h | rfl
  · exact plain_of_isAlphanum h
  · decide

theorem toString_chars (n : Nat) : ∀ c ∈ (toString n).toList, Plain c := by
  intro c hc
  rw [Duration.toList_toString] at hc
  exact plain_of_isAlphanum (by simp [Char.isAlphanum, Duration.isDigit_of_mem_toDigits hc])

theorem positional_chars (d : Nat) (t : Int) : ∀ c ∈ (Number.positional d t).toList, Plain c := by
  have hzeros : ∀ n, ∀ c ∈ (Number.zeros n).toList, Plain c := by
    intro n c hc
    simp only [Number.zeros, String.toList_ofList, List.mem_replicate] at hc
    rw [hc.2]
    decide
  have hdigits := toString_chars d
  intro c hc
  dsimp only [Number.positional] at hc
  split at hc
  · simp only [String.toList_append, List.mem_append] at hc
    exact hc.elim (hdigits c) (hzeros _ c)
  · split at hc
    · simp only [String.toList_append, String.toList_ofList, List.mem_append] at hc
      rcases hc with (h | h) | h
      · exact hdigits c (List.mem_of_mem_take h)
      · exact plain_of_all (by decide) c h
      · exact hdigits c (List.mem_of_mem_drop h)
    · simp only [String.toList_append, List.mem_append] at hc
      rcases hc with (h | h) | h
      · exact plain_of_all (by decide) c h
      · exact hzeros _ c h
      · exact hdigits c h

/-- A number is written with plain characters: digits, letters, a point and a sign. -/
theorem numberText_chars (v : Binary64) : ∀ c ∈ (numberText v).toList, Plain c := by
  have hsign : ∀ c ∈ (if v.isNegative then "-" else "").toList, Plain c := by
    split <;> exact plain_of_all (by decide)
  unfold numberText
  split
  · exact plain_of_all (by decide)
  · split <;> exact plain_of_all (by decide)
  · intro c hc
    dsimp only at hc
    split at hc
    · simp only [String.toList_append, List.mem_append] at hc
      rcases hc with (h | h) | h
      · exact hsign c h
      · exact toString_chars _ c h
      · exact plain_of_all (by decide) c h
    · simp only [String.toList_append, List.mem_append] at hc
      rcases hc with h | h
      · exact hsign c h
      · unfold Number.shortestText at h
        split at h
        · exact plain_of_all (by decide) c h
        · exact positional_chars _ _ c h

theorem shortestText_ne_nil (m : Nat) (e : Int) : (Number.shortestText m e).toList ≠ [] := by
  unfold Number.shortestText
  split
  · decide
  · dsimp only [Number.positional]
    split
    · simp [Nat.toDigits_ne_nil]
    · split <;> simp

theorem numberText_ne_nil (v : Binary64) : (numberText v).toList ≠ [] := by
  unfold numberText
  split
  · decide
  · split <;> decide
  · dsimp only
    split
    · simp
    · rename_i m e _ _
      rw [String.toList_append]
      exact fun h => shortestText_ne_nil m e (List.append_eq_nil_iff.1 h).2

/-! ### Tidy text that shows its strings -/

/-- What the printer keeps of a piece of text: it is tidy, and it shows each of the strings
`vs` as `quote` writes it. -/
structure Shows (vs : List String) (t : List Char) : Prop where
  tidy : Tidy t
  quoted : ∀ v ∈ vs, (quote v).toList <:+: t

namespace Shows

theorem of_plain {t : List Char} (h : ∀ c ∈ t, Plain c) : Shows [] t :=
  ⟨.chunk (.of_plain h), by simp⟩

theorem quote (v : String) : Shows [v] (quote v).toList := by
  refine ⟨.chunk (.quote v), ?_⟩
  intro w hw
  obtain rfl := List.mem_singleton.1 hw
  exact List.infix_refl _

theorem append {vs ws : List String} {a b : List Char} (ha : Shows vs a) (hb : Shows ws b) :
    Shows (vs ++ ws) (a ++ b) := by
  refine ⟨ha.tidy.append hb.tidy, ?_⟩
  intro v hv
  rcases List.mem_append.1 hv with hv | hv
  · exact (ha.quoted v hv).trans (List.prefix_append a b).isInfix
  · exact (hb.quoted v hv).trans (List.suffix_append a b).isInfix

theorem append_space {vs ws : List String} {a b : List Char} (ha : Shows vs a) (hane : a ≠ [])
    (hb : Shows ws b) (hbne : b ≠ []) : Shows (vs ++ ws) (a ++ ' ' :: b) := by
  refine ⟨ha.tidy.append_space hane hb.tidy hbne, ?_⟩
  intro v hv
  rcases List.mem_append.1 hv with hv | hv
  · exact (ha.quoted v hv).trans (List.prefix_append a _).isInfix
  · exact (hb.quoted v hv).trans ((List.suffix_cons ' ' b).trans (List.suffix_append a _)).isInfix

theorem of_eq {vs ws : List String} {t : List Char} (h : Shows vs t) (hvs : vs = ws) :
    Shows ws t :=
  hvs ▸ h

/-- Pieces that each show their strings, separated by commas. -/
theorem intercalate_comma {α : Type} {xs : List α} {f : α → List String} {g : α → List Char}
    (h : ∀ x ∈ xs, Shows (f x) (g x)) : Shows (xs.flatMap f) ([','].intercalate (xs.map g)) := by
  induction xs with
  | nil => exact ⟨.chunk .nil, by simp⟩
  | cons x rest ih =>
    have hx := h x (by simp)
    have hrest := ih fun y hy => h y (by simp [hy])
    cases rest with
    | nil => simpa using hx
    | cons y rest' =>
      rw [List.map_cons, List.map_cons, List.intercalate_cons_cons, ← List.map_cons,
        List.flatMap_cons]
      exact ((hx.append (of_plain (plain_of_all (by decide)))).append hrest).of_eq (by simp)

end Shows

/-- Text that is tidy, not empty and shows the strings `vs`. -/
structure Printed (vs : List String) (t : String) : Prop where
  shows : Shows vs t.toList
  ne_nil : t.toList ≠ []

/-- Text that may follow a printed part: nothing, or a space and nonempty tidy text showing the
strings `vs`. -/
inductive Suffix : List String → List Char → Prop
  | empty : Suffix [] []
  | spaced {vs : List String} {t : List Char} : Shows vs t → t ≠ [] → Suffix vs (' ' :: t)

theorem Suffix.append {vs ws : List String} {a b : List Char} (ha : Suffix vs a)
    (hb : Suffix ws b) : Suffix (vs ++ ws) (a ++ b) := by
  cases ha with
  | empty => simpa using hb
  | @spaced vs t ht htne =>
    cases hb with
    | empty => simpa using Suffix.spaced ht htne
    | @spaced ws u hu hune =>
      simpa using Suffix.spaced (ht.append_space htne hu hune) (by simp [htne])

theorem Printed.append_suffix {vs ws : List String} {a : String} {b : List Char}
    (ha : Printed vs a) (hb : Suffix ws b) {t : String} (ht : t.toList = a.toList ++ b) :
    Printed (vs ++ ws) t := by
  cases hb with
  | empty => exact ⟨by simpa [ht] using ha.shows, by simpa [ht] using ha.ne_nil⟩
  | spaced hu hune =>
    refine ⟨?_, by simp [ht]⟩
    rw [ht]
    exact ha.shows.append_space ha.ne_nil hu hune

theorem Printed.bracketIf {vs : List String} {t : String} (h : Printed vs t) (bracket : Bool) :
    Printed vs (bracketIf bracket t) := by
  cases bracket with
  | false => exact h
  | true =>
    have htext : (Query.bracketIf true t).toList = ['('] ++ t.toList ++ [')'] := by
      simp [Query.bracketIf]
    refine ⟨?_, by simp [htext]⟩
    rw [htext]
    exact ((Shows.of_plain (plain_of_all (by decide))).append h.shows |>.append
      (.of_plain (plain_of_all (by decide)))).of_eq
      (by simp)

/-! ### What the builder guarantees of names -/

mutual

/-- Every call and aggregation of an expression names a function of the table. -/
def Expr.KnownCalls : Expr → Prop
  | .literal _ => True
  | .selector _ => True
  | .derived inner m => inner.KnownCalls ∧ m.KnownCalls
  | .range _ _ => True
  | .subquery inner _ _ => inner.KnownCalls
  | .call name args _ => (∃ spec ∈ functions, spec.name = name) ∧ Arg.AllKnownCalls args
  | .binary _ lhs rhs _ _ => lhs.KnownCalls ∧ rhs.KnownCalls
  | .aggregate name args _ => (∃ spec ∈ functions, spec.name = name) ∧ Arg.AllKnownCalls args

/-- The expression a modifier may hold calls only functions of the table. -/
def Modifier.KnownCalls : Modifier → Prop
  | .atExpr target => target.KnownCalls
  | _ => True

/-- An argument that is an expression calls only functions of the table. -/
def Arg.KnownCalls : Arg → Prop
  | .expr e => e.KnownCalls
  | .text _ => True

/-- Every argument of a list calls only functions of the table. -/
def Arg.AllKnownCalls : List Arg → Prop
  | [] => True
  | a :: rest => a.KnownCalls ∧ Arg.AllKnownCalls rest

end

theorem Arg.allKnownCalls_iff {args : List Arg} :
    Arg.AllKnownCalls args ↔ ∀ a ∈ args, a.KnownCalls := by
  induction args with
  | nil => simp [Arg.AllKnownCalls]
  | cons a rest ih => simp [Arg.AllKnownCalls, ih]

theorem Operand.knownCalls_toExpr {o : Operand} (ho : ∀ x, o = .expr x → x.KnownCalls) :
    o.toExpr.KnownCalls := by
  cases o with
  | number v => trivial
  | expr x => exact ho x rfl

/-- A call stores its arguments with numbers as literals, which call nothing. -/
theorem allKnownCalls_toArg {args : List CallArg}
    (hargs : ∀ x, CallArg.expr x ∈ args → x.KnownCalls) :
    Arg.AllKnownCalls (args.map CallArg.toArg) := by
  rw [Arg.allKnownCalls_iff]
  intro a ha
  obtain ⟨arg, harg, rfl⟩ := List.mem_map.1 ha
  cases arg with
  | expr x => exact hargs x harg
  | number v => trivial
  | text s => trivial

/-- Every tree the checked operations build is well-formed and calls only functions of the
table. -/
theorem Built.wellFormed_knownCalls {e : Expr} (h : Built e) : e.WellFormed ∧ e.KnownCalls := by
  induction h with
  | metric h =>
    refine ⟨wellFormed_of_metric h, ?_⟩
    obtain ⟨-, rfl⟩ := metric_eq_ok.1 h
    trivial
  | literal value => exact ⟨trivial, trivial⟩
  | binop _ _ h ihl ihr =>
    refine ⟨wellFormed_of_binop (fun x hx => (ihl x hx).1) (fun x hx => (ihr x hx).1) h, ?_⟩
    obtain ⟨-, rfl⟩ := binop_eq_ok.1 h
    exact ⟨Operand.knownCalls_toExpr fun x hx => (ihl x hx).2,
      Operand.knownCalls_toExpr fun x hx => (ihr x hx).2⟩
  | withLabels _ h ih =>
    refine ⟨ih.1.withLabels h, ?_⟩
    obtain ⟨sel, ms, -, -, rfl⟩ := Expr.withLabels_eq_ok.1 h
    trivial
  | sliced _ h ih =>
    refine ⟨ih.1.sliced h, ?_⟩
    obtain ⟨sel, -, -, rfl⟩ := Expr.sliced_eq_ok.1 h
    trivial
  | subqueried _ h ih =>
    refine ⟨ih.1.subqueried h, ?_⟩
    obtain ⟨-, -, -, rfl⟩ := Expr.subqueried_eq_ok.1 h
    exact ih.2
  | offsetBy _ h ih =>
    refine ⟨ih.1.offsetBy h, ?_⟩
    obtain ⟨-, -, rfl⟩ := Expr.withModifier_eq_ok.1 h
    exact ⟨ih.2, trivial⟩
  | atTime _ h ih =>
    refine ⟨ih.1.atTime h, ?_⟩
    obtain ⟨-, -, rfl⟩ := Expr.withModifier_eq_ok.1 h
    exact ⟨ih.2, trivial⟩
  | atExpr _ _ h ih ihtarget =>
    refine ⟨ih.1.atExpr ihtarget.1 h, ?_⟩
    obtain ⟨-, -, -, rfl⟩ := Expr.withModifier_eq_ok.1 (Expr.atExpr_eq_ok.1 h).2
    exact ⟨ih.2, ihtarget.2⟩
  | byLabels _ h ih =>
    refine ⟨ih.1.byLabels h, ?_⟩
    obtain ⟨name, args, rfl, rfl⟩ := Expr.withGrouping_eq_ok.1 (checkLabels_bind_eq_ok.1 h).2
    exact ih.2
  | withoutLabels _ h ih =>
    refine ⟨ih.1.withoutLabels h, ?_⟩
    obtain ⟨name, args, rfl, rfl⟩ := Expr.withGrouping_eq_ok.1 (checkLabels_bind_eq_ok.1 h).2
    exact ih.2
  | on _ h ih =>
    refine ⟨ih.1.on h, ?_⟩
    obtain ⟨op, lhs, rhs, flag, rfl, rfl⟩ :=
      Expr.withMatching_eq_ok.1 (checkLabels_bind_eq_ok.1 h).2
    exact ih.2
  | ignoring _ h ih =>
    refine ⟨ih.1.ignoring h, ?_⟩
    obtain ⟨op, lhs, rhs, flag, rfl, rfl⟩ :=
      Expr.withMatching_eq_ok.1 (checkLabels_bind_eq_ok.1 h).2
    exact ih.2
  | groupLeft _ h ih =>
    refine ⟨ih.1.groupLeft h, ?_⟩
    obtain ⟨op, lhs, rhs, flag, kind, ls, rfl, -, rfl⟩ :=
      Expr.withGroup_eq_ok.1 (checkLabels_bind_eq_ok.1 h).2
    exact ih.2
  | groupRight _ h ih =>
    refine ⟨ih.1.groupRight h, ?_⟩
    obtain ⟨op, lhs, rhs, flag, kind, ls, rfl, -, rfl⟩ :=
      Expr.withGroup_eq_ok.1 (checkLabels_bind_eq_ok.1 h).2
    exact ih.2
  | asBool _ h ih =>
    refine ⟨ih.1.asBool h, ?_⟩
    obtain ⟨op, lhs, rhs, matching, rfl, -, rfl⟩ := Expr.asBool_eq_ok.1 h
    exact ih.2
  | call _ h ih =>
    refine ⟨wellFormed_of_call (fun x hx => (ih x hx).1) h, ?_⟩
    have hargs := allKnownCalls_toArg fun x hx => (ih x hx).2
    obtain ⟨spec, hmem, rfl | rfl⟩ := call_eq_ok_of_mem h
    · exact ⟨⟨spec, hmem, rfl⟩, hargs⟩
    · exact ⟨⟨spec, hmem, rfl⟩, hargs⟩

/-! ### The strings of an expression -/

/-- The label values of a selector's matchers. -/
def Selector.values (sel : Selector) : List String :=
  (sel.matchers.getD []).map Matcher.value

mutual

/-- The strings an expression holds, label values and string arguments, in the order of its
text. -/
def Expr.strings : Expr → List String
  | .literal _ => []
  | .selector sel => sel.values
  | .derived inner m => inner.strings ++ m.strings
  | .range sel _ => sel.values
  | .subquery inner _ _ => inner.strings
  | .call _ args _ => Arg.listStrings args
  | .binary _ lhs rhs _ _ => lhs.strings ++ rhs.strings
  | .aggregate _ args _ => Arg.listStrings args

/-- The strings of the expression a modifier may hold. -/
def Modifier.strings : Modifier → List String
  | .atExpr target => target.strings
  | _ => []

/-- A string argument, or the strings of an expression argument. -/
def Arg.strings : Arg → List String
  | .expr e => e.strings
  | .text s => [s]

/-- The strings of the arguments of a list, in order. -/
def Arg.listStrings : List Arg → List String
  | [] => []
  | a :: rest => a.strings ++ Arg.listStrings rest

end

/-! ### The text of each kind of node -/

theorem Printed.number (v : Binary64) : Printed [] (numberText v) :=
  ⟨.of_plain (numberText_chars v), numberText_ne_nil v⟩

theorem Printed.duration (d : Duration) : Printed [] d.render :=
  ⟨.of_plain (durationText_chars d), Duration.render_toList_ne_nil d⟩

/-- Printed text followed by plain characters. -/
theorem Printed.append_plain {vs : List String} {a t : String} {b : List Char} (ha : Printed vs a)
    (hb : ∀ c ∈ b, Plain c) (ht : t.toList = a.toList ++ b) : Printed vs t := by
  refine ⟨?_, by simp [ht, ha.ne_nil]⟩
  rw [ht]
  exact (ha.shows.append (.of_plain hb)).of_eq (List.append_nil vs)

/-- A word of plain characters, a space and printed text, after a space: how a modifier and the
clauses after an operator are written. -/
theorem Suffix.word {w : List Char} (hw : ∀ c ∈ w, Plain c) (hwne : w ≠ []) {vs : List String}
    {t : String} (ht : Printed vs t) : Suffix vs (' ' :: (w ++ ' ' :: t.toList)) :=
  .spaced ((Shows.of_plain hw).append_space hwne ht.shows ht.ne_nil) (by simp)

/-- A keyword and a list of label names in brackets, after a space. -/
theorem Suffix.clause {keyword : String} (hkw : ∀ c ∈ keyword.toList, Plain c)
    {labels : List String} (hlabels : ∀ l ∈ labels, isLabelName l = true) :
    Suffix [] (Query.clause keyword labels).toList := by
  have hnames : Shows (labels.flatMap fun _ => []) ([','].intercalate (labels.map String.toList)) :=
    Shows.intercalate_comma fun l hl => .of_plain (isLabelName_chars (hlabels l hl))
  have htext : (Query.clause keyword labels).toList =
      ' ' :: ((keyword.toList ++ ['(']) ++
        ([','].intercalate (labels.map String.toList) ++ [')'])) := by
    simp [Query.clause]
  rw [htext]
  refine .spaced (((Shows.of_plain ?_).append
    (hnames.append (.of_plain (plain_of_all (by decide))))).of_eq
    (by simp)) (by simp)
  exact List.forall_mem_append.2 ⟨hkw, plain_of_all (by decide)⟩

/-- A matcher is written as its label name, `=` and its value in quotes. -/
theorem matcher_shows {m : Matcher} (hname : isLabelName m.name = true) :
    Shows [m.value] (m.name.toList ++ '=' :: (quote m.value).toList) := by
  have hprefix : Shows [] (m.name.toList ++ ['=']) :=
    .of_plain (List.forall_mem_append.2 ⟨isLabelName_chars hname, plain_of_all (by decide)⟩)
  simpa using hprefix.append (Shows.quote m.value)

theorem selector_printed {sel : Selector} (h : sel.WellFormed) : Printed sel.values sel.render := by
  obtain ⟨hname, hlabels, -⟩ := h
  obtain ⟨hchars, hne⟩ := isMetricName_chars hname
  rcases sel with ⟨name, _ | ms⟩
  · exact ⟨.of_plain hchars, hne⟩
  · have hmatchers : Shows (ms.flatMap fun m => [m.value])
        ([','].intercalate (ms.map fun m => m.name.toList ++ '=' :: (quote m.value).toList)) :=
      Shows.intercalate_comma fun m hm => matcher_shows (hlabels m.name (List.mem_map_of_mem hm))
    have htext : (Selector.render ⟨name, some ms⟩).toList = (name.toList ++ ['\x7b']) ++
        ([','].intercalate (ms.map fun m => m.name.toList ++ '=' :: (quote m.value).toList) ++
          ['\x7d']) := by
      simp [Selector.render, Function.comp_def]
    refine ⟨?_, by simp [htext]⟩
    rw [htext]
    refine ((Shows.of_plain ?_).append
      (hmatchers.append (.of_plain (plain_of_all (by decide))))).of_eq
      (by simp [Selector.values, List.map_eq_flatMap])
    exact List.forall_mem_append.2 ⟨hchars, plain_of_all (by decide)⟩


section Nodes

variable {style : Style}

theorem derived_printed {inner : Expr} {m : Modifier}
    (hinner : Printed inner.strings (inner.renderIn style))
    (hm : Suffix m.strings (m.renderIn style).toList) :
    Printed (Expr.derived inner m).strings ((Expr.derived inner m).renderIn style) :=
  (hinner.bracketIf (needsBrackets style inner .modifier false)).append_suffix hm
    (by simp [Expr.renderIn])

theorem range_printed {sel : Selector} (hsel : sel.WellFormed) (width : Duration) :
    Printed (Expr.range sel width).strings ((Expr.range sel width).renderIn style) := by
  have hwindow : ∀ c ∈ '[' :: (width.render.toList ++ [']']), Plain c :=
    List.forall_mem_cons.2 ⟨by decide,
      List.forall_mem_append.2 ⟨durationText_chars width, plain_of_all (by decide)⟩⟩
  exact (selector_printed hsel).append_plain hwindow (by simp [Expr.renderIn])

theorem subquery_printed {inner : Expr} (hinner : Printed inner.strings (inner.renderIn style))
    (width : Duration) (step : Option Duration) :
    Printed (Expr.subquery inner width step).strings
      ((Expr.subquery inner width step).renderIn style) := by
  -- the step is written as a duration or not at all
  obtain ⟨t, ht, htext⟩ : ∃ t : List Char, (∀ c ∈ t, Plain c) ∧
      ((Expr.subquery inner width step).renderIn style).toList =
        (bracketIf (needsBrackets style inner .atom false) (inner.renderIn style)).toList ++
          '[' :: (width.render.toList ++ ':' :: (t ++ [']'])) := by
    cases step with
    | none => exact ⟨[], by simp, by simp [Expr.renderIn]⟩
    | some s => exact ⟨s.render.toList, durationText_chars s, by simp [Expr.renderIn]⟩
  have hwindow : ∀ c ∈ '[' :: (width.render.toList ++ ':' :: (t ++ [']'])), Plain c :=
    List.forall_mem_cons.2 ⟨by decide, List.forall_mem_append.2 ⟨durationText_chars width,
      List.forall_mem_cons.2 ⟨by decide, List.forall_mem_append.2 ⟨ht, plain_of_all (by decide)⟩⟩⟩⟩
  exact (hinner.bracketIf (needsBrackets style inner .atom false)).append_plain hwindow htext

theorem GroupingKind.keyword_chars (k : GroupingKind) : ∀ c ∈ k.keyword.toList, Plain c := by
  cases k <;> exact plain_of_all (by decide)

theorem MatchingKind.keyword_chars (k : MatchingKind) : ∀ c ∈ k.keyword.toList, Plain c := by
  cases k <;> exact plain_of_all (by decide)

theorem GroupSide.keyword_chars (side : GroupSide) : ∀ c ∈ side.keyword.toList, Plain c := by
  cases side <;> exact plain_of_all (by decide)

/-- A function name with its arguments in brackets. -/
theorem applied_printed {name : String} (hname : ∃ spec ∈ functions, spec.name = name)
    {args : List Arg} (hargs : Shows (Arg.listStrings args) (Arg.renderListIn style args).toList) :
    Printed (Arg.listStrings args) (name ++ "(" ++ Arg.renderListIn style args ++ ")") := by
  obtain ⟨spec, hspec, rfl⟩ := hname
  have hopen : Shows [] (spec.name.toList ++ ['(']) :=
    .of_plain (List.forall_mem_append.2 ⟨functionName_chars spec hspec, plain_of_all (by decide)⟩)
  have htext : (spec.name ++ "(" ++ Arg.renderListIn style args ++ ")").toList =
      (spec.name.toList ++ ['(']) ++ ((Arg.renderListIn style args).toList ++ [')']) := by
    simp
  refine ⟨?_, by simp [htext]⟩
  rw [htext]
  exact (hopen.append (hargs.append (.of_plain (plain_of_all (by decide))))).of_eq (by simp)

theorem call_printed {name : String} (hname : ∃ spec ∈ functions, spec.name = name)
    {args : List Arg} (hargs : Shows (Arg.listStrings args) (Arg.renderListIn style args).toList)
    (returns : ValueKind) :
    Printed (Expr.call name args returns).strings ((Expr.call name args returns).renderIn style) :=
  applied_printed hname hargs

theorem aggregate_printed {name : String} (hname : ∃ spec ∈ functions, spec.name = name)
    {args : List Arg} (hargs : Shows (Arg.listStrings args) (Arg.renderListIn style args).toList)
    {grouping : Option Grouping}
    (hgrouping : ∀ g, grouping = some g → ∀ l ∈ g.labels, isLabelName l = true) :
    Printed (Expr.aggregate name args grouping).strings
      ((Expr.aggregate name args grouping).renderIn style) := by
  -- the grouping clause, if any, follows the call after a space
  obtain ⟨t, ht, htext⟩ : ∃ t, Suffix [] t ∧
      ((Expr.aggregate name args grouping).renderIn style).toList =
        (name ++ "(" ++ Arg.renderListIn style args ++ ")").toList ++ t := by
    cases grouping with
    | none => exact ⟨[], .empty, by simp [Expr.renderIn]⟩
    | some g =>
      exact ⟨_, .clause g.kind.keyword_chars (hgrouping g rfl), by simp [Expr.renderIn]⟩
  have h := (applied_printed hname hargs).append_suffix ht htext
  rwa [List.append_nil] at h

/-- An operator is written as its symbol, then `bool`, the matching clause and the group clause
when present, each after a space. -/
theorem operatorText_printed {op : BinOp} (flag : Bool) {matching : Option Matching}
    (hmatching : ∀ m, matching = some m → m.WellFormed op) :
    Printed [] (operatorText op flag matching) := by
  have hsymbol : Printed [] op.symbol :=
    ⟨.of_plain (by cases op <;> exact plain_of_all (by decide)), by cases op <;> decide⟩
  have hflag : Suffix [] (if flag then " bool" else "").toList := by
    cases flag with
    | false => exact .empty
    | true => exact .spaced (.of_plain (plain_of_all (by decide))) (by decide)
  obtain ⟨t, ht, htext⟩ : ∃ t, Suffix [] t ∧ (operatorText op flag matching).toList =
      op.symbol.toList ++ ((if flag then " bool" else "").toList ++ t) := by
    cases matching with
    | none => exact ⟨[], .empty, by simp [operatorText]⟩
    | some m =>
      obtain ⟨kind, labels, group⟩ := m
      obtain ⟨hlabels, hgroup⟩ := hmatching _ rfl
      have hclause : Suffix [] (Query.clause kind.keyword labels).toList :=
        .clause kind.keyword_chars hlabels
      cases group with
      | none => exact ⟨_, hclause.append .empty, by simp [operatorText]⟩
      | some g =>
        exact ⟨_, hclause.append (.clause g.side.keyword_chars (hgroup g rfl).1),
          by simp [operatorText]⟩
  exact hsymbol.append_suffix (hflag.append ht) htext

theorem binary_printed {op : BinOp} {lhs rhs : Expr}
    (hlhs : Printed lhs.strings (lhs.renderIn style))
    (hrhs : Printed rhs.strings (rhs.renderIn style)) (flag : Bool) {matching : Option Matching}
    (hmatching : ∀ m, matching = some m → m.WellFormed op) :
    Printed (Expr.binary op lhs rhs flag matching).strings
      ((Expr.binary op lhs rhs flag matching).renderIn style) := by
  -- the operator stands between the two sides with one space on each side
  have hop := operatorText_printed flag hmatching
  have hleft := hlhs.bracketIf (needsBrackets style lhs op.precedence op.rightAssociative)
  have hright := hrhs.bracketIf (needsBrackets style rhs op.precedence (!op.rightAssociative))
  have hbody : Printed (lhs.strings ++ rhs.strings)
      (bracketIf (needsBrackets style lhs op.precedence op.rightAssociative) (lhs.renderIn style) ++
        " " ++ operatorText op flag matching ++ " " ++
        bracketIf (needsBrackets style rhs op.precedence (!op.rightAssociative))
          (rhs.renderIn style)) :=
    hleft.append_suffix (.spaced (hop.shows.append_space hop.ne_nil hright.shows hright.ne_nil)
      (by simp)) (by simp)
  cases style with
  | raw => exact hbody.bracketIf true
  | minimal => exact hbody

theorem offset_suffix (shift : Duration) :
    Suffix (Modifier.offset shift).strings ((Modifier.offset shift).renderIn style).toList := by
  have htext : ((Modifier.offset shift).renderIn style).toList =
      ' ' :: ("offset".toList ++ ' ' :: shift.render.toList) := by
    simp [Modifier.renderIn]
  rw [htext]
  exact .word (plain_of_all (by decide)) (by decide) (Printed.duration shift)

theorem atTime_suffix (seconds : Binary64) :
    Suffix (Modifier.atTime seconds).strings ((Modifier.atTime seconds).renderIn style).toList := by
  have htext : ((Modifier.atTime seconds).renderIn style).toList =
      ' ' :: ("@".toList ++ ' ' :: (numberText seconds).toList) := by
    simp [Modifier.renderIn]
  rw [htext]
  exact .word (plain_of_all (by decide)) (by decide) (Printed.number seconds)

theorem atExpr_suffix {target : Expr} (htarget : Printed target.strings (target.renderIn style)) :
    Suffix (Modifier.atExpr target).strings ((Modifier.atExpr target).renderIn style).toList := by
  have hbracketed := htarget.bracketIf (needsBrackets style target .atom false)
  have htext : ((Modifier.atExpr target).renderIn style).toList = ' ' :: ("@".toList ++ ' ' ::
      (bracketIf (needsBrackets style target .atom false) (target.renderIn style)).toList) := by
    simp [Modifier.renderIn]
  rw [htext]
  exact .word (plain_of_all (by decide)) (by decide) hbracketed

theorem text_arg_printed (s : String) :
    Printed (Arg.text s).strings ((Arg.text s).renderIn style) :=
  ⟨Shows.quote s, by simp [Arg.renderIn, quote]⟩

theorem expr_arg_printed {e : Expr} (he : Printed e.strings (e.renderIn style)) :
    Printed (Arg.expr e).strings ((Arg.expr e).renderIn style) :=
  he.bracketIf (needsBrackets style e .or false)

theorem renderListIn_cons_ne_nil {b : Arg} (rest : List Arg) (hb : (b.renderIn style).toList ≠ []) :
    (Arg.renderListIn style (b :: rest)).toList ≠ [] := by
  cases rest with
  | nil => simpa [Arg.renderListIn] using hb
  | cons c rest => simp [Arg.renderListIn, hb]

theorem listShows_nil : Shows (Arg.listStrings []) (Arg.renderListIn style []).toList :=
  ⟨.chunk .nil, by simp [Arg.listStrings]⟩

theorem listShows_single {a : Arg} (ha : Printed a.strings (a.renderIn style)) :
    Shows (Arg.listStrings [a]) (Arg.renderListIn style [a]).toList := by
  simpa [Arg.listStrings, Arg.renderListIn] using ha.shows

/-- Arguments are separated by a comma and a space. -/
theorem listShows_cons_cons {a b : Arg} {rest : List Arg}
    (ha : Printed a.strings (a.renderIn style)) (hb : Printed b.strings (b.renderIn style))
    (hrest : Shows (Arg.listStrings (b :: rest)) (Arg.renderListIn style (b :: rest)).toList) :
    Shows (Arg.listStrings (a :: b :: rest)) (Arg.renderListIn style (a :: b :: rest)).toList := by
  have htext : (Arg.renderListIn style (a :: b :: rest)).toList =
      ((a.renderIn style).toList ++ [',']) ++
        ' ' :: (Arg.renderListIn style (b :: rest)).toList := by
    simp [Arg.renderListIn]
  rw [htext]
  exact ((ha.shows.append (.of_plain (plain_of_all (by decide)))).append_space (by simp) hrest
    (renderListIn_cons_ne_nil rest hb.ne_nil)).of_eq (by simp [Arg.listStrings])

end Nodes

/-! ### Every node -/

mutual

/-- The text of a well-formed expression that calls only functions of the table is tidy, not
empty, and shows the expression's strings. -/
theorem Expr.printed (style : Style) : (x : Expr) → x.WellFormed → x.KnownCalls →
    Printed x.strings (x.renderIn style)
  | .literal v, _, _ => Printed.number v
  | .selector _, h, _ => selector_printed h
  | .derived inner m, ⟨_, _, hinner, hm⟩, ⟨kinner, km⟩ =>
    derived_printed (inner.printed style hinner kinner) (m.suffix style hm km)
  | .range _ width, ⟨hsel, _⟩, _ => range_printed hsel width
  | .subquery inner width step, ⟨_, _, _, hinner⟩, kinner =>
    subquery_printed (inner.printed style hinner kinner) width step
  | .call _ args returns, hargs, ⟨hknown, kargs⟩ =>
    call_printed hknown (Arg.listShows style args hargs kargs) returns
  | .binary _ lhs rhs flag _, ⟨_, _, _, hmatching, hl, hr⟩, ⟨kl, kr⟩ =>
    binary_printed (lhs.printed style hl kl) (rhs.printed style hr kr) flag hmatching
  | .aggregate _ args _, ⟨hargs, hgrouping⟩, ⟨hknown, kargs⟩ =>
    aggregate_printed hknown (Arg.listShows style args hargs kargs) hgrouping

/-- The text of a modifier is a space and tidy text showing the modifier's strings. -/
theorem Modifier.suffix (style : Style) : (m : Modifier) → m.WellFormed → m.KnownCalls →
    Suffix m.strings (m.renderIn style).toList
  | .offset shift, _, _ => offset_suffix shift
  | .atTime seconds, _, _ => atTime_suffix seconds
  | .atExpr target, ⟨_, htarget⟩, ktarget => atExpr_suffix (target.printed style htarget ktarget)

theorem Arg.listShows (style : Style) : (args : List Arg) → Arg.AllWellFormed args →
    Arg.AllKnownCalls args → Shows (Arg.listStrings args) (Arg.renderListIn style args).toList
  | [], _, _ => listShows_nil
  | [a], ⟨ha, _⟩, ⟨ka, _⟩ => listShows_single (a.printed style ha ka)
  | a :: b :: rest, ⟨ha, hb, hrest⟩, ⟨ka, kb, krest⟩ =>
    listShows_cons_cons (a.printed style ha ka) (b.printed style hb kb)
      (Arg.listShows style (b :: rest) ⟨hb, hrest⟩ ⟨kb, krest⟩)

theorem Arg.printed (style : Style) : (a : Arg) → a.WellFormed → a.KnownCalls →
    Printed a.strings (a.renderIn style)
  | .expr e, h, k => expr_arg_printed (e.printed style h k)
  | .text s, _, _ => text_arg_printed s

end

/-- The query text of a built tree is its minimal text. -/
theorem Built.format_eq {e : Expr} (he : Built e) : e.format = e.renderIn .minimal := by
  obtain ⟨hwf, hknown⟩ := he.wellFormed_knownCalls
  exact normalizeBlanks_of_tidy (e.printed .minimal hwf hknown).shows.tidy

/-- Folding blanks leaves the minimal text of every built tree as it is, so the query text is
that text: tidy, with no blank at either end, and showing every label value and string
argument exactly as `quote` writes it. -/
theorem normalizeBlanks_renderIn_minimal {e : Expr} (he : Built e) :
    normalizeBlanks (e.renderIn .minimal) = e.renderIn .minimal ∧ Tidy e.format.toList ∧
      (∀ c ∈ e.format.toList.head?, isBlank c = false) ∧
      (∀ c ∈ e.format.toList.getLast?, isBlank c = false) ∧
      ∀ v ∈ e.strings, (quote v).toList <:+: e.format.toList := by
  obtain ⟨hwf, hknown⟩ := he.wellFormed_knownCalls
  have hshows := (e.printed .minimal hwf hknown).shows
  have hformat : e.format = e.renderIn .minimal := normalizeBlanks_of_tidy hshows.tidy
  rw [hformat]
  exact ⟨hformat, hshows.tidy, hshows.tidy.head_not_blank, hshows.tidy.last_not_blank,
    hshows.quoted⟩

/-- A label value with a blank run, a double quote and a final backslash is kept whole. -/
theorem labelValue_kept_in_format :
    Built (.selector ⟨"up", some [⟨"path", "a  \"b\\"⟩]⟩) ∧
      normalizeBlanks ((Expr.selector ⟨"up", some [⟨"path", "a  \"b\\"⟩]⟩).renderIn .minimal) =
        (Expr.selector ⟨"up", some [⟨"path", "a  \"b\\"⟩]⟩).renderIn .minimal := by
  have hbuilt : Built (.selector ⟨"up", some [⟨"path", "a  \"b\\"⟩]⟩) :=
    .withLabels (.metric (show metric "up" = .ok (.selector ⟨"up", none⟩) from rfl))
      (show Expr.withLabels (.selector ⟨"up", none⟩) [("path", "a  \"b\\")] = .ok _ from rfl)
  exact ⟨hbuilt, (normalizeBlanks_renderIn_minimal hbuilt).1⟩

end PromRules.Query
