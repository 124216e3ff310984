import PromRules.Proofs.QueryTokens

/-!
Reading the units of printed queries.

Every expression whose names the reader takes as written is read back from its units as
`Expr.readBack` (`readExpr_tokens`). The proof follows the reader's entry points. For each kind
of node it says what `readPrimary`, `readPostfixed` and `readExpr` do with the node's units
followed by any units that may follow it there (`Expr.Reads`). Two kinds of remainder occur:
units that end a whole expression below some binding strength (`Ends`: an operator of lower
rank, `)` or `,`), and units that may follow a primary (`Follows`: those, and also windows and
modifiers). A node's lemma uses only its children's, and one recursion over the tree assembles
them (`Expr.reads`).
-/

namespace PromRules.Query

/-- The level at which `climb` reads the right operand of an operator: the operator's own rank
for `^`, which groups to the right, and one more for the others. -/
def BinOp.rhsLevel (op : BinOp) : Nat :=
  if op.rightAssociative then op.precedence.rank else op.precedence.rank + 1

/-- The least rank of an operator that, written after an expression's units, is taken into the
expression rather than applied to it whole: after a binary operation, an operator its right
operand takes; after a negative number, `^`; after anything else, none. -/
def Expr.openLevel : Expr → Nat
  | .literal v =>
    if v.isNegative && !v.isNaN then Precedence.power.rank else Precedence.atom.rank + 1
  | .binary op .. => op.rhsLevel
  | _ => Precedence.atom.rank + 1

/-- The nodes that `readPrimary` reads whole: numbers without a `-`, selectors and calls. -/
def Expr.isPrimary : Expr → Bool
  | .literal v => !(v.isNegative && !v.isNaN)
  | .selector _ => true
  | .call .. => true
  | .aggregate .. => true
  | _ => false

/-! ### An operator step -/

/-- One operator step of `climb`: the operator, its clauses, and the right operand read at the
operator's right level. -/
theorem climb_operator {level : Nat} {tok : Token} {op : BinOp} (htok : tok.binOp? = some op)
    (hlevel : level ≤ op.precedence.rank) (lhs : Expr) {afterOp ts rest : List Token}
    {flag : Bool} {matching : Option Matching} {rhs : Expr}
    (hbool : readBool afterOp = (flag, matchingTokens matching ++ ts))
    (hmatch : readMatching (matchingTokens matching ++ ts) = some (matching, ts))
    (hrhs : readExpr op.rhsLevel ts = some (rhs, rest)) (hlen : rest.length ≤ afterOp.length) :
    climb level lhs (tok :: afterOp) = climb level (.binary op lhs rhs flag matching) rest := by
  rw [climb]
  simp only [htok, hlevel, if_true]
  split
  · rename_i matching' afterClauses hm
    rw [hbool, hmatch] at hm
    cases hm
    rw [hbool]
    simp only [BinOp.rhsLevel] at hrhs
    simp only [hrhs, List.length_cons, Nat.lt_succ_of_le hlen, if_true]
  · rename_i hm
    rw [hbool, hmatch] at hm
    cases hm

/-! ### What may follow an expression -/

/-- The words that open the clauses after an operator, in lower case. -/
def clauseWords : List String := ["bool", "on", "ignoring", "group_left", "group_right"]

/-- The units an expression's units may start with: a number, a word that opens no clause, `(`
or `-`. -/
def Token.leads : Token → Bool
  | .number _ => true
  | .word w => !clauseWords.contains w.toLower
  | .mark .openParen => true
  | .op .sub => true
  | _ => false

/-- The units that end an expression: an operator, `)` or `,`. -/
def Token.closes : Token → Bool
  | .op _ => true
  | .mark .closeParen => true
  | .mark .comma => true
  | .word w => (wordOp? w).isSome
  | _ => false

/-- The units that open a window or a modifier. -/
def Token.isPostfix : Token → Bool
  | .window _ => true
  | .word w => w.toLower == "offset"
  | .mark .at => true
  | _ => false

/-- Units that may follow a primary: the end of an expression, a window or a modifier. -/
def Follows (ts : List Token) : Prop :=
  ∀ tok ∈ ts.head?, tok.closes = true ∨ tok.isPostfix = true

/-- Units that end an expression before any operator of rank `bound` or more. -/
def Ends (bound : Nat) (ts : List Token) : Prop :=
  ∀ tok ∈ ts.head?, tok.closes = true ∧ ∀ op, tok.binOp? = some op → op.precedence.rank < bound

theorem Ends.mono {bound bound' : Nat} {ts : List Token} (h : Ends bound ts)
    (hle : bound ≤ bound') : Ends bound' ts := by
  intro tok htok
  obtain ⟨hcloses, hrank⟩ := h tok htok
  exact ⟨hcloses, fun op hop => Nat.lt_of_lt_of_le (hrank op hop) hle⟩

theorem Ends.follows {bound : Nat} {ts : List Token} (h : Ends bound ts) : Follows ts :=
  fun tok htok => Or.inl (h tok htok).1

theorem ends_nil (bound : Nat) : Ends bound [] := by
  intro tok htok
  cases htok

theorem ends_mark {m : Mark} (hm : m = .closeParen ∨ m = .comma) (bound : Nat)
    (rest : List Token) : Ends bound (.mark m :: rest) := by
  intro tok htok
  cases htok
  refine ⟨?_, fun op hop => by cases hop⟩
  rcases hm with rfl | rfl <;> rfl

theorem toLower_of_wordOp {w : String} {op : BinOp} (h : wordOp? w = some op) :
    w.toLower = op.symbol := by
  unfold wordOp? at h
  split_ifs at h with h₁ h₂ h₃ h₄ <;> cases h
  · exact beq_iff_eq.mp h₁
  · exact beq_iff_eq.mp h₂
  · exact beq_iff_eq.mp h₃
  · exact beq_iff_eq.mp h₄

/-- The words that end an expression are the operators `and`, `or`, `unless` and `atan2`. -/
theorem toLower_of_closes {w : String} (h : (Token.word w).closes = true) :
    w.toLower ∈ ["and", "or", "unless", "atan2"] := by
  obtain ⟨op, hop⟩ := Option.isSome_iff_exists.mp h
  rw [toLower_of_wordOp hop]
  unfold wordOp? at hop
  split_ifs at hop <;> cases hop <;> simp [BinOp.symbol]

theorem readPostfix_of_ends {bound : Nat} {rest : List Token} (h : Ends bound rest) (e : Expr) :
    readPostfix e rest = some (e, rest) := by
  rcases rest with _ | ⟨tok, more⟩
  · rw [readPostfix] <;> simp
  · have hcloses := (h tok rfl).1
    cases tok with
    | word w =>
      have hw : (w.toLower == "offset") = false := by
        have hmem := toLower_of_closes hcloses
        simp only [List.mem_cons, List.not_mem_nil, or_false] at hmem
        rcases hmem with h' | h' | h' | h' <;> rw [h'] <;> decide
      rw [readPostfix]
      simp only [hw, Bool.false_eq_true, if_false]
    | window _ => cases hcloses
    | mark m =>
      cases m <;> simp only [Token.closes, Bool.false_eq_true] at hcloses <;>
        (rw [readPostfix] <;> simp)
    | number _ | duration _ | str _ | op _ => rw [readPostfix] <;> simp

theorem climb_of_ends {level : Nat} {rest : List Token} (h : Ends level rest) (e : Expr) :
    climb level e rest = some (e, rest) := by
  rcases rest with _ | ⟨tok, more⟩
  · exact climb_nil level e
  · have hrank := (h tok rfl).2
    rw [climb]
    cases hop : tok.binOp? with
    | none => rfl
    | some op =>
      have hlt := hrank op hop
      simp only [Nat.not_le.mpr hlt, if_false]

/-! ### Clauses, selectors, numbers and durations -/

theorem readLabelsRest_labelTokens : (labels : List String) → (rest : List Token) →
    readLabelsRest (labelTokens labels ++ rest) = some (labels, rest)
  | [], rest => by simp [labelTokens, readLabelsRest]
  | [l], rest => by simp [labelTokens, readLabelsRest]
  | l :: l' :: more, rest => by
    simp [labelTokens, readLabelsRest, readLabelsRest_labelTokens (l' :: more) rest]

theorem readLabels_labelTokens (labels : List String) (rest : List Token) :
    readLabels (.mark .openParen :: (labelTokens labels ++ rest)) = some (labels, rest) := by
  simp only [readLabels, readLabelsRest_labelTokens]

theorem not_clauseWord_of_leads {w : String} (h : (Token.word w).leads = true) {c : String}
    (hc : c ∈ clauseWords) : (w.toLower == c) = false := by
  simp only [Token.leads, Bool.not_eq_true', List.contains_eq_mem, decide_eq_false_iff_not] at h
  rw [beq_eq_false_iff_ne]
  rintro rfl
  exact h hc

theorem readBool_of_leads {ts : List Token} (h : ∀ tok ∈ ts.head?, tok.leads = true) :
    readBool ts = (false, ts) := by
  rcases ts with _ | ⟨tok, more⟩
  · rfl
  · cases tok with
    | word w =>
      have hb := not_clauseWord_of_leads (h _ rfl) (c := "bool") (by simp [clauseWords])
      simp only [readBool, hb, Bool.false_eq_true, if_false]
    | number _ | duration _ | window _ | str _ | mark _ | op _ => rfl

theorem readGroupClause_of_leads {ts : List Token} (h : ∀ tok ∈ ts.head?, tok.leads = true) :
    readGroupClause ts = some (none, ts) := by
  rcases ts with _ | ⟨tok, more⟩
  · rfl
  · cases tok with
    | word w =>
      have hl := not_clauseWord_of_leads (h _ rfl) (c := "group_left") (by simp [clauseWords])
      have hr := not_clauseWord_of_leads (h _ rfl) (c := "group_right") (by simp [clauseWords])
      simp only [readGroupClause, hl, hr, Bool.false_eq_true, if_false]
    | number _ | duration _ | window _ | str _ | mark _ | op _ => rfl

theorem readGroupClause_groupTokens (group : Option GroupClause) {ts : List Token}
    (h : ∀ tok ∈ ts.head?, tok.leads = true) :
    readGroupClause (groupTokens group ++ ts) = some (group, ts) := by
  rcases group with _ | ⟨side, labels⟩
  · exact readGroupClause_of_leads h
  · cases side with
    | left =>
      have hl : ("group_left".toLower == "group_left") = true := by cbv
      simp only [groupTokens, clauseTokens, GroupSide.keyword, List.cons_append, readGroupClause,
        hl, if_true, readLabels_labelTokens, Option.map_some]
    | right =>
      have hl : ("group_right".toLower == "group_left") = false := by cbv
      have hr : ("group_right".toLower == "group_right") = true := by cbv
      simp only [groupTokens, clauseTokens, GroupSide.keyword, List.cons_append, readGroupClause,
        hl, hr, Bool.false_eq_true, if_false, if_true, readLabels_labelTokens, Option.map_some]

theorem readMatching_matchingTokens (matching : Option Matching) {ts : List Token}
    (h : ∀ tok ∈ ts.head?, tok.leads = true) :
    readMatching (matchingTokens matching ++ ts) = some (matching, ts) := by
  rcases matching with _ | ⟨kind, labels, group⟩
  · -- no clause: the next word is no `on` or `ignoring`
    rcases ts with _ | ⟨tok, more⟩
    · rfl
    · cases tok with
      | word w =>
        have hon := not_clauseWord_of_leads (h _ rfl) (c := "on") (by simp [clauseWords])
        have hig := not_clauseWord_of_leads (h _ rfl) (c := "ignoring") (by simp [clauseWords])
        simp only [matchingTokens, List.nil_append, readMatching, matchingKind?, hon, hig,
          Bool.false_eq_true, if_false]
      | number _ | duration _ | window _ | str _ | mark _ | op _ => rfl
  · have hkind : matchingKind? kind.keyword = some kind := by
      cases kind <;> cbv
    simp only [matchingTokens, clauseTokens, List.cons_append, List.append_assoc, readMatching,
      hkind, readLabels_labelTokens, readGroupClause_groupTokens group h, Option.map_some]

/-- The words that may follow a primary open no grouping clause. -/
theorem readGrouping_of_follows {ts : List Token} (h : Follows ts) :
    readGrouping ts = some (none, ts) := by
  rcases ts with _ | ⟨tok, more⟩
  · rfl
  · cases tok with
    | word w =>
      have hw : w.toLower ∈ ["and", "or", "unless", "atan2", "offset"] := by
        rcases h _ rfl with hc | hp
        · have hmem := toLower_of_closes hc
          simp only [List.mem_cons, List.not_mem_nil, or_false] at hmem ⊢
          tauto
        · simp only [Token.isPostfix, beq_iff_eq] at hp
          simp [hp]
      have hby : (w.toLower == "by") = false := by
        simp only [List.mem_cons, List.not_mem_nil, or_false] at hw
        rcases hw with h' | h' | h' | h' | h' <;> rw [h'] <;> decide
      have hwithout : (w.toLower == "without") = false := by
        simp only [List.mem_cons, List.not_mem_nil, or_false] at hw
        rcases hw with h' | h' | h' | h' | h' <;> rw [h'] <;> decide
      simp only [readGrouping, hby, hwithout, Bool.false_eq_true, if_false]
    | number _ | duration _ | window _ | str _ | mark _ | op _ => rfl

theorem readGrouping_groupingTokens (grouping : Option Grouping) {ts : List Token}
    (h : Follows ts) : readGrouping (groupingTokens grouping ++ ts) = some (grouping, ts) := by
  rcases grouping with _ | ⟨kind, labels⟩
  · exact readGrouping_of_follows h
  · cases kind with
    | byLabels =>
      have hby : ("by".toLower == "by") = true := by cbv
      simp only [groupingTokens, clauseTokens, GroupingKind.keyword, List.cons_append,
        readGrouping, hby, if_true, readLabels_labelTokens, Option.map_some]
    | withoutLabels =>
      have hby : ("without".toLower == "by") = false := by cbv
      have hwithout : ("without".toLower == "without") = true := by cbv
      simp only [groupingTokens, clauseTokens, GroupingKind.keyword, List.cons_append,
        readGrouping, hby, hwithout, Bool.false_eq_true, if_false, if_true,
        readLabels_labelTokens, Option.map_some]

theorem readMatchers_matcherTokens : (ms : List Matcher) → (rest : List Token) →
    readMatchers (matcherTokens ms ++ rest) = some (ms, rest)
  | [], rest => by simp [matcherTokens, readMatchers]
  | [m], rest => by simp [matcherTokens, readMatchers]
  | m :: n :: more, rest => by
    simp [matcherTokens, readMatchers, readMatchers_matcherTokens (n :: more) rest]

theorem isKeyword_eq_false_iff {w : String} : isKeyword w = false ↔ w.toLower ∉ keywords := by
  simp [isKeyword]

theorem numberWord_of_not_keyword {w : String} (h : isKeyword w = false) :
    numberWord? w = none := by
  rw [isKeyword_eq_false_iff] at h
  have hnan : (w.toLower == "nan") = false := by
    rw [beq_eq_false_iff_ne]
    rintro heq
    exact h (by rw [heq]; simp [keywords])
  have hinf : (w.toLower == "inf") = false := by
    rw [beq_eq_false_iff_ne]
    rintro heq
    exact h (by rw [heq]; simp [keywords])
  simp only [numberWord?, hnan, hinf, Bool.false_eq_true, if_false]

theorem leads_of_not_keyword {w : String} (h : isKeyword w = false) : (Token.word w).leads = true := by
  rw [isKeyword_eq_false_iff] at h
  simp only [Token.leads, Bool.not_eq_eq_eq_not, Bool.not_true, List.contains_eq_mem,
    decide_eq_false_iff_not]
  intro hmem
  apply h
  simp only [clauseWords, List.mem_cons, List.not_mem_nil, or_false] at hmem
  rcases hmem with h' | h' | h' | h' | h' <;> rw [h'] <;> simp [keywords]

/-- Every function of the table is named by a word that is no keyword and no number. -/
theorem functions_names : ∀ spec ∈ functions,
    isKeyword spec.name = false ∧ numberWord? spec.name = none := by
  have hall : functions.all
      (fun spec => !isKeyword spec.name && (numberWord? spec.name).isNone) = true := by
    cbv
  intro spec hspec
  have h := List.all_eq_true.mp hall spec hspec
  simp only [Bool.and_eq_true, Bool.not_eq_eq_eq_not, Bool.not_true, Option.isNone_iff_eq_none] at h
  exact h

theorem names_of_lookupFunction {name : String} {spec : FunctionSpec}
    (h : lookupFunction name = some spec) : isKeyword name = false ∧ numberWord? name = none := by
  have hmem := List.mem_of_find?_eq_some h
  have hname : spec.name = name := by
    simpa using List.find?_some h
  rw [← hname]
  exact functions_names spec hmem

theorem readPrimary_selector {sel : Selector} (hname : isKeyword sel.name = false)
    {rest : List Token} (h : Follows rest) :
    readPrimary (sel.tokens ++ rest) = some (.selector sel, rest) := by
  have hnum := numberWord_of_not_keyword hname
  rcases sel with ⟨name, _ | ms⟩
  · -- a bare name: what follows opens neither a call nor a matcher list
    have hnext : ∀ tok ∈ rest.head?, tok ≠ .mark .openParen ∧ tok ≠ .mark .openBrace := by
      intro tok htok
      rcases h tok htok with hc | hc <;> constructor <;> rintro rfl <;> cases hc
    simp only [Selector.tokens, List.cons_append, List.nil_append]
    rw [readPrimary_word_selector hnum hname]
    · rcases rest with _ | ⟨tok, more⟩
      · rfl
      · rw [readSelector]
        intro more' heq
        exact (hnext tok rfl).2 (List.cons.inj heq).1
    · intro more heq
      subst heq
      exact (hnext _ rfl).1 rfl
  · simp only [Selector.tokens, List.cons_append]
    rw [readPrimary_word_selector hnum hname (by intro more heq; cases heq)]
    simp only [readSelector, readMatchers_matcherTokens, Option.map_some]

theorem readOffset_durationTokens (d : Duration) (rest : List Token) :
    readOffset (durationTokens d ++ rest) = some (d.readBack, rest) := by
  unfold durationTokens
  split
  · rename_i body hbody
    simp only [List.cons_append, List.nil_append, readOffset]
    rw [← hbody, String.ofList_toList, Duration.parse_render_eq_readBack, Option.map_some]
  · rename_i text hnot
    simp only [List.cons_append, List.nil_append, readOffset, String.ofList_toList,
      Duration.parse_render_eq_readBack, Option.map_some]

theorem Duration.render_ne_colon (d : Duration) : ∀ c ∈ d.render.toList, (c != ':') = true := by
  intro c hc
  rw [bne_iff_ne]
  rintro rfl
  rcases Duration.render_chars d ':' hc with h | h <;> revert h <;> decide

theorem applyWindow_range (sel : Selector) (width : Duration) :
    applyWindow (.selector sel) width.render.toList = some (.range sel width.readBack) := by
  have htake : width.render.toList.takeWhile (· != ':') = width.render.toList :=
    List.takeWhile_eq_self_iff.mpr (Duration.render_ne_colon width)
  have hdrop : width.render.toList.dropWhile (· != ':') = [] :=
    List.dropWhile_eq_nil_iff.mpr (Duration.render_ne_colon width)
  unfold applyWindow
  simp only [htake, hdrop, String.ofList_toList, Duration.parse_render_eq_readBack]

theorem applyWindow_subquery (e : Expr) (width : Duration) (step : Option Duration) :
    applyWindow e (subqueryWindow width step) =
      some (.subquery e width.readBack (step.map Duration.readBack)) := by
  have hcolon := Duration.render_ne_colon width
  unfold applyWindow subqueryWindow
  rw [List.takeWhile_append_of_pos hcolon, List.takeWhile_cons_of_neg (by simp),
    List.append_nil, List.dropWhile_append_of_pos hcolon, List.dropWhile_cons_of_neg (by simp)]
  simp only [String.ofList_toList, Duration.parse_render_eq_readBack]
  rcases step with _ | s
  · rfl
  · obtain ⟨c, cs, hcs⟩ := List.exists_cons_of_ne_nil (Duration.render_toList_ne_nil s)
    simp only [hcs]
    rw [← hcs, String.ofList_toList, Duration.parse_render_eq_readBack]
    rfl

theorem numberWord_nan : numberWord? "NaN" = some Binary64.nan := by cbv

theorem numberWord_inf : numberWord? "Inf" = some (Binary64.infinity false) := by cbv

theorem numberValue_magnitudeToken (v : Binary64) :
    (magnitudeToken v).numberValue? = some v.abs := by
  unfold magnitudeToken
  split
  · rename_i hinf
    have hclass : v.classify = .infinite := by
      simpa [Binary64.isInfinite] using hinf
    rw [Binary64.abs_of_infinite hclass]
    exact numberWord_inf
  · rfl

theorem leads_magnitudeToken (v : Binary64) : (magnitudeToken v).leads = true := by
  unfold magnitudeToken
  split
  · cbv
  · rfl

theorem magnitudeToken_ne_minus (v : Binary64) : magnitudeToken v ≠ .op .sub := by
  unfold magnitudeToken
  split <;> intro h <;> cases h

/-- A number with no `-` in front is written as one unit, which reads as its value. -/
theorem numberTokens_of_not_unary {v : Binary64} (h : (v.isNegative && !v.isNaN) = false) :
    ∃ tok, numberTokens v = [tok] ∧ tok.numberValue? = some v.readBack ∧ tok.leads = true := by
  unfold numberTokens
  cases hnan : v.isNaN with
  | true =>
    refine ⟨.word "NaN", by simp, ?_, by cbv⟩
    simp only [Binary64.readBack, hnan, if_true]
    exact numberWord_nan
  | false =>
    have hneg : v.isNegative = false := by simpa [hnan] using h
    refine ⟨magnitudeToken v, by simp [hneg], ?_, leads_magnitudeToken v⟩
    rw [numberValue_magnitudeToken v, Binary64.abs_of_not_isNegative hneg,
      Binary64.readBack_of_not_isNaN hnan]

theorem numberTokens_of_unary {v : Binary64} (h : (v.isNegative && !v.isNaN) = true) :
    numberTokens v = [.op .sub, magnitudeToken v] ∧ v.isNaN = false ∧ v.isNegative = true := by
  simp only [Bool.and_eq_true, Bool.not_eq_true'] at h
  simp [numberTokens, h.1, h.2]

theorem readSignedNumber_of_numberValue {tok : Token} {w : Binary64}
    (h : tok.numberValue? = some w) (hminus : tok ≠ .op .sub) (rest : List Token) :
    readSignedNumber (tok :: rest) = some (w, rest) := by
  rw [readSignedNumber]
  · simp only [h, Option.map_some]
  · intro _ _ heq _
    exact hminus heq

theorem readSignedNumber_numberTokens (v : Binary64) (rest : List Token) :
    readSignedNumber (numberTokens v ++ rest) = some (v.readBack, rest) := by
  cases hsign : (v.isNegative && !v.isNaN) with
  | false =>
    obtain ⟨tok, htokens, hvalue, -⟩ := numberTokens_of_not_unary hsign
    rw [htokens, List.singleton_append]
    exact readSignedNumber_of_numberValue hvalue (by rintro rfl; cases hvalue) rest
  | true =>
    obtain ⟨htokens, hnan, hneg⟩ := numberTokens_of_unary hsign
    rw [htokens, List.cons_append, List.singleton_append, readSignedNumber,
      numberValue_magnitudeToken v, Option.map_some, Binary64.negate_abs hneg,
      Binary64.readBack_of_not_isNaN hnan]

theorem readSignedNumber_word {w : String} (h : numberWord? w = none) (rest : List Token) :
    readSignedNumber (.word w :: rest) = none := by
  rw [readSignedNumber]
  · simp only [Token.numberValue?, h, Option.map_none]
  · intro t r heq
    cases heq

/-! ### Binding strengths -/

@[simp] theorem Precedence.lt_iff_rank_lt (a b : Precedence) : a < b ↔ a.rank < b.rank :=
  Iff.rfl

theorem Precedence.rank_injective : Function.Injective Precedence.rank := by
  intro a b h
  cases a <;> cases b <;> simp_all [Precedence.rank]

theorem Expr.bindingIn_minimal (e : Expr) : e.bindingIn .minimal = e.precedence := by
  cases e <;> rfl

/-- A child without brackets binds at least as tightly as its position needs, and more tightly
where the position is strict. -/
theorem needsBrackets_eq_false {c : Expr} {r : Precedence} {strictly : Bool}
    (h : needsBrackets .minimal c r strictly = false) :
    r.rank ≤ c.precedence.rank ∧ (strictly = true → r.rank < c.precedence.rank) := by
  unfold needsBrackets at h
  rw [Expr.bindingIn_minimal] at h
  simp only [Bool.or_eq_false_iff, decide_eq_false_iff_not, Bool.and_eq_false_iff] at h
  obtain ⟨hlt, hstrict⟩ := h
  have hle : r.rank ≤ c.precedence.rank := Nat.le_of_not_lt hlt
  refine ⟨hle, fun hs => ?_⟩
  rcases hstrict with hs' | hne
  · rw [hs] at hs'
    cases hs'
  · have hne' : c.precedence ≠ r := by simpa using hne
    have hrank : c.precedence.rank ≠ r.rank := fun heq => hne' (Precedence.rank_injective heq)
    omega

theorem needsBrackets_or (e : Expr) : needsBrackets .minimal e .or false = false := by
  unfold needsBrackets
  simp only [Bool.false_and, Bool.or_false, decide_eq_false_iff_not]
  exact Nat.not_lt_zero _

theorem BinOp.rank_of_left {op : BinOp} (h : op.rightAssociative = false) :
    op.precedence.rank ≤ Precedence.multiplicative.rank := by
  cases op <;> simp_all [BinOp.rightAssociative, BinOp.precedence, Precedence.rank]

theorem BinOp.rank_le_power (op : BinOp) : op.precedence.rank ≤ Precedence.power.rank := by
  cases op <;> simp [BinOp.precedence, Precedence.rank]

/-- An operator written after an expression is taken into it from one rank above the
expression's own binding, or, after a power, from its own rank. -/
theorem Expr.openLevel_spec (x : Expr) :
    x.precedence.rank + 1 ≤ x.openLevel ∨
      (x.precedence = .power ∧ x.openLevel = Precedence.power.rank) := by
  cases x with
  | literal v =>
    cases hsign : (v.isNegative && !v.isNaN) <;>
      simp [Expr.openLevel, Expr.precedence, hsign, Precedence.rank]
  | binary op lhs rhs flag matching =>
    cases op <;> simp [Expr.openLevel, Expr.precedence, BinOp.rhsLevel, BinOp.rightAssociative,
      BinOp.precedence, Precedence.rank]
  | _ => simp [Expr.openLevel, Expr.precedence, Precedence.rank]

/-- The left operand, unbracketed, stops before its operator. -/
theorem lhs_open {op : BinOp} {lhs : Expr} {level : Nat} (hlevel : level ≤ op.precedence.rank)
    (h : needsBrackets .minimal lhs op.precedence op.rightAssociative = false) :
    level ≤ lhs.precedence.rank ∧ op.precedence.rank + 1 ≤ lhs.openLevel := by
  obtain ⟨hle, hstrict⟩ := needsBrackets_eq_false h
  refine ⟨Nat.le_trans hlevel hle, ?_⟩
  rcases Expr.openLevel_spec lhs with hopen | ⟨hpower, hopen⟩
  · omega
  · -- a power on the left of an operator that groups to the left binds more than it; on the
    -- left of `^` it would have been bracketed
    rw [hopen]
    cases hright : op.rightAssociative with
    | false =>
      have := BinOp.rank_of_left hright
      simp only [Precedence.rank] at this ⊢
      omega
    | true =>
      have hlt := hstrict hright
      rw [hpower] at hlt
      have := BinOp.rank_le_power op
      omega

/-- The right operand, unbracketed, binds at least at the operator's right level, and what ends
the whole operation ends the right operand. -/
theorem rhs_open {op : BinOp} {rhs : Expr}
    (h : needsBrackets .minimal rhs op.precedence (!op.rightAssociative) = false) :
    op.rhsLevel ≤ rhs.precedence.rank ∧ op.rhsLevel ≤ rhs.openLevel := by
  obtain ⟨hle, hstrict⟩ := needsBrackets_eq_false h
  have hlevel : op.rhsLevel ≤ rhs.precedence.rank := by
    unfold BinOp.rhsLevel
    cases hright : op.rightAssociative with
    | false =>
      have := hstrict (by simp [hright])
      simp only [Bool.false_eq_true, if_false]
      omega
    | true =>
      simp only [if_true]
      exact hle
  refine ⟨hlevel, ?_⟩
  rcases Expr.openLevel_spec rhs with hopen | ⟨hpower, hopen⟩
  · omega
  · rw [hopen]
    rw [hpower] at hlevel
    exact hlevel

theorem binOp_opToken (op : BinOp) : (opToken op).binOp? = some op := by
  cases op <;> first | rfl | cbv

theorem closes_opToken (op : BinOp) : (opToken op).closes = true := by
  cases op <;> first | rfl | cbv

theorem ends_operatorTokens (op : BinOp) (flag : Bool) (matching : Option Matching)
    (ts : List Token) : Ends (op.precedence.rank + 1) (operatorTokens op flag matching ++ ts) := by
  intro tok htok
  simp only [operatorTokens, List.cons_append, List.head?_cons, Option.mem_def,
    Option.some.injEq] at htok
  subst htok
  refine ⟨closes_opToken op, fun op' hop => ?_⟩
  rw [binOp_opToken, Option.some.injEq] at hop
  subst hop
  omega

/-- The unit after an operator and its `bool` flag is no `bool`. -/
theorem readBool_operator (flag : Bool) (matching : Option Matching) {ts : List Token}
    (h : ∀ tok ∈ ts.head?, tok.leads = true) :
    readBool ((if flag then [.word "bool"] else []) ++ (matchingTokens matching ++ ts)) =
      (flag, matchingTokens matching ++ ts) := by
  cases flag with
  | true =>
    have hb : ("bool".toLower == "bool") = true := by cbv
    simp only [if_true, List.singleton_append, readBool, hb]
  | false =>
    rcases matching with _ | ⟨kind, labels, group⟩
    · exact readBool_of_leads h
    · have hkind : (kind.keyword.toLower == "bool") = false := by
        cases kind <;> cbv
      simp only [Bool.false_eq_true, if_false, List.nil_append, matchingTokens, clauseTokens,
        List.cons_append, readBool, hkind]

/-! ### Node by node -/

/-- What the reader does with the units of `x` followed by units that may follow it. They start
with a unit that may lead an expression, a `-` only where `x` binds less than a modifier. A
primary is read whole by `readPrimary`; a node that binds at least as a modifier is read by
`readPostfixed` together with the windows and modifiers after it; and `readExpr`, at any level
up to `x`'s own binding, reads `x` and hands what follows to `climb`. -/
structure Expr.Reads (x : Expr) : Prop where
  lead : ∃ tok more, x.tokens = tok :: more ∧ tok.leads = true ∧
    (tok = .op .sub → x.precedence.rank < Precedence.modifier.rank)
  primary : x.isPrimary = true → ∀ rest, Follows rest →
    readPrimary (x.tokens ++ rest) = some (x.readBack, rest)
  postfixed : Precedence.modifier.rank ≤ x.precedence.rank → ∀ rest, Follows rest →
    readPostfixed (x.tokens ++ rest) = readPostfix x.readBack rest
  expr : ∀ level rest, level ≤ x.precedence.rank → Ends x.openLevel rest →
    readExpr level (x.tokens ++ rest) = climb level x.readBack rest

/-- A modifier's units, behind an expression, wrap the expression in the modifier read back. -/
def Modifier.Reads (m : Modifier) : Prop :=
  ∀ e rest, Follows rest →
    readPostfix e (m.tokens ++ rest) = readPostfix (.derived e m.readBack) rest

/-- An argument does not start with `)` and is read whole before a `,` or a `)`. -/
structure Arg.Reads (a : Arg) : Prop where
  lead : ∃ tok more, a.tokens = tok :: more ∧ tok ≠ .mark .closeParen
  arg : ∀ rest, (∀ tok ∈ rest.head?, tok = .mark .comma ∨ tok = .mark .closeParen) →
    readArg (a.tokens ++ rest) = some (a.readBack, rest)

/-- An argument list is read up to and including its `)`, by `readArgs` and, when it is not
empty, by `readArgList`. -/
def Arg.ReadsList (args : List Arg) : Prop :=
  ∀ rest, readArgs (Arg.listTokens args ++ rest) = some (Arg.readBackList args, rest) ∧
    (args ≠ [] → readArgList (Arg.listTokens args ++ rest) = some (Arg.readBackList args, rest))

section Generic

variable {x : Expr} {tok : Token} {more : List Token}

theorem length_lt_of_cons {ts : List Token} (h : ts = tok :: more) (rest : List Token) :
    rest.length < (ts ++ rest).length := by
  subst h
  simp

/-- A node read whole by `readPostfixed` that starts with no `-` is read by `readExpr` up to what
follows it. -/
theorem readExpr_of_postfixed (htokens : x.tokens = tok :: more) (hminus : tok ≠ .op .sub)
    (hpost : ∀ rest, Follows rest → readPostfixed (x.tokens ++ rest) = readPostfix x.readBack rest)
    {level bound : Nat} {rest : List Token} (hrest : Ends bound rest) :
    readExpr level (x.tokens ++ rest) = climb level x.readBack rest := by
  have hop : readOperand level (x.tokens ++ rest) = some (x.readBack, rest) := by
    rw [readOperand_of_ne_minus, hpost rest hrest.follows, readPostfix_of_ends hrest]
    intro more' heq
    rw [htokens, List.cons_append] at heq
    exact hminus (List.cons.inj heq).1
  exact readExpr_of_readOperand hop (length_lt_of_cons htokens rest)

theorem readPostfixed_of_primary (htokens : x.tokens = tok :: more) {rest : List Token}
    (h : readPrimary (x.tokens ++ rest) = some (x.readBack, rest)) :
    readPostfixed (x.tokens ++ rest) = readPostfix x.readBack rest :=
  readPostfixed_of_readPrimary h (length_lt_of_cons htokens rest)

/-- A node that starts with a leading unit other than `-`, and that `readPostfixed` reads
together with what follows it, reads as a node: `readExpr` reaches it through `readPostfixed`. -/
theorem Expr.Reads.of_postfixed (htokens : x.tokens = tok :: more) (hleads : tok.leads = true)
    (hminus : tok ≠ .op .sub)
    (hprimary : x.isPrimary = true → ∀ rest, Follows rest →
      readPrimary (x.tokens ++ rest) = some (x.readBack, rest))
    (hpost : ∀ rest, Follows rest → readPostfixed (x.tokens ++ rest) = readPostfix x.readBack rest) :
    x.Reads where
  lead := ⟨tok, more, htokens, hleads, fun h => absurd h hminus⟩
  primary := hprimary
  postfixed := fun _ => hpost
  expr := fun _ _ _ hrest => readExpr_of_postfixed htokens hminus hpost hrest

/-- A node that `readPrimary` reads whole, and that starts with a leading unit other than `-`,
reads as a node. -/
theorem Expr.Reads.of_primary (htokens : x.tokens = tok :: more) (hleads : tok.leads = true)
    (hminus : tok ≠ .op .sub)
    (hprimary : ∀ rest, Follows rest → readPrimary (x.tokens ++ rest) = some (x.readBack, rest)) :
    x.Reads :=
  .of_postfixed htokens hleads hminus (fun _ => hprimary)
    (fun rest h => readPostfixed_of_primary htokens (hprimary rest h))

end Generic

section Brackets

variable {y : Expr}

theorem bracketTokens_true (ts : List Token) :
    bracketTokens true ts = .mark .openParen :: (ts ++ [.mark .closeParen]) := rfl

theorem readPrimary_bracketed (hy : y.Reads) (rest : List Token) :
    readPrimary (bracketTokens true y.tokens ++ rest) = some (y.readBack, rest) := by
  rw [bracketTokens_true, List.cons_append, List.append_assoc, List.singleton_append]
  apply readPrimary_bracket
  rw [hy.expr 0 _ (Nat.zero_le _) (ends_mark (Or.inl rfl) _ rest),
    climb_of_ends (ends_mark (Or.inl rfl) 0 rest)]

theorem lead_bracketTokens (hy : y.Reads) (bracket : Bool) :
    ∃ tok more, bracketTokens bracket y.tokens = tok :: more ∧ tok.leads = true ∧
      (tok = .op .sub → bracket = false ∧ y.precedence.rank < Precedence.modifier.rank) := by
  cases bracket with
  | true => exact ⟨.mark .openParen, _, bracketTokens_true _, rfl, fun h => by cases h⟩
  | false =>
    obtain ⟨tok, more, htok, hleads, hminus⟩ := hy.lead
    exact ⟨tok, more, htok, hleads, fun h => ⟨rfl, hminus h⟩⟩

/-- A child, bracketed or not, is read by `readExpr` up to what follows it. -/
theorem readExpr_bracketTokens (hy : y.Reads) {bracket : Bool} {level bound : Nat}
    {rest : List Token} (hrest : Ends bound rest)
    (hopen : bracket = false → level ≤ y.precedence.rank ∧ bound ≤ y.openLevel) :
    readExpr level (bracketTokens bracket y.tokens ++ rest) = climb level y.readBack rest := by
  cases bracket with
  | false =>
    obtain ⟨hlevel, hbound⟩ := hopen rfl
    exact hy.expr level rest hlevel (hrest.mono hbound)
  | true =>
    have hlen := length_lt_of_cons (bracketTokens_true y.tokens) rest
    have hpost : readPostfixed (bracketTokens true y.tokens ++ rest) = readPostfix y.readBack rest :=
      readPostfixed_of_readPrimary (readPrimary_bracketed hy rest) hlen
    have hop : readOperand level (bracketTokens true y.tokens ++ rest) = some (y.readBack, rest) := by
      rw [readOperand_of_ne_minus, hpost, readPostfix_of_ends hrest]
      intro more heq
      rw [bracketTokens_true, List.cons_append] at heq
      cases heq
    exact readExpr_of_readOperand hop hlen

/-- A child at a position that needs at least the binding of a modifier, bracketed or not, is read
by `readPostfixed` with the windows and modifiers after it. -/
theorem readPostfixed_bracketTokens (hy : y.Reads) {r : Precedence}
    (hr : Precedence.modifier.rank ≤ r.rank) {rest : List Token} (hrest : Follows rest) :
    readPostfixed (bracketTokens (needsBrackets .minimal y r false) y.tokens ++ rest) =
      readPostfix y.readBack rest := by
  cases hb : needsBrackets .minimal y r false with
  | false =>
    exact hy.postfixed (Nat.le_trans hr (needsBrackets_eq_false hb).1) rest hrest
  | true =>
    exact readPostfixed_of_readPrimary (readPrimary_bracketed hy rest)
      (length_lt_of_cons (bracketTokens_true y.tokens) rest)

/-- A child at a position that needs at least the binding of a modifier starts with no `-`. -/
theorem lead_bracketTokens_of_modifier (hy : y.Reads) {r : Precedence}
    (hr : Precedence.modifier.rank ≤ r.rank) :
    ∃ tok more, bracketTokens (needsBrackets .minimal y r false) y.tokens = tok :: more ∧
      tok.leads = true ∧ tok ≠ .op .sub := by
  obtain ⟨tok, more, htok, hleads, hminus⟩ :=
    lead_bracketTokens hy (needsBrackets .minimal y r false)
  refine ⟨tok, more, htok, hleads, fun h => ?_⟩
  obtain ⟨hb, hlt⟩ := hminus h
  have := (needsBrackets_eq_false hb).1
  omega

end Brackets

theorem readExpr_numberToken {tok : Token} {w : Binary64} (h : tok.numberValue? = some w)
    (hminus : tok ≠ .op .sub) {level bound : Nat} {rest : List Token} (hrest : Ends bound rest) :
    readExpr level (tok :: rest) = climb level (.literal w) rest := by
  have hop : readOperand level (tok :: rest) = some (.literal w, rest) := by
    rw [readOperand_of_ne_minus, readPostfixed_of_readPrimary (readPrimary_of_numberValue h rest)
      (by simp), readPostfix_of_ends hrest]
    intro more heq
    exact hminus (List.cons.inj heq).1
  exact readExpr_of_readOperand hop (by simp)

theorem literal_reads (v : Binary64) : (Expr.literal v).Reads := by
  cases hsign : (v.isNegative && !v.isNaN) with
  | false =>
    -- one unit, read as a primary
    obtain ⟨tok, htokens, hvalue, hleads⟩ := numberTokens_of_not_unary hsign
    have hminus : tok ≠ .op .sub := by
      rintro rfl
      cases hvalue
    have hshape : (Expr.literal v).tokens = tok :: [] := htokens
    apply Expr.Reads.of_primary hshape hleads hminus
    intro rest _
    rw [hshape, List.singleton_append]
    exact readPrimary_of_numberValue hvalue rest
  | true =>
    -- a `-` and the magnitude, read at the level of `^`
    obtain ⟨htokens, hnan, hneg⟩ := numberTokens_of_unary hsign
    have hprec : (Expr.literal v).precedence = .unary := by
      simp [Expr.precedence, hsign]
    have hopen : (Expr.literal v).openLevel = Precedence.power.rank := by
      simp [Expr.openLevel, hsign]
    refine ⟨⟨.op .sub, [magnitudeToken v], htokens, rfl, fun _ => by rw [hprec]; decide⟩,
      ?_, ?_, ?_⟩
    · intro h
      simp [Expr.isPrimary, hsign] at h
    · intro h
      rw [hprec] at h
      exact absurd h (by decide)
    intro level rest hlevel hrest
    rw [hprec] at hlevel
    rw [hopen] at hrest
    have hmagnitude : readExpr Precedence.power.rank (magnitudeToken v :: rest) =
        some (.literal v.abs, rest) := by
      rw [← climb_of_ends hrest]
      exact readExpr_numberToken (numberValue_magnitudeToken v) (magnitudeToken_ne_minus v)
        hrest
    have hop := readOperand_minus hlevel hmagnitude
    rw [Binary64.negate_abs hneg] at hop
    have hshape : (Expr.literal v).tokens ++ rest = .op .sub :: magnitudeToken v :: rest := by
      simp [Expr.tokens, htokens]
    rw [hshape, readExpr_of_readOperand hop (by simp)]
    simp only [Expr.readBack, Binary64.readBack_of_not_isNaN hnan]

theorem selector_reads {sel : Selector} (hname : isKeyword sel.name = false) :
    (Expr.selector sel).Reads :=
  .of_primary rfl (leads_of_not_keyword hname) (fun h => by cases h)
    (fun _ h => readPrimary_selector hname h)

theorem range_reads {sel : Selector} (hname : isKeyword sel.name = false) (width : Duration) :
    (Expr.range sel width).Reads := by
  have hpostfixed : ∀ rest, Follows rest → readPostfixed ((Expr.range sel width).tokens ++ rest) =
      readPostfix (Expr.range sel width).readBack rest := by
    intro rest _
    have hwindow : Follows (.window width.render.toList :: rest) := by
      intro tok htok
      cases htok
      exact Or.inr rfl
    have hselector := readPrimary_selector hname hwindow
    simp only [Expr.tokens, List.append_assoc, List.singleton_append, Expr.readBack]
    rw [readPostfixed_of_readPrimary hselector (length_lt_of_cons rfl _), readPostfix_window,
      applyWindow_range, Option.bind_some]
  exact .of_postfixed rfl (leads_of_not_keyword hname) (fun h => by cases h)
    (fun h => by simp [Expr.isPrimary] at h) hpostfixed

theorem subquery_reads {inner : Expr} (hinner : inner.Reads) (width : Duration)
    (step : Option Duration) : (Expr.subquery inner width step).Reads := by
  have hpostfixed : ∀ rest, Follows rest →
      readPostfixed ((Expr.subquery inner width step).tokens ++ rest) =
        readPostfix (Expr.subquery inner width step).readBack rest := by
    intro rest _
    have hwindow : Follows (.window (subqueryWindow width step) :: rest) := by
      intro tok htok
      cases htok
      exact Or.inr rfl
    simp only [Expr.tokens, List.append_assoc, List.singleton_append, Expr.readBack]
    rw [readPostfixed_bracketTokens hinner (by decide) hwindow, readPostfix_window,
      applyWindow_subquery, Option.bind_some]
  obtain ⟨tok, more, htok, hleads, hminus⟩ :=
    lead_bracketTokens_of_modifier hinner (r := .atom) (by decide)
  have hshape : (Expr.subquery inner width step).tokens =
      tok :: (more ++ [.window (subqueryWindow width step)]) := by
    simp [Expr.tokens, htok]
  exact .of_postfixed hshape hleads hminus (fun h => by simp [Expr.isPrimary] at h) hpostfixed

theorem Modifier.follows_tokens (m : Modifier) (rest : List Token) :
    Follows (m.tokens ++ rest) := by
  intro tok htok
  right
  cases m <;> simp only [Modifier.tokens, List.cons_append, List.head?_cons, Option.mem_def,
    Option.some.injEq] at htok <;> subst htok
  · cbv
  · rfl
  · rfl

theorem derived_reads {inner : Expr} {m : Modifier} (hinner : inner.Reads) (hm : m.Reads) :
    (Expr.derived inner m).Reads := by
  have hpostfixed : ∀ rest, Follows rest → readPostfixed ((Expr.derived inner m).tokens ++ rest) =
      readPostfix (Expr.derived inner m).readBack rest := by
    intro rest hrest
    simp only [Expr.tokens, List.append_assoc, Expr.readBack]
    rw [readPostfixed_bracketTokens hinner (le_refl _) (m.follows_tokens rest), hm _ rest hrest]
  obtain ⟨tok, more, htok, hleads, hminus⟩ :=
    lead_bracketTokens_of_modifier hinner (r := .modifier) (le_refl _)
  have hshape : (Expr.derived inner m).tokens = tok :: (more ++ m.tokens) := by
    simp [Expr.tokens, htok]
  exact .of_postfixed hshape hleads hminus (fun h => by simp [Expr.isPrimary] at h) hpostfixed

theorem call_reads {name : String} {args : List Arg} {returns : ValueKind}
    (hknown : CallKnown name returns) (hargs : Arg.ReadsList args) :
    (Expr.call name args returns).Reads := by
  obtain ⟨spec, hspec, hfamily, hreturns⟩ := hknown
  obtain ⟨hkeyword, hnumber⟩ := names_of_lookupFunction hspec
  have hprimary : ∀ rest, readPrimary ((Expr.call name args returns).tokens ++ rest) =
      some ((Expr.call name args returns).readBack, rest) := by
    intro rest
    simp only [Expr.tokens, List.cons_append, Expr.readBack]
    rw [readPrimary_word_call hnumber hkeyword, readCall_call (hargs rest).1 hspec hfamily,
      hreturns]
  exact .of_primary rfl (leads_of_not_keyword hkeyword) (fun h => by cases h)
    (fun rest _ => hprimary rest)

theorem aggregate_reads {name : String} {args : List Arg} (hknown : AggregateKnown name)
    (hargs : Arg.ReadsList args) (grouping : Option Grouping) :
    (Expr.aggregate name args grouping).Reads := by
  obtain ⟨spec, hspec, hfamily⟩ := hknown
  obtain ⟨hkeyword, hnumber⟩ := names_of_lookupFunction hspec
  have hprimary : ∀ rest, Follows rest →
      readPrimary ((Expr.aggregate name args grouping).tokens ++ rest) =
        some ((Expr.aggregate name args grouping).readBack, rest) := by
    intro rest hrest
    simp only [Expr.tokens, List.cons_append, List.append_assoc, Expr.readBack]
    rw [readPrimary_word_call hnumber hkeyword, readCall_aggregate (hargs _).1 hspec hfamily
      (readGrouping_groupingTokens grouping hrest)]
  exact .of_primary rfl (leads_of_not_keyword hkeyword) (fun h => by cases h) hprimary

/-- A binary operation: the left operand stops before the operator, `climb` takes the operator
and its clauses, and the right operand, read at the operator's right level, stops before what
ends the whole operation. -/
theorem binary_expr {op : BinOp} {lhs rhs : Expr} (hlhs : lhs.Reads) (hrhs : rhs.Reads)
    (flag : Bool) (matching : Option Matching) {level : Nat} {rest : List Token}
    (hlevel : level ≤ op.precedence.rank) (hrest : Ends op.rhsLevel rest) :
    readExpr level ((Expr.binary op lhs rhs flag matching).tokens ++ rest) =
      climb level (Expr.binary op lhs rhs flag matching).readBack rest := by
  obtain ⟨tok, more, htok, hleads, -⟩ :=
    lead_bracketTokens hrhs (needsBrackets .minimal rhs op.precedence (!op.rightAssociative))
  have hright : readExpr op.rhsLevel (tok :: more ++ rest) = some (rhs.readBack, rest) := by
    rw [← htok, readExpr_bracketTokens hrhs hrest rhs_open, climb_of_ends hrest]
  have hnext : ∀ t ∈ (tok :: more ++ rest).head?, t.leads = true := by
    intro t ht
    cases ht
    exact hleads
  have hleft := readExpr_bracketTokens hlhs
    (ends_operatorTokens op flag matching (tok :: more ++ rest)) (lhs_open hlevel)
  simp only [Expr.tokens, List.append_assoc, Expr.readBack, htok]
  rw [hleft, operatorTokens, List.cons_append, List.append_assoc]
  apply climb_operator (binOp_opToken op) hlevel _ (readBool_operator flag matching hnext)
    (readMatching_matchingTokens matching hnext) hright
  simp only [List.length_append, List.length_cons]
  omega

theorem binary_reads {op : BinOp} {lhs rhs : Expr} (hlhs : lhs.Reads) (hrhs : rhs.Reads)
    (flag : Bool) (matching : Option Matching) : (Expr.binary op lhs rhs flag matching).Reads := by
  have hlow : op.precedence.rank < Precedence.modifier.rank := by
    have := BinOp.rank_le_power op
    simp only [Precedence.rank] at this ⊢
    omega
  obtain ⟨tok, more, htok, hleads, -⟩ :=
    lead_bracketTokens hlhs (needsBrackets .minimal lhs op.precedence op.rightAssociative)
  have hshape : (Expr.binary op lhs rhs flag matching).tokens = tok :: (more ++
      (operatorTokens op flag matching ++
        bracketTokens (needsBrackets .minimal rhs op.precedence (!op.rightAssociative))
          rhs.tokens)) := by
    simp [Expr.tokens, htok]
  refine ⟨⟨tok, _, hshape, hleads, fun _ => hlow⟩, ?_, ?_, ?_⟩
  · intro h
    simp [Expr.isPrimary] at h
  · intro h
    exact absurd h (Nat.not_le.mpr hlow)
  · intro _ _ hlevel hrest
    exact binary_expr hlhs hrhs flag matching hlevel hrest

theorem offset_reads (shift : Duration) : (Modifier.offset shift).Reads := by
  intro e rest _
  simp only [Modifier.tokens, List.cons_append, Modifier.readBack]
  exact readPostfix_offset e (readOffset_durationTokens shift rest)

theorem atTime_reads (seconds : Binary64) : (Modifier.atTime seconds).Reads := by
  intro e rest _
  simp only [Modifier.tokens, List.cons_append, Modifier.readBack]
  exact readPostfix_at_number e (readSignedNumber_numberTokens seconds rest)

theorem Modifier.readBack_atExpr {target : Expr} (h : ∀ v, target ≠ .literal v) :
    (Modifier.atExpr target).readBack = .atExpr target.readBack := by
  cases target with
  | literal v => exact absurd rfl (h v)
  | _ => rfl

/-- The time after `@` of an unbracketed call or selector, named by a word that is no number. -/
theorem readPostfix_at_word {target : Expr} (e : Expr) {w : String} {more : List Token}
    (hb : needsBrackets .minimal target .atom false = false)
    (htokens : target.tokens = .word w :: more) (hnumber : numberWord? w = none)
    (hnot : ∀ v, target ≠ .literal v) {rest : List Token}
    (hprimary : readPrimary (target.tokens ++ rest) = some (target.readBack, rest)) :
    readPostfix e ((Modifier.atExpr target).tokens ++ rest) =
      readPostfix (.derived e (Modifier.atExpr target).readBack) rest := by
  rw [Modifier.readBack_atExpr hnot]
  simp only [Modifier.tokens, hb, List.cons_append]
  rw [show bracketTokens false target.tokens = target.tokens from rfl]
  apply readPostfix_at_primary e _ hprimary (length_lt_of_cons htokens rest)
  rw [htokens, List.cons_append]
  exact readSignedNumber_word hnumber _

/-- The time of `@`: a number without brackets is read as seconds, anything else as the
expression, in brackets or read whole as a primary. -/
theorem atExpr_reads {target : Expr} (htarget : target.Reads) (hreadable : target.Readable)
    (hkind : target.kind ≠ .range) : (Modifier.atExpr target).Reads := by
  intro e rest hrest
  cases hb : needsBrackets .minimal target .atom false with
  | true =>
    -- in brackets: no number, and the bracket read as a primary
    have hnumber : readSignedNumber (bracketTokens true target.tokens ++ rest) = none := by
      rw [bracketTokens_true, List.cons_append, readSignedNumber]
      · rfl
      · intro _ _ heq _
        cases heq
    simp only [Modifier.tokens, hb, List.cons_append]
    rw [readPostfix_at_primary e hnumber (readPrimary_bracketed htarget rest)
      (length_lt_of_cons (bracketTokens_true target.tokens) rest)]
    cases target with
    | literal v =>
      -- only a number with a `-` is bracketed here, and it reads as itself
      have hsign : (v.isNegative && !v.isNaN) = true := by
        cases hs : (v.isNegative && !v.isNaN)
        · simp [needsBrackets, Expr.bindingIn_minimal, Expr.precedence, hs] at hb
        · rfl
      obtain ⟨-, hnan, -⟩ := numberTokens_of_unary hsign
      simp [Modifier.readBack, hsign, Expr.readBack, Binary64.readBack_of_not_isNaN hnan]
    | _ => rw [Modifier.readBack_atExpr (fun v h => by cases h)]
  | false =>
    -- without brackets the target binds as an atom: a number, or a primary named by a word
    have hatom := (needsBrackets_eq_false hb).1
    cases target with
    | literal v =>
      have hsign : (v.isNegative && !v.isNaN) = false := by
        cases hs : (v.isNegative && !v.isNaN)
        · rfl
        · simp [Expr.precedence, hs, Precedence.rank] at hatom
      simp only [Modifier.tokens, hb, List.cons_append]
      rw [show bracketTokens false (Expr.literal v).tokens = numberTokens v from rfl,
        readPostfix_at_number e (readSignedNumber_numberTokens v rest)]
      simp [Modifier.readBack, hsign]
    | selector sel =>
      exact readPostfix_at_word e hb rfl
        (numberWord_of_not_keyword (show isKeyword sel.name = false from hreadable))
        (fun v h => by cases h) (htarget.primary rfl rest hrest)
    | call name args returns =>
      obtain ⟨spec, hspec, -⟩ := hreadable.1
      exact readPostfix_at_word e hb rfl (names_of_lookupFunction hspec).2
        (fun v h => by cases h) (htarget.primary rfl rest hrest)
    | aggregate name args grouping =>
      obtain ⟨spec, hspec, -⟩ := hreadable.1
      exact readPostfix_at_word e hb rfl (names_of_lookupFunction hspec).2
        (fun v h => by cases h) (htarget.primary rfl rest hrest)
    | range sel width => exact absurd rfl hkind
    | subquery inner width step => exact absurd rfl hkind
    | derived inner m => simp [Expr.precedence, Precedence.rank] at hatom
    | binary op lhs rhs flag matching =>
      have := BinOp.rank_le_power op
      simp only [Expr.precedence, Precedence.rank] at hatom this
      omega

theorem ends_of_separator {rest : List Token}
    (h : ∀ tok ∈ rest.head?, tok = .mark .comma ∨ tok = .mark .closeParen) (bound : Nat) :
    Ends bound rest := by
  intro tok htok
  rcases h tok htok with rfl | rfl <;> exact ⟨rfl, fun op hop => by cases hop⟩

theorem text_arg_reads (s : String) : (Arg.text s).Reads := by
  refine ⟨⟨.str s, [], rfl, fun h => by cases h⟩, ?_⟩
  intro rest _
  simp only [Arg.tokens, List.singleton_append, Arg.readBack]
  rw [readArg]

theorem expr_arg_reads {e : Expr} (he : e.Reads) : (Arg.expr e).Reads := by
  have htokens : (Arg.expr e).tokens = e.tokens := by
    simp [Arg.tokens, needsBrackets_or, bracketTokens]
  obtain ⟨tok, more, htok, hleads, -⟩ := he.lead
  refine ⟨⟨tok, more, by rw [htokens, htok], fun h => by subst h; cases hleads⟩, ?_⟩
  intro rest hrest
  rw [htokens, readArg]
  · rw [he.expr 0 rest (Nat.zero_le _) (ends_of_separator hrest _),
      climb_of_ends (ends_of_separator hrest 0)]
    rfl
  · intro s r heq
    rw [htok, List.cons_append] at heq
    have := (List.cons.inj heq).1
    subst this
    cases hleads

theorem readsList_nil : Arg.ReadsList [] := by
  intro rest
  refine ⟨?_, fun h => absurd rfl h⟩
  simp only [Arg.listTokens, List.singleton_append, Arg.readBackList]
  rw [readArgs]

theorem readsList_cons {a : Arg} {more : List Arg} (ha : a.Reads) (hmore : Arg.ReadsList more) :
    Arg.ReadsList (a :: more) := by
  intro rest
  have hlist : readArgList (Arg.listTokens (a :: more) ++ rest) =
      some (Arg.readBackList (a :: more), rest) := by
    rcases more with _ | ⟨b, more'⟩
    · -- the last argument, then `)`
      simp only [Arg.listTokens, List.append_assoc, List.singleton_append, Arg.readBackList]
      rw [readArgList, ha.arg _ (fun tok htok => by cases htok; exact Or.inr rfl)]
    · simp only [Arg.listTokens, List.append_assoc, List.cons_append, Arg.readBackList]
      rw [readArgList, ha.arg _ (fun tok htok => by cases htok; exact Or.inl rfl)]
      have hlen : (Arg.listTokens (b :: more') ++ rest).length <
          (a.tokens ++ .mark .comma :: (Arg.listTokens (b :: more') ++ rest)).length := by
        simp only [List.length_append, List.length_cons]
        omega
      simp only [hlen, if_true, (hmore rest).2 (List.cons_ne_nil _ _), Option.map_some,
        Arg.readBackList]
  refine ⟨?_, fun _ => hlist⟩
  obtain ⟨tok, toks, htok, hne⟩ := ha.lead
  rw [readArgs]
  · exact hlist
  · intro r heq
    rcases more with _ | ⟨b, more'⟩ <;>
      simp only [Arg.listTokens, List.append_assoc, htok, List.cons_append,
        List.cons.injEq] at heq <;>
      exact hne heq.1

/-! ### The whole tree -/

mutual

theorem Expr.reads : (x : Expr) → x.Readable → x.Reads
  | .literal v, _ => literal_reads v
  | .selector _, h => selector_reads h
  | .derived inner m, ⟨hinner, hm⟩ => derived_reads (inner.reads hinner) (m.reads hm)
  | .range _ width, h => range_reads h width
  | .subquery inner width step, h => subquery_reads (inner.reads h) width step
  | .call _ args _, ⟨hknown, hargs⟩ => call_reads hknown (Arg.readsList args hargs)
  | .binary _ lhs rhs flag matching, ⟨hlhs, hrhs⟩ =>
    binary_reads (lhs.reads hlhs) (rhs.reads hrhs) flag matching
  | .aggregate _ args grouping, ⟨hknown, hargs⟩ =>
    aggregate_reads hknown (Arg.readsList args hargs) grouping

theorem Modifier.reads : (m : Modifier) → m.Readable → m.Reads
  | .offset shift, _ => offset_reads shift
  | .atTime seconds, _ => atTime_reads seconds
  | .atExpr target, ⟨htarget, hkind⟩ => atExpr_reads (target.reads htarget) htarget hkind

theorem Arg.readsList : (args : List Arg) → Arg.ListReadable args → Arg.ReadsList args
  | [], _ => readsList_nil
  | a :: more, ⟨ha, hmore⟩ => readsList_cons (a.reads ha) (Arg.readsList more hmore)

theorem Arg.reads : (a : Arg) → a.Readable → a.Reads
  | .expr e, h => expr_arg_reads (e.reads h)
  | .text s, _ => text_arg_reads s

end

/-- The units of an expression whose names the reader takes as written are read, all of them,
as the expression read back. -/
theorem readExpr_tokens {x : Expr} (h : x.Readable) :
    readExpr 0 x.tokens = some (x.readBack, []) := by
  have hread := (x.reads h).expr 0 [] (Nat.zero_le _) (ends_nil _)
  rw [List.append_nil] at hread
  rw [hread, climb_nil]

end PromRules.Query
