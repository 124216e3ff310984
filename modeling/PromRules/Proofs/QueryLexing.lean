import PromRules.Proofs.NumberReading
import PromRules.Proofs.QueryText

/-!
Cutting query text into units.

The lexer cuts the query text of a built expression into exactly the units of `Expr.tokens`
(`lex_renderIn_minimal`). The statement that carries the proof is `Lexes stop cs ts`: the text
`cs` is cut into `ts` whatever text follows it, as long as that text is empty or starts with a
character `stop` allows. A name must not be followed by a character of names, a number or a
duration not by a character of runs, and `=`, `<` and `>` not by `=`; every other unit ends by
itself. Two such texts join when the second starts where the first may stop (`Lexes.append`),
and a blank between them is dropped (`Lexes.space`). Each unit's text lexes as the unit, and one
recursion over the tree joins them node by node (`Expr.lexes`): the text of every expression
lexes as its units before a blank, a closing bracket, a comma or a window.
-/

namespace PromRules.Query

open Text

/-! ### The lexer, one unit at a time -/

theorem lex_eq (cs : List Char) : lex cs = match nextToken (dropBlank cs) with
    | some (tok, rest) => (lex rest).map (tok :: ·)
    | none => if (dropBlank cs).isEmpty then some [] else none := by
  rw [lex]
  split <;> next heq => simp only [heq]

theorem lex_nil : lex [] = some [] := by
  rw [lex_eq]
  rfl

theorem lex_blank {c : Char} (hc : isBlank c = true) (cs : List Char) : lex (c :: cs) = lex cs := by
  rw [lex_eq, lex_eq cs, dropBlank, List.dropWhile_cons_of_pos hc]
  rfl

theorem lex_of_nextToken {c : Char} {cs rest : List Char} {tok : Token} (hc : isBlank c = false)
    (h : nextToken (c :: cs) = some (tok, rest)) : lex (c :: cs) = (lex rest).map (tok :: ·) := by
  rw [lex_eq, dropBlank, List.dropWhile_cons_of_neg (by simp [hc]), h]

/-- The text `cs` is cut into the units `ts` whatever follows it, as long as what follows is
empty or starts with a character that `stop` allows. -/
def Lexes (stop : Char → Prop) (cs : List Char) (ts : List Token) : Prop :=
  ∀ rest : List Char, (∀ c ∈ rest.head?, stop c) → lex (cs ++ rest) = (lex rest).map (ts ++ ·)

namespace Lexes

variable {stop stop' : Char → Prop} {cs cs' : List Char} {ts ts' : List Token}

/-- The whole text is cut into the units. -/
theorem lex_eq (h : Lexes stop cs ts) : lex cs = some ts := by
  have := h [] (by simp)
  rw [List.append_nil, lex_nil] at this
  simpa using this

theorem mono (h : Lexes stop cs ts) (hstop : ∀ c, stop' c → stop c) : Lexes stop' cs ts :=
  fun rest hrest => h rest fun c hc => hstop c (hrest c hc)

/-- Two texts that lex join when the second starts where the first may stop. -/
theorem append (h : Lexes stop cs ts) (h' : Lexes stop' cs' ts') (hne : cs' ≠ [])
    (hhead : ∀ c ∈ cs'.head?, stop c) : Lexes stop' (cs ++ cs') (ts ++ ts') := by
  intro rest hrest
  have hfirst : ∀ c ∈ (cs' ++ rest).head?, stop c := by
    rwa [List.head?_append_of_ne_nil _ hne]
  rw [List.append_assoc, h (cs' ++ rest) hfirst, h' rest hrest, Option.map_map]
  congr 1
  funext us
  simp

/-- A text that lexes, then one that starts with a character where the first may stop. -/
theorem append_cons {c : Char} (h : Lexes stop cs ts) (h' : Lexes stop' (c :: cs') ts')
    (hc : stop c) : Lexes stop' (cs ++ c :: cs') (ts ++ ts') :=
  h.append h' (List.cons_ne_nil _ _) fun x hx => by
    simp only [List.head?_cons, Option.mem_def, Option.some.injEq] at hx
    exact hx ▸ hc

/-- A blank in front is dropped. -/
theorem space (h : Lexes stop cs ts) : Lexes stop (' ' :: cs) ts := by
  intro rest hrest
  rw [List.cons_append, lex_blank isBlank_space, h rest hrest]

/-- A text of one unit, which the lexer takes whole before any text that `stop` allows. -/
theorem single {c : Char} {tok : Token} (hc : isBlank c = false)
    (h : ∀ rest, (∀ x ∈ rest.head?, stop x) → nextToken (c :: (cs ++ rest)) = some (tok, rest)) :
    Lexes stop (c :: cs) [tok] := by
  intro rest hrest
  rw [List.cons_append, lex_of_nextToken hc (h rest hrest)]
  rfl

end Lexes

/-! ### Each kind of unit -/

theorem isNameChar_of_isNameStart {c : Char} (h : isNameStart c = true) : isNameChar c = true := by
  simp only [isNameStart, isWordStart, isNameChar, isWordChar, Char.isAlphanum, Bool.or_eq_true] at h ⊢
  rcases h with (h | h) | h <;> simp [h]

theorem isBlank_of_isNameChar {c : Char} (h : isNameChar c = true) : isBlank c = false :=
  (plain_of_nameChar (by simpa [isNameChar] using h)).1

theorem isNameStart_of_isDigit {c : Char} (h : c.isDigit = true) : isNameStart c = false := by
  have hrange := Char.isDigit_iff_toNat.mp h
  have hlow : 48 ≤ c.toNat := hrange.1
  have hhigh : c.toNat ≤ 57 := hrange.2
  have hne : ∀ d : Char, 58 ≤ d.toNat → c ≠ d := by
    rintro d hd rfl
    omega
  simp only [isNameStart, isWordStart, Char.isAlpha, Char.isUpper, Char.isLower, Bool.or_eq_false_iff,
    Bool.and_eq_false_iff, decide_eq_false_iff_not, beq_eq_false_iff_ne, UInt32.le_iff_toNat_le,
    Char.toNat_val]
  refine ⟨⟨⟨?_, ?_⟩, hne '_' (by decide)⟩, hne ':' (by decide)⟩ <;> simp only [Char.reduceToNat] <;> omega

/-- The text of a name lexes as one word, before anything that is no character of names. -/
theorem Lexes.name {c : Char} {cs : List Char} (hc : isNameStart c = true)
    (hcs : ∀ x ∈ cs, isNameChar x = true) :
    Lexes (fun x => isNameChar x = false) (c :: cs) [.word (String.ofList (c :: cs))] := by
  have hquote : (c == '"') = false :=
    beq_false_of_ne (ne_of_apply_ne isNameStart (by rw [hc]; decide))
  have hbracket : (c == '[') = false :=
    beq_false_of_ne (ne_of_apply_ne isNameStart (by rw [hc]; decide))
  refine Lexes.single (isBlank_of_isNameChar (isNameChar_of_isNameStart hc)) fun rest hrest => ?_
  simp only [nextToken, hquote, hbracket, hc, Bool.false_eq_true, if_false, if_true,
    takeWhile_append_of_head hcs hrest, dropWhile_append_of_head hcs hrest]

/-- A run of a digit, then digits, letters and points, lexes as one unit before anything that
cannot continue it: the decimal it reads as, or else a duration text. -/
theorem Lexes.run {c : Char} {cs : List Char} (hc : c.isDigit = true)
    (hcs : ∀ x ∈ cs, isRunChar x = true) :
    Lexes (fun x => isRunChar x = false) (c :: cs)
      [match readDecimal (c :: cs) with
        | some v => .number v
        | none => .duration (c :: cs)] := by
  have hquote : (c == '"') = false :=
    beq_false_of_ne (ne_of_apply_ne Char.isDigit (by rw [hc]; decide))
  have hbracket : (c == '[') = false :=
    beq_false_of_ne (ne_of_apply_ne Char.isDigit (by rw [hc]; decide))
  refine Lexes.single (Duration.not_isBlank_of_isDigit hc) fun rest hrest => ?_
  -- the reader's value decides the unit, in the lexer and in the statement alike
  cases hread : readDecimal (c :: cs) <;>
    simp only [nextToken, hquote, hbracket, isNameStart_of_isDigit hc, hc, Bool.false_eq_true,
      if_false, if_true, takeWhile_append_of_head hcs hrest, dropWhile_append_of_head hcs hrest,
      hread]

theorem readString_escapeChars (s rest : List Char) :
    readString (escapeChars s ++ '"' :: rest) = some (s, rest) := by
  induction s with
  | nil => rfl
  | cons c s ih =>
    unfold escapeChars
    by_cases hslash : c = '\\'
    · subst hslash
      simp [readString, ih]
    · by_cases hquote : c = '"'
      · subst hquote
        simp [readString, ih]
      · simp only [beq_iff_eq, hslash, hquote, if_false, List.cons_append]
        rw [readString.eq_def]
        split
        · next heq => cases heq
        · next heq => exact absurd (List.cons.inj heq).1 hquote
        · next heq => exact absurd (List.cons.inj heq).1 hslash
        · next heq =>
          obtain ⟨rfl, rfl⟩ := List.cons.inj heq
          simp [ih]

/-- A string literal lexes as its value, before anything. -/
theorem Lexes.str (v : String) : Lexes (fun _ => True) (quote v).toList [.str v] := by
  rw [quote_toList]
  refine Lexes.single (by decide) fun rest _ => ?_
  rw [List.append_assoc, List.singleton_append]
  simp [nextToken, readString_escapeChars]

/-- A window lexes as its body, before anything. -/
theorem Lexes.window {body : List Char} (hbody : ∀ c ∈ body, c ≠ ']') :
    Lexes (fun _ => True) ('[' :: (body ++ [']'])) [.window body] := by
  have hinside : ∀ c ∈ body, (c != ']') = true := fun c hc => bne_iff_ne.mpr (hbody c hc)
  have hend : ∀ c ∈ (']' :: ([] : List Char)).head?, (c != ']') = false := by simp
  refine Lexes.single (by decide) fun rest _ => ?_
  have hclose : ∀ c ∈ (']' :: rest).head?, (c != ']') = false := by simp
  rw [List.append_assoc, List.singleton_append]
  simp [nextToken, readWindow, takeWhile_append_of_head hinside hclose,
    dropWhile_append_of_head hinside hclose]

section Marks

variable {c : Char} (hplain : (isBlank c || c == '"' || c == '[' || isNameStart c || c.isDigit) = false)
include hplain

/-- A character that is no blank and opens no string, window, name or run is read as a mark. -/
theorem nextToken_mark (cs : List Char) : nextToken (c :: cs) = readMark c cs := by
  simp only [Bool.or_eq_false_iff] at hplain
  obtain ⟨⟨⟨⟨-, hquote⟩, hbracket⟩, hname⟩, hdigit⟩ := hplain
  simp [nextToken, hquote, hbracket, hname, hdigit]

theorem isBlank_of_mark : isBlank c = false := by
  simp only [Bool.or_eq_false_iff] at hplain
  exact hplain.1.1.1.1

/-- A mark of one character, which no `=` after it could lengthen. -/
theorem Lexes.mark {tok : Token} (hmark : singleMark c = some tok) (hpair : pairMark c = none) :
    Lexes (fun _ => True) [c] [tok] := by
  refine Lexes.single (isBlank_of_mark hplain) fun rest _ => ?_
  simp [nextToken_mark hplain, readMark, hmark, hpair]

/-- A mark of one character that a following `=` would turn into a comparison. -/
theorem Lexes.markBeforeEquals {tok : Token} (hmark : singleMark c = some tok) :
    Lexes (fun x => x ≠ '=') [c] [tok] := by
  refine Lexes.single (isBlank_of_mark hplain) fun rest hrest => ?_
  rw [List.nil_append, nextToken_mark hplain, readMark]
  cases rest with
  | nil => simp [hmark]
  | cons x rest =>
    have hx : x ≠ '=' := hrest x rfl
    cases hp : pairMark c <;> simp [hmark, hx]

/-- A comparison written with two characters. -/
theorem Lexes.pair {tok : Token} (hpair : pairMark c = some tok) :
    Lexes (fun _ => True) [c, '='] [tok] := by
  refine Lexes.single (isBlank_of_mark hplain) fun rest _ => ?_
  simp [nextToken_mark hplain, readMark, hpair]

end Marks

/-! ### Names, numbers and durations -/

/-- What may follow the text of an expression: a character that continues neither a name nor a
run. -/
def Breaks (c : Char) : Prop := isNameChar c = false ∧ isRunChar c = false

theorem breaks_of_word {c : Char} (h : Breaks c) : isNameChar c = false := h.1

theorem breaks_of_run {c : Char} (h : Breaks c) : isRunChar c = false := h.2

/-- A metric name, and so also a label name or a keyword, lexes as one word. -/
theorem Lexes.metricName {s : String} (h : isMetricName s = true) :
    Lexes (fun x => isNameChar x = false) s.toList [.word s] := by
  unfold isMetricName at h
  cases hs : s.toList with
  | nil => simp [hs] at h
  | cons c cs =>
    simp only [hs, Bool.and_eq_true, List.all_eq_true] at h
    have hword : String.ofList (c :: cs) = s := by rw [← hs, String.ofList_toList]
    have hname : Lexes (fun x => isNameChar x = false) (c :: cs) [.word (String.ofList (c :: cs))] :=
      Lexes.name h.1 h.2
    rwa [hword] at hname

theorem Lexes.labelName {s : String} (h : isLabelName s = true) :
    Lexes (fun x => isNameChar x = false) s.toList [.word s] :=
  Lexes.metricName (isMetricName_of_isLabelName s h)

/-- The text of a number's magnitude lexes as the unit of the magnitude. -/
theorem Lexes.magnitude {v : Binary64} (hnan : v.isNaN = false) :
    Lexes Breaks (numberText v.abs).toList [magnitudeToken v] := by
  cases hclass : v.classify with
  | nan => simp [Binary64.isNaN, hclass] at hnan
  | infinite =>
    have hinf : v.isInfinite = true := by simp [Binary64.isInfinite, hclass]
    have htext : numberText (Binary64.infinity false) = "Inf" := by decide
    rw [Binary64.abs_of_infinite hclass, htext, magnitudeToken, if_pos hinf]
    exact (Lexes.metricName (by decide)).mono fun _ h => breaks_of_word h
  | finite m e =>
    have hinf : v.isInfinite = false := by simp [Binary64.isInfinite, hclass]
    have habs : v.abs.classify = .finite m e := by rw [Binary64.classify_abs, hclass]
    obtain ⟨c, cs, htext, hc, hcs, hread⟩ := numberText_reads (Binary64.isNegative_abs v) habs
    have hrun := Lexes.run hc hcs
    rw [hread] at hrun
    rw [htext, magnitudeToken, if_neg (by simp [hinf])]
    exact hrun.mono fun _ h => breaks_of_run h

/-- The text of a number lexes as its units: `NaN`, or its magnitude after a `-` when its sign
bit is set. -/
theorem Lexes.number (v : Binary64) : Lexes Breaks (numberText v).toList (numberTokens v) := by
  cases hnan : v.isNaN with
  | true =>
    have hclass : v.classify = .nan := by simpa [Binary64.isNaN] using hnan
    have htext : numberText v = "NaN" := by simp [numberText, hclass]
    rw [htext, numberTokens, if_pos hnan]
    exact (Lexes.metricName (by decide)).mono fun _ h => breaks_of_word h
  | false =>
    cases hneg : v.isNegative with
    | true =>
      have hminus : Lexes (fun _ => True) ['-'] [.op .sub] := Lexes.mark (by decide) rfl rfl
      rw [numberText_of_isNegative hneg hnan, String.toList_append, numberTokens,
        if_neg (by simp [hnan]), if_pos hneg]
      exact hminus.append (Lexes.magnitude hnan) (numberText_ne_nil _) (fun _ _ => trivial)
    | false =>
      have hmagnitude := Lexes.magnitude hnan
      rw [Binary64.abs_of_not_isNegative hneg] at hmagnitude
      rwa [numberTokens, if_neg (by simp [hnan]), if_neg (by simp [hneg])]

theorem isUnit_chars {suffix : String} (h : Duration.IsUnit suffix) :
    ∃ c t, suffix.toList = c :: t ∧ (c.isDigit || c == '.') = false ∧ (c :: t).all isRunChar = true := by
  simp only [Duration.IsUnit, Duration.writtenUnits, List.map_cons, List.map_nil, List.mem_cons,
    List.not_mem_nil, or_false] at h
  rcases h with rfl | rfl | rfl | rfl | rfl | rfl <;> exact ⟨_, _, rfl, by decide, by decide⟩

/-- Digits followed by a unit are no decimal. -/
theorem readDecimal_digits_unit {ds rest : List Char} {c : Char} (hds : ∀ x ∈ ds, x.isDigit = true)
    (hc : (c.isDigit || c == '.') = false) : readDecimal (ds ++ c :: rest) = none := by
  simp only [Bool.or_eq_false_iff, beq_eq_false_iff_ne] at hc
  have hstop : ∀ x ∈ (c :: rest).head?, x.isDigit = false := by simpa using hc.1
  unfold readDecimal
  rw [dropWhile_append_of_head hds hstop]
  split
  · next heq => cases heq
  · next frac heq => exact absurd (List.cons.inj heq).1 hc.2
  · rfl

/-- Every character of a written group continues a run. -/
theorem groupChars_run {n : Nat} {g : Nat × String} (hg : g ∈ Duration.components Duration.writtenUnits n) :
    ∀ x ∈ Duration.groupChars g, isRunChar x = true := by
  obtain ⟨u, t, hu, -, hall⟩ := isUnit_chars (Duration.isUnit_of_mem_components hg)
  intro x hx
  rcases List.mem_append.mp hx with hx | hx
  · simp [isRunChar, Char.isAlphanum, Duration.isDigit_of_mem_toDigits hx]
  · rw [hu] at hx
    exact List.all_eq_true.mp hall x hx

theorem componentsChars_run (n : Nat) :
    ∀ x ∈ (Duration.components Duration.writtenUnits n).flatMap Duration.groupChars,
      isRunChar x = true := by
  intro x hx
  obtain ⟨g, hg, hx'⟩ := List.mem_flatMap.mp hx
  exact groupChars_run hg x hx'

/-- The text of a duration is a `-` for a negative one, then a run of the lexer that is no
decimal: digits come first and a unit follows them. -/
theorem render_run (d : Duration) :
    ∃ c cs, d.render.toList = (if d.millis < 0 then ['-'] else []) ++ c :: cs ∧ c.isDigit = true ∧
      (∀ x ∈ cs, isRunChar x = true) ∧ readDecimal (c :: cs) = none := by
  by_cases h0 : d.millis = 0
  · refine ⟨'0', ['m', 's'], ?_, rfl, List.all_eq_true.mp (by decide), by decide⟩
    rw [Duration.render_zero h0, if_neg (by omega)]
    rfl
  · obtain ⟨g, gs, hgs⟩ := List.exists_cons_of_ne_nil
      (Duration.components_ne_nil (Int.natAbs_pos.mpr h0))
    obtain ⟨c, ds, hds⟩ := List.exists_cons_of_ne_nil (Nat.toDigits_ne_nil (n := g.1) (b := 10))
    have hg : g ∈ Duration.components Duration.writtenUnits d.millis.natAbs := by
      rw [hgs]
      exact List.mem_cons_self
    obtain ⟨u, t, hu, hunit, -⟩ := isUnit_chars (Duration.isUnit_of_mem_components hg)
    have hdigits : ∀ x ∈ c :: ds, x.isDigit = true := by
      rw [← hds]
      exact fun x hx => Duration.isDigit_of_mem_toDigits hx
    refine ⟨c, ds ++ u :: (t ++ gs.flatMap Duration.groupChars), ?_, hdigits c List.mem_cons_self,
      ?_, ?_⟩
    · rw [Duration.toList_render_of_ne_zero d h0, hgs, List.flatMap_cons, Duration.groupChars, hds, hu]
      simp
    · intro x hx
      have hall := componentsChars_run d.millis.natAbs
      rw [hgs, List.flatMap_cons, Duration.groupChars, hds, hu] at hall
      exact hall x (by simp [hx])
    · have hsplit : c :: (ds ++ u :: (t ++ gs.flatMap Duration.groupChars)) =
          (c :: ds) ++ u :: (t ++ gs.flatMap Duration.groupChars) := rfl
      rw [hsplit]
      exact readDecimal_digits_unit hdigits hunit

/-- The text of a duration lexes as its units: a duration text, after a `-` for a negative one. -/
theorem Lexes.duration (d : Duration) : Lexes Breaks d.render.toList (durationTokens d) := by
  obtain ⟨c, cs, htext, hc, hcs, hread⟩ := render_run d
  have hrun := Lexes.run hc hcs
  rw [hread] at hrun
  have hbody := hrun.mono fun _ h => breaks_of_run h
  unfold durationTokens
  rw [htext]
  split_ifs
  · show Lexes Breaks (['-'] ++ c :: cs) ([.op .sub] ++ [.duration (c :: cs)])
    exact (Lexes.mark (by decide) rfl rfl).append hbody (List.cons_ne_nil _ _) fun _ _ => trivial
  · rw [List.nil_append]
    split
    · next body heq =>
      obtain ⟨rfl, -⟩ := List.cons.inj heq
      exact absurd hc (by decide)
    · exact hbody

/-- The text of a duration has no `]`, so it can stand in a window. -/
theorem render_ne_close (d : Duration) : ∀ c ∈ d.render.toList, c ≠ ']' := by
  intro c hc
  rintro rfl
  rcases Duration.render_chars d ']' hc with h | h <;> revert h <;> decide

/-! ### Pieces of the printed text -/

theorem Lexes.openParen : Lexes (fun _ => True) ['('] [.mark .openParen] := Lexes.mark (by decide) rfl rfl

theorem Lexes.closeParen : Lexes (fun _ => True) [')'] [.mark .closeParen] :=
  Lexes.mark (by decide) rfl rfl

theorem Lexes.openBrace : Lexes (fun _ => True) ['\x7b'] [.mark .openBrace] :=
  Lexes.mark (by decide) rfl rfl

theorem Lexes.closeBrace : Lexes (fun _ => True) ['\x7d'] [.mark .closeBrace] :=
  Lexes.mark (by decide) rfl rfl

theorem Lexes.comma : Lexes (fun _ => True) [','] [.mark .comma] := Lexes.mark (by decide) rfl rfl

theorem Lexes.at : Lexes (fun _ => True) ['@'] [.mark .at] := Lexes.mark (by decide) rfl rfl

theorem breaks_closeParen : Breaks ')' := ⟨by decide, by decide⟩

theorem breaks_space : Breaks ' ' := ⟨by decide, by decide⟩

theorem breaks_openBracket : Breaks '[' := ⟨by decide, by decide⟩

/-- Text that may follow a piece ending before a blank: nothing, or a blank and text that lexes. -/
inductive SpacedLexes (stop : Char → Prop) : List Char → List Token → Prop
  | empty : SpacedLexes stop [] []
  | spaced {cs : List Char} {ts : List Token} : Lexes stop cs ts → cs ≠ [] →
      SpacedLexes stop (' ' :: cs) ts

theorem Lexes.append_spaced {stop : Char → Prop} {cs cs' : List Char} {ts ts' : List Token}
    (h : Lexes stop cs ts) (h' : SpacedLexes stop cs' ts') (hspace : stop ' ') :
    Lexes stop (cs ++ cs') (ts ++ ts') := by
  cases h' with
  | empty => simpa using h
  | spaced h' _ => exact h.append_cons h'.space hspace

theorem SpacedLexes.append {stop : Char → Prop} {cs cs' : List Char} {ts ts' : List Token}
    (h : SpacedLexes stop cs ts) (h' : SpacedLexes stop cs' ts') (hspace : stop ' ') :
    SpacedLexes stop (cs ++ cs') (ts ++ ts') := by
  cases h with
  | empty => simpa using h'
  | spaced h hne => exact .spaced (h.append_spaced h' hspace) (by simp [hne])

theorem SpacedLexes.mono {stop stop' : Char → Prop} {cs : List Char} {ts : List Token}
    (h : SpacedLexes stop cs ts) (hstop : ∀ c, stop' c → stop c) : SpacedLexes stop' cs ts := by
  cases h with
  | empty => exact .empty
  | spaced h hne => exact .spaced (h.mono hstop) hne

/-- Text in brackets lexes as its units between the two marks. -/
theorem Lexes.bracketIf {t : String} {ts : List Token} (h : Lexes Breaks t.toList ts)
    (bracket : Bool) :
    Lexes Breaks (bracketIf bracket t).toList (bracketTokens bracket ts) := by
  cases bracket with
  | false => exact h
  | true =>
    have htext : (Query.bracketIf true t).toList = ['('] ++ (t.toList ++ [')']) := by
      simp [Query.bracketIf]
    rw [htext, bracketTokens, if_pos rfl]
    exact Lexes.openParen.append (h.append_cons (Lexes.closeParen.mono fun _ _ => trivial)
      breaks_closeParen) (by simp) fun _ _ => trivial

/-- Label names separated by commas, then the closing bracket. -/
theorem Lexes.labels : (ls : List String) → (∀ l ∈ ls, isLabelName l = true) →
    Lexes (fun _ => True) ([','].intercalate (ls.map String.toList) ++ [')']) (labelTokens ls)
  | [], _ => Lexes.closeParen
  | [l], h => by
    have hname := Lexes.labelName (h l List.mem_cons_self)
    simpa [labelTokens] using hname.append_cons Lexes.closeParen rfl
  | l :: l' :: more, h => by
    have hname := Lexes.labelName (h l List.mem_cons_self)
    have hrest := Lexes.labels (l' :: more) fun x hx => h x (List.mem_cons_of_mem l hx)
    have htext : [','].intercalate ((l :: l' :: more).map String.toList) ++ [')'] =
        l.toList ++ ',' :: ([','].intercalate ((l' :: more).map String.toList) ++ [')']) := by
      simp [List.intercalate_cons_cons]
    rw [htext]
    exact hname.append_cons (Lexes.comma.append hrest (by simp) fun _ _ => trivial) rfl

/-- A matcher: its label name, `=` and its value in quotes. -/
theorem Lexes.matcher {m : Matcher} (hname : isLabelName m.name = true) :
    Lexes (fun _ => True) (m.name.toList ++ '=' :: (quote m.value).toList)
      [.word m.name, .mark .equals, .str m.value] := by
  have hequals : Lexes (fun x => x ≠ '=') ['='] [.mark .equals] :=
    Lexes.markBeforeEquals (by decide) rfl
  have hvalue := Lexes.str m.value
  rw [quote_toList] at hvalue ⊢
  exact (Lexes.labelName hname).append_cons (hequals.append_cons hvalue (by decide)) rfl

/-- Matchers separated by commas, then the closing brace. -/
theorem Lexes.matchers : (ms : List Matcher) → (∀ m ∈ ms, isLabelName m.name = true) →
    Lexes (fun _ => True)
      ([','].intercalate (ms.map fun m => m.name.toList ++ '=' :: (quote m.value).toList) ++ ['\x7d'])
      (matcherTokens ms)
  | [], _ => Lexes.closeBrace
  | [m], h => by
    have hmatcher := Lexes.matcher (h m List.mem_cons_self)
    simpa [matcherTokens] using hmatcher.append Lexes.closeBrace (by simp) fun _ _ => trivial
  | m :: n :: more, h => by
    have hmatcher := Lexes.matcher (h m List.mem_cons_self)
    have hrest := Lexes.matchers (n :: more) fun x hx => h x (List.mem_cons_of_mem m hx)
    have h' := hmatcher.append (Lexes.comma.append hrest (by simp) fun _ _ => trivial) (by simp)
      fun _ _ => trivial
    simpa [matcherTokens, List.intercalate_cons_cons] using h'

/-- A keyword and a list of label names in brackets, after a blank. -/
theorem SpacedLexes.clause {keyword : String} (hkw : isMetricName keyword = true)
    {labels : List String} (hlabels : ∀ l ∈ labels, isLabelName l = true) {stop : Char → Prop} :
    SpacedLexes stop (clause keyword labels).toList (clauseTokens keyword labels) := by
  have htext : (Query.clause keyword labels).toList =
      ' ' :: (keyword.toList ++ '(' :: ([','].intercalate (labels.map String.toList) ++ [')'])) := by
    simp [Query.clause]
  rw [htext]
  refine .spaced (((Lexes.metricName hkw).append_cons (Lexes.openParen.append
    (Lexes.labels labels hlabels) (by simp) fun _ _ => trivial) rfl).mono fun _ _ => trivial) ?_
  simp [(isMetricName_chars hkw).2]

/-! ### Operators and modifiers -/

theorem MatchingKind.isMetricName_keyword (k : MatchingKind) : isMetricName k.keyword = true := by
  cases k <;> decide

theorem GroupSide.isMetricName_keyword (side : GroupSide) : isMetricName side.keyword = true := by
  cases side <;> decide

theorem GroupingKind.isMetricName_keyword (k : GroupingKind) : isMetricName k.keyword = true := by
  cases k <;> decide

/-- An operator's symbol lexes as its unit before a blank. -/
theorem Lexes.symbol (op : BinOp) : Lexes (fun x => x = ' ') op.symbol.toList [opToken op] := by
  have hword : ∀ {w : String}, isMetricName w = true → Lexes (fun x => x = ' ') w.toList [.word w] :=
    fun h => (Lexes.metricName h).mono fun _ hx => by subst hx; decide
  -- the set operators and `atan2` are words, the comparisons with `=` are pairs of marks
  match op with
  | .and | .or | .unless | .atan2 => exact hword (by decide)
  | .eq | .ne | .ge | .le => exact (Lexes.pair (by decide) rfl).mono fun _ _ => trivial
  | .gt | .lt => exact (Lexes.markBeforeEquals (by decide) rfl).mono fun _ hx => by subst hx; decide
  | .add | .sub | .mul | .div | .mod | .pow =>
    exact (Lexes.mark (by decide) rfl rfl).mono fun _ _ => trivial

/-- The `bool` flag of an operator, when set, lexes as its word after a space. -/
theorem SpacedLexes.flag (flag : Bool) :
    SpacedLexes (fun x => x = ' ') (if flag then " bool" else "").toList
      (if flag then [.word "bool"] else []) := by
  cases flag with
  | false => exact .empty
  | true =>
    have hbool : Lexes (fun x => isNameChar x = false) "bool".toList [.word "bool"] :=
      Lexes.metricName (by decide)
    exact .spaced (hbool.mono fun _ hx => by subst hx; decide) (by decide)

/-- The text an operator writes after its symbol and flag is a well-formed matching clause,
with its group clause, lexing as its units after a space. -/
theorem SpacedLexes.matching (op : BinOp) (flag : Bool) {matching : Option Matching}
    (hmatching : ∀ m, matching = some m → m.WellFormed op) :
    ∃ t, SpacedLexes (fun x => x = ' ') t (matchingTokens matching) ∧
      (operatorText op flag matching).toList =
        op.symbol.toList ++ ((if flag then " bool" else "").toList ++ t) := by
  cases matching with
  | none => exact ⟨[], .empty, by simp [operatorText]⟩
  | some m =>
    obtain ⟨kind, labels, group⟩ := m
    obtain ⟨hlabels, hgroup⟩ := hmatching _ rfl
    have hclause : SpacedLexes (fun x => x = ' ') _ _ :=
      SpacedLexes.clause kind.isMetricName_keyword hlabels
    cases group with
    | none => exact ⟨_, by simpa [matchingTokens, groupTokens] using hclause, by simp [operatorText]⟩
    | some g =>
      exact ⟨_, hclause.append (.clause g.side.isMetricName_keyword (hgroup g rfl).1) rfl,
        by simp [operatorText]⟩

/-- An operator lexes as its symbol, then `bool` and its clauses when it has them. -/
theorem Lexes.operator (op : BinOp) (flag : Bool) {matching : Option Matching}
    (hmatching : ∀ m, matching = some m → m.WellFormed op) :
    Lexes (fun x => x = ' ') (operatorText op flag matching).toList
      (operatorTokens op flag matching) := by
  obtain ⟨t, ht, htext⟩ := SpacedLexes.matching op flag hmatching
  rw [htext]
  exact (Lexes.symbol op).append_spaced ((SpacedLexes.flag flag).append ht rfl) rfl

theorem Lexes.offset (shift : Duration) :
    SpacedLexes Breaks ((Modifier.offset shift).renderIn .minimal).toList
      (Modifier.offset shift).tokens := by
  have htext : ((Modifier.offset shift).renderIn .minimal).toList =
      ' ' :: ("offset".toList ++ ' ' :: shift.render.toList) := by
    simp [Modifier.renderIn]
  rw [htext]
  have hword : Lexes (fun x => isNameChar x = false) "offset".toList [.word "offset"] :=
    Lexes.metricName (by decide)
  exact .spaced (hword.append_cons (Lexes.duration shift).space (by decide)) (by simp)

theorem Lexes.atTime (seconds : Binary64) :
    SpacedLexes Breaks ((Modifier.atTime seconds).renderIn .minimal).toList
      (Modifier.atTime seconds).tokens := by
  have htext : ((Modifier.atTime seconds).renderIn .minimal).toList =
      ' ' :: ('@' :: ' ' :: (numberText seconds).toList) := by
    simp [Modifier.renderIn]
  rw [htext]
  exact .spaced (Lexes.at.append_cons (Lexes.number seconds).space trivial) (by simp)

theorem Lexes.atExpr {target : Expr}
    (htarget : Lexes Breaks (target.renderIn .minimal).toList target.tokens) :
    SpacedLexes Breaks ((Modifier.atExpr target).renderIn .minimal).toList
      (Modifier.atExpr target).tokens := by
  have htext : ((Modifier.atExpr target).renderIn .minimal).toList =
      ' ' :: ('@' :: ' ' :: (Query.bracketIf (needsBrackets .minimal target .atom false)
        (target.renderIn .minimal)).toList) := by
    simp [Modifier.renderIn]
  rw [htext]
  exact .spaced (Lexes.at.append_cons
    (htarget.bracketIf (needsBrackets .minimal target .atom false)).space trivial) (by simp)

/-! ### The text of each kind of node -/

theorem breaks_comma : Breaks ',' := ⟨by decide, by decide⟩

/-- The functions of the table have names that lex as words. -/
theorem functionName_isMetricName : ∀ spec ∈ functions, isMetricName spec.name = true := by
  have hall : functions.all (fun spec => isMetricName spec.name) = true := by cbv
  exact fun spec hspec => List.all_eq_true.mp hall spec hspec

theorem Lexes.selector {sel : Selector} (h : sel.WellFormed) :
    Lexes Breaks sel.render.toList sel.tokens := by
  obtain ⟨hname, hlabels, -⟩ := h
  rcases sel with ⟨name, _ | ms⟩
  · exact (Lexes.metricName hname).mono fun _ h => breaks_of_word h
  · have htext : (Selector.render ⟨name, some ms⟩).toList = name.toList ++ '\x7b' ::
        ([','].intercalate (ms.map fun m => m.name.toList ++ '=' :: (quote m.value).toList) ++
          ['\x7d']) := by
      simp [Selector.render, Function.comp_def]
    have hmatchers := Lexes.matchers ms fun m hm => hlabels m.name (List.mem_map_of_mem hm)
    rw [htext]
    exact ((Lexes.metricName hname).append_cons (Lexes.openBrace.append hmatchers (by simp)
      fun _ _ => trivial) (by decide)).mono fun _ _ => trivial

section Nodes

theorem Lexes.derived {inner : Expr} {m : Modifier}
    (hinner : Lexes Breaks (inner.renderIn .minimal).toList inner.tokens)
    (hm : SpacedLexes Breaks (m.renderIn .minimal).toList m.tokens) :
    Lexes Breaks ((Expr.derived inner m).renderIn .minimal).toList (Expr.derived inner m).tokens := by
  have htext : ((Expr.derived inner m).renderIn .minimal).toList =
      (Query.bracketIf (needsBrackets .minimal inner .modifier false)
        (inner.renderIn .minimal)).toList ++ (m.renderIn .minimal).toList := by
    simp [Expr.renderIn]
  rw [htext]
  exact (hinner.bracketIf _).append_spaced hm breaks_space

theorem Lexes.range {sel : Selector} (hsel : sel.WellFormed) (width : Duration) :
    Lexes Breaks ((Expr.range sel width).renderIn .minimal).toList (Expr.range sel width).tokens := by
  have htext : ((Expr.range sel width).renderIn .minimal).toList =
      sel.render.toList ++ '[' :: (width.render.toList ++ [']']) := by
    simp [Expr.renderIn]
  rw [htext]
  exact (Lexes.selector hsel).append_cons
    ((Lexes.window (render_ne_close width)).mono fun _ _ => trivial) breaks_openBracket

theorem Lexes.subquery {inner : Expr}
    (hinner : Lexes Breaks (inner.renderIn .minimal).toList inner.tokens)
    (width : Duration) (step : Option Duration) :
    Lexes Breaks ((Expr.subquery inner width step).renderIn .minimal).toList
      (Expr.subquery inner width step).tokens := by
  have htext : ((Expr.subquery inner width step).renderIn .minimal).toList =
      (Query.bracketIf (needsBrackets .minimal inner .atom false) (inner.renderIn .minimal)).toList ++
        '[' :: (subqueryWindow width step ++ [']']) := by
    cases step <;> simp [Expr.renderIn, subqueryWindow]
  -- the width and the step are durations around a colon
  have hbody : ∀ c ∈ subqueryWindow width step, c ≠ ']' := by
    intro c hc
    simp only [subqueryWindow, List.mem_append, List.mem_cons] at hc
    rcases hc with hc | rfl | hc
    · exact render_ne_close width c hc
    · decide
    · cases step with
      | none => simp at hc
      | some s => exact render_ne_close s c hc
  rw [htext]
  exact (hinner.bracketIf _).append_cons ((Lexes.window hbody).mono fun _ _ => trivial)
    breaks_openBracket

/-- A function name with its arguments in brackets. -/
theorem Lexes.applied {name : String} (hname : ∃ spec ∈ functions, spec.name = name)
    {args : List Arg}
    (hargs : Lexes (fun _ => True) ((Arg.renderListIn .minimal args).toList ++ [')'])
      (Arg.listTokens args)) :
    Lexes Breaks (name ++ "(" ++ Arg.renderListIn .minimal args ++ ")").toList
      (.word name :: .mark .openParen :: Arg.listTokens args) := by
  obtain ⟨spec, hspec, rfl⟩ := hname
  have htext : (spec.name ++ "(" ++ Arg.renderListIn .minimal args ++ ")").toList =
      spec.name.toList ++ '(' :: ((Arg.renderListIn .minimal args).toList ++ [')']) := by
    simp
  rw [htext]
  exact ((Lexes.metricName (functionName_isMetricName spec hspec)).append_cons
    (Lexes.openParen.append hargs (by simp) fun _ _ => trivial) (by decide)).mono fun _ _ => trivial

theorem Lexes.call {name : String} (hname : ∃ spec ∈ functions, spec.name = name)
    {args : List Arg}
    (hargs : Lexes (fun _ => True) ((Arg.renderListIn .minimal args).toList ++ [')'])
      (Arg.listTokens args)) (returns : ValueKind) :
    Lexes Breaks ((Expr.call name args returns).renderIn .minimal).toList
      (Expr.call name args returns).tokens :=
  Lexes.applied hname hargs

theorem Lexes.aggregate {name : String} (hname : ∃ spec ∈ functions, spec.name = name)
    {args : List Arg}
    (hargs : Lexes (fun _ => True) ((Arg.renderListIn .minimal args).toList ++ [')'])
      (Arg.listTokens args))
    {grouping : Option Grouping}
    (hgrouping : ∀ g, grouping = some g → ∀ l ∈ g.labels, isLabelName l = true) :
    Lexes Breaks ((Expr.aggregate name args grouping).renderIn .minimal).toList
      (Expr.aggregate name args grouping).tokens := by
  -- the grouping clause, if any, follows the call after a blank
  obtain ⟨t, ht, htext⟩ : ∃ t, SpacedLexes Breaks t (groupingTokens grouping) ∧
      ((Expr.aggregate name args grouping).renderIn .minimal).toList =
        (name ++ "(" ++ Arg.renderListIn .minimal args ++ ")").toList ++ t := by
    cases grouping with
    | none => exact ⟨[], .empty, by simp [Expr.renderIn]⟩
    | some g =>
      exact ⟨_, .clause g.kind.isMetricName_keyword (hgrouping g rfl), by simp [Expr.renderIn]⟩
  rw [htext]
  exact (Lexes.applied hname hargs).append_spaced ht breaks_space

theorem Lexes.binary {op : BinOp} {lhs rhs : Expr}
    (hlhs : Lexes Breaks (lhs.renderIn .minimal).toList lhs.tokens)
    (hrhs : Lexes Breaks (rhs.renderIn .minimal).toList rhs.tokens) (flag : Bool)
    {matching : Option Matching} (hmatching : ∀ m, matching = some m → m.WellFormed op) :
    Lexes Breaks ((Expr.binary op lhs rhs flag matching).renderIn .minimal).toList
      (Expr.binary op lhs rhs flag matching).tokens := by
  -- the operator stands between the two sides with one blank on each side
  have htext : ((Expr.binary op lhs rhs flag matching).renderIn .minimal).toList =
      (Query.bracketIf (needsBrackets .minimal lhs op.precedence op.rightAssociative)
        (lhs.renderIn .minimal)).toList ++ ' ' :: ((operatorText op flag matching).toList ++
        ' ' :: (Query.bracketIf (needsBrackets .minimal rhs op.precedence (!op.rightAssociative))
          (rhs.renderIn .minimal)).toList) := by
    simp [Expr.renderIn]
  have hright := ((Lexes.operator op flag hmatching).append_cons
    (hrhs.bracketIf (needsBrackets .minimal rhs op.precedence (!op.rightAssociative))).space rfl).space
  rw [htext]
  exact (hlhs.bracketIf _).append_cons hright breaks_space

theorem Lexes.textArg (s : String) :
    Lexes Breaks ((Arg.text s).renderIn .minimal).toList (Arg.text s).tokens :=
  (Lexes.str s).mono fun _ _ => trivial

theorem Lexes.exprArg {e : Expr} (he : Lexes Breaks (e.renderIn .minimal).toList e.tokens) :
    Lexes Breaks ((Arg.expr e).renderIn .minimal).toList (Arg.expr e).tokens :=
  he.bracketIf _

theorem Lexes.argsNil :
    Lexes (fun _ => True) ((Arg.renderListIn .minimal []).toList ++ [')']) (Arg.listTokens []) :=
  Lexes.closeParen

theorem Lexes.argsSingle {a : Arg} (ha : Lexes Breaks (a.renderIn .minimal).toList a.tokens) :
    Lexes (fun _ => True) ((Arg.renderListIn .minimal [a]).toList ++ [')']) (Arg.listTokens [a]) :=
  ha.append_cons Lexes.closeParen breaks_closeParen

/-- Arguments are separated by a comma and a blank. -/
theorem Lexes.argsConsCons {a b : Arg} {rest : List Arg}
    (ha : Lexes Breaks (a.renderIn .minimal).toList a.tokens)
    (hrest : Lexes (fun _ => True) ((Arg.renderListIn .minimal (b :: rest)).toList ++ [')'])
      (Arg.listTokens (b :: rest))) :
    Lexes (fun _ => True) ((Arg.renderListIn .minimal (a :: b :: rest)).toList ++ [')'])
      (Arg.listTokens (a :: b :: rest)) := by
  have htext : (Arg.renderListIn .minimal (a :: b :: rest)).toList ++ [')'] =
      (a.renderIn .minimal).toList ++ ',' :: ' ' ::
        ((Arg.renderListIn .minimal (b :: rest)).toList ++ [')']) := by
    simp [Arg.renderListIn]
  rw [htext]
  exact ha.append_cons (Lexes.comma.append_cons hrest.space trivial) breaks_comma

end Nodes

/-! ### Every node -/

mutual

/-- The query text of a well-formed expression that calls only functions of the table lexes as
its units before a blank, a closing bracket, a comma or a window. -/
theorem Expr.lexes : (x : Expr) → x.WellFormed → x.KnownCalls →
    Lexes Breaks (x.renderIn .minimal).toList x.tokens
  | .literal v, _, _ => Lexes.number v
  | .selector _, h, _ => Lexes.selector h
  | .derived inner m, ⟨_, _, hinner, hm⟩, ⟨kinner, km⟩ =>
    Lexes.derived (inner.lexes hinner kinner) (m.lexes hm km)
  | .range _ width, ⟨hsel, _⟩, _ => Lexes.range hsel width
  | .subquery inner width step, ⟨_, _, _, hinner⟩, kinner =>
    Lexes.subquery (inner.lexes hinner kinner) width step
  | .call _ args returns, hargs, ⟨hknown, kargs⟩ =>
    Lexes.call hknown (Arg.listLexes args hargs kargs) returns
  | .binary _ lhs rhs flag _, ⟨_, _, _, hmatching, hl, hr⟩, ⟨kl, kr⟩ =>
    Lexes.binary (lhs.lexes hl kl) (rhs.lexes hr kr) flag hmatching
  | .aggregate _ args _, ⟨hargs, hgrouping⟩, ⟨hknown, kargs⟩ =>
    Lexes.aggregate hknown (Arg.listLexes args hargs kargs) hgrouping

/-- The text of a modifier is a blank and text that lexes as the modifier's units. -/
theorem Modifier.lexes : (m : Modifier) → m.WellFormed → m.KnownCalls →
    SpacedLexes Breaks (m.renderIn .minimal).toList m.tokens
  | .offset shift, _, _ => Lexes.offset shift
  | .atTime seconds, _, _ => Lexes.atTime seconds
  | .atExpr target, ⟨_, htarget⟩, ktarget => Lexes.atExpr (target.lexes htarget ktarget)

theorem Arg.listLexes : (args : List Arg) → Arg.AllWellFormed args → Arg.AllKnownCalls args →
    Lexes (fun _ => True) ((Arg.renderListIn .minimal args).toList ++ [')']) (Arg.listTokens args)
  | [], _, _ => Lexes.argsNil
  | [a], ⟨ha, _⟩, ⟨ka, _⟩ => Lexes.argsSingle (a.lexes ha ka)
  | a :: b :: rest, ⟨ha, hb, hrest⟩, ⟨ka, kb, krest⟩ =>
    Lexes.argsConsCons (a.lexes ha ka) (Arg.listLexes (b :: rest) ⟨hb, hrest⟩ ⟨kb, krest⟩)

theorem Arg.lexes : (a : Arg) → a.WellFormed → a.KnownCalls →
    Lexes Breaks (a.renderIn .minimal).toList a.tokens
  | .expr e, h, k => Lexes.exprArg (e.lexes h k)
  | .text s, _, _ => Lexes.textArg s

end

/-- The lexer cuts the query text of a well-formed expression that calls only functions of the
table into exactly the expression's units. -/
theorem lex_renderIn_minimal {e : Expr} (hwf : e.WellFormed) (hknown : e.KnownCalls) :
    lex (e.renderIn .minimal).toList = some e.tokens :=
  (e.lexes hwf hknown).lex_eq

end PromRules.Query
