import PromRules.Proofs.DecimalReading
import PromRules.Proofs.QueryTokens

/-!
Numbers in query text read back.

The lexer reads a run of digits with at most one point as a decimal (`readDecimal`): the digits
without the point give the mantissa, and the digits after the point count the exponent down
(`readDecimal_decimalChars`). The printer writes the magnitude of every finite number in that
shape: a whole number below `10^16` as its digits and `.0`, any other number with its shortest
digits, positionally. Either way the decimal has the number's value or lies in its rounding
interval, so it reads back as the number itself (`numberText_reads`). A negative number is
written as its magnitude after a `-` (`numberText_of_isNegative`).
-/

namespace PromRules.Query

open Binary64

/-- The text of a decimal with the digits `whole` before the point and `frac` after it, and no
point when nothing comes after it. -/
def decimalChars (whole frac : List Char) : List Char :=
  if frac = [] then whole else whole ++ '.' :: frac

theorem takeWhile_append_of_head {p : Char → Bool} {xs ys : List Char} (hxs : ∀ c ∈ xs, p c = true)
    (hys : ∀ c ∈ ys.head?, p c = false) : (xs ++ ys).takeWhile p = xs := by
  rw [List.takeWhile_append_of_pos hxs]
  cases ys with
  | nil => simp
  | cons y ys => simp [List.takeWhile_cons_of_neg (by simpa using hys y rfl)]

theorem dropWhile_append_of_head {p : Char → Bool} {xs ys : List Char} (hxs : ∀ c ∈ xs, p c = true)
    (hys : ∀ c ∈ ys.head?, p c = false) : (xs ++ ys).dropWhile p = ys := by
  rw [List.dropWhile_append_of_pos hxs]
  cases ys with
  | nil => rfl
  | cons y ys => exact List.dropWhile_cons_of_neg (by simpa using hys y rfl)

/-- A run of digits with a point among them reads as the decimal of all its digits, scaled down
by the digits after the point. -/
theorem readDecimal_decimalChars {whole frac : List Char} (hwhole : whole ≠ [])
    (hdigits : ∀ c ∈ whole ++ frac, c.isDigit = true) :
    readDecimal (decimalChars whole frac) =
      some (ofDecimal false (Duration.digitsValue (whole ++ frac)) (-(frac.length : Int))) := by
  have hwholeDigits : ∀ c ∈ whole, c.isDigit = true :=
    fun c hc => hdigits c (List.mem_append_left frac hc)
  have hfracDigits : ∀ c ∈ frac, c.isDigit = true :=
    fun c hc => hdigits c (List.mem_append_right whole hc)
  have hnonempty : whole.isEmpty = false := List.isEmpty_eq_false_iff.mpr hwhole
  unfold readDecimal decimalChars
  split
  · next hfrac =>
    subst hfrac
    rw [← List.append_nil whole, takeWhile_append_of_head hwholeDigits (by simp),
      dropWhile_append_of_head hwholeDigits (by simp)]
    simp [hnonempty]
  · next hfrac =>
    have hpoint : ∀ c ∈ ('.' :: frac).head?, c.isDigit = false := by simp
    rw [takeWhile_append_of_head hwholeDigits hpoint, dropWhile_append_of_head hwholeDigits hpoint]
    have hall : frac.all Char.isDigit = true := List.all_eq_true.mpr hfracDigits
    simp [hnonempty, List.isEmpty_eq_false_iff.mpr hfrac, hall]

theorem digitsValue_append (xs ys : List Char) :
    Duration.digitsValue (xs ++ ys) = Duration.digitsValue xs * 10 ^ ys.length + Duration.digitsValue ys := by
  rw [Duration.digitsValue_eq_ofDigitChars, Duration.digitsValue_eq_ofDigitChars,
    Duration.digitsValue_eq_ofDigitChars, Nat.ofDigitChars_append,
    Nat.ofDigitChars_eq_ofDigitChars_zero, Nat.mul_comm]

theorem digitsValue_toDigits (n : Nat) : Duration.digitsValue (Nat.toDigits 10 n) = n := by
  rw [Duration.digitsValue_eq_ofDigitChars, Nat.ofDigitChars_ten_toDigits]

theorem digitsValue_replicate_zero (k : Nat) : Duration.digitsValue (List.replicate k '0') = 0 := by
  rw [Duration.digitsValue_eq_ofDigitChars, Nat.ofDigitChars_replicate_zero, Nat.mul_zero]

/-! ### The shapes the printer writes -/

theorem digitsValue_zero_char : Duration.digitsValue ['0'] = 0 := rfl

/-- The positional text of `d * 10^t` is a decimal of the value `d * 10^t` whose digits after the
point are exactly those a negative `t` asks for. -/
theorem positional_decimal (d : Nat) (t : Int) :
    ∃ whole frac, (Number.positional d t).toList = decimalChars whole frac ∧ whole ≠ [] ∧
      (∀ c ∈ whole ++ frac, c.isDigit = true) ∧ -(frac.length : Int) = min t 0 ∧
      (Duration.digitsValue (whole ++ frac) : ℚ) * 10 ^ (-(frac.length : Int)) = d * 10 ^ t := by
  have hdigits : ∀ c ∈ Nat.toDigits 10 d, c.isDigit = true := fun c hc => Duration.isDigit_of_mem_toDigits hc
  have hzeros : ∀ k, ∀ c ∈ List.replicate k '0', c.isDigit = true := by
    intro k c hc
    rw [(List.mem_replicate.mp hc).2]
    rfl
  have hlength : (toString d).length = (Nat.toDigits 10 d).length := by
    rw [← Duration.toList_toString, String.length_toList]
  unfold Number.positional
  dsimp only
  split
  · -- a whole number: the digits and `t` zeros, no point
    next ht =>
    refine ⟨Nat.toDigits 10 d ++ List.replicate t.toNat '0', [], ?_, by simp [Nat.toDigits_ne_nil], ?_,
      by simp; omega, ?_⟩
    · simp [decimalChars, Number.zeros]
    · intro c hc
      simp only [List.append_nil, List.mem_append] at hc
      exact hc.elim (hdigits c) (hzeros _ c)
    · rw [List.append_nil, digitsValue_append, digitsValue_toDigits, digitsValue_replicate_zero,
        List.length_replicate]
      push_cast
      rw [← zpow_natCast, Int.toNat_of_nonneg ht]
      simp
  · next ht =>
    rw [hlength]
    split
    · -- the point falls among the digits
      next hlt =>
      have hpos : 0 < (-t).toNat := by omega
      refine ⟨(Nat.toDigits 10 d).take ((Nat.toDigits 10 d).length - (-t).toNat),
        (Nat.toDigits 10 d).drop ((Nat.toDigits 10 d).length - (-t).toNat), ?_, ?_, ?_, ?_, ?_⟩
      · have hfrac : (Nat.toDigits 10 d).drop ((Nat.toDigits 10 d).length - (-t).toNat) ≠ [] := by
          simp only [ne_eq, List.drop_eq_nil_iff]
          omega
        simp [decimalChars, hfrac]
      · simp only [ne_eq, List.take_eq_nil_iff, Nat.toDigits_ne_nil, or_false]
        omega
      · rw [List.take_append_drop]
        exact hdigits
      · simp only [List.length_drop]
        omega
      · rw [List.take_append_drop, digitsValue_toDigits, List.length_drop]
        congr 2
        omega
    · -- the number is below one: a zero, the point, zeros, then the digits
      next hge =>
      refine ⟨['0'], List.replicate ((-t).toNat - (Nat.toDigits 10 d).length) '0' ++ Nat.toDigits 10 d,
        ?_, by simp, ?_, ?_, ?_⟩
      · simp [decimalChars, Number.zeros]
      · intro c hc
        simp only [List.cons_append, List.nil_append, List.mem_cons, List.mem_append] at hc
        rcases hc with rfl | hc | hc
        · rfl
        · exact hzeros _ c hc
        · exact hdigits c hc
      · simp only [List.length_append, List.length_replicate]
        omega
      · rw [digitsValue_append, digitsValue_append, digitsValue_zero_char, digitsValue_replicate_zero,
          digitsValue_toDigits]
        simp only [Nat.zero_mul, Nat.zero_add, List.length_append, List.length_replicate]
        congr 2
        omega

/-- A whole number is `m * 2^e` itself, so rounding it to the nearest whole number keeps it. -/
theorem roundHalfAway_cast {m : Nat} {e : Int}
    (h : (decide (0 ≤ e) || m % Nat.pow 2 (-e).toNat == 0) = true) :
    ((roundHalfAway m e : Nat) : ℚ) = m * 2 ^ e := by
  unfold roundHalfAway
  split
  · next he =>
    push_cast [Number.natPow_eq]
    rw [← zpow_natCast, Int.toNat_of_nonneg he]
  · next he =>
    have hdvd : m % Nat.pow 2 (-e).toNat = 0 := by simpa [he] using h
    have hpos : 0 < Nat.pow 2 (-e).toNat := Nat.two_pow_pos _
    have hinv : (2 : ℚ) ^ e = ((2 : ℚ) ^ (-e).toNat)⁻¹ := by
      rw [← zpow_natCast, Int.toNat_of_nonneg (by omega), ← zpow_neg, neg_neg]
    rw [if_neg (by omega), Nat.cast_div (Nat.dvd_of_mod_eq_zero hdvd) (by positivity), hinv,
      div_eq_mul_inv, Number.natPow_eq]
    push_cast
    rfl

/-- A number with a clear sign bit and no magnitude is `+0`. -/
theorem eq_zero_of_classify {v : Binary64} {e : Int} (hneg : v.isNegative = false)
    (hv : v.classify = .finite 0 e) : v = zero false := by
  rcases classify_eq_finite hv with ⟨hfield, hfrac, -⟩ | ⟨-, -, hm, -⟩
  · exact (ofFields_eq_of_fields hneg.symm hfield.symm hfrac).symm
  · unfold hiddenBit at hm
    omega

theorem ofDecimal_zero (T : Int) : ofDecimal false 0 T = zero false := by
  simp [ofDecimal]

/-- A whole number written with its digits and one zero after the point reads back as itself. -/
theorem ofDecimal_wholeText {v : Binary64} {m : Nat} {e : Int} (hneg : v.isNegative = false)
    (hv : v.classify = .finite m e) (hwhole : (decide (0 ≤ e) || m % Nat.pow 2 (-e).toNat == 0) = true) :
    ofDecimal false (roundHalfAway m e * 10 ^ 1) (-(1 : Int)) = v := by
  have hexact := roundHalfAway_cast hwhole
  rcases Nat.eq_zero_or_pos m with rfl | hm
  · have hzero : roundHalfAway 0 e = 0 := Nat.cast_eq_zero.mp (hexact.trans (by simp))
    rw [hzero, Nat.zero_mul, ofDecimal_zero, eq_zero_of_classify hneg hv]
  · have hvalue : ((roundHalfAway m e * 10 ^ 1 : Nat) : ℚ) * 10 ^ (-(1 : Int)) = m * 2 ^ e := by
      push_cast
      rw [hexact]
      ring
    have hD : 0 < roundHalfAway m e * 10 ^ 1 := by
      have : (0 : ℚ) < roundHalfAway m e := by rw [hexact]; positivity
      exact Nat.mul_pos (by exact_mod_cast this) (by decide)
    exact Number.ofDecimal_eq_of_value hneg hv hm hD (by decide) hvalue

/-- The text of a finite number with a clear sign bit is a decimal that reads back as the
number. -/
theorem numberText_decimal {v : Binary64} {m : Nat} {e : Int} (hneg : v.isNegative = false)
    (hv : v.classify = .finite m e) :
    ∃ whole frac, (numberText v).toList = decimalChars whole frac ∧ whole ≠ [] ∧
      (∀ c ∈ whole ++ frac, c.isDigit = true) ∧
      ofDecimal false (Duration.digitsValue (whole ++ frac)) (-(frac.length : Int)) = v := by
  obtain ⟨hm53, he, he'⟩ := Number.classify_bounds hv
  have hintegral : v.isIntegral = (decide (0 ≤ e) || m % Nat.pow 2 (-e).toNat == 0) := by
    simp [isIntegral, hv]
  simp only [numberText, hv, hneg, hintegral, Bool.false_eq_true, if_false, String.empty_append]
  split
  · -- a whole number below `10^16`: its digits and `.0`
    next hsmall =>
    refine ⟨Nat.toDigits 10 (roundHalfAway m e), ['0'], by simp [decimalChars],
      Nat.toDigits_ne_nil, ?_, ?_⟩
    · intro c hc
      rcases List.mem_append.mp hc with hc | hc
      · exact Duration.isDigit_of_mem_toDigits hc
      · rw [List.mem_singleton.mp hc]
        rfl
    · rw [digitsValue_append, digitsValue_toDigits, digitsValue_zero_char, Nat.add_zero]
      exact ofDecimal_wholeText hneg hv (Bool.and_eq_true_iff.mp hsmall).1
  · -- any other number: its shortest digits, positionally
    unfold Number.shortestText
    split
    · next hzero =>
      subst hzero
      refine ⟨['0'], [], rfl, by simp, by simp, ?_⟩
      rw [List.append_nil, digitsValue_zero_char, ofDecimal_zero, eq_zero_of_classify hneg hv]
    · next hm =>
      have hpos : 0 < m := Nat.pos_of_ne_zero hm
      obtain ⟨-, hlow⟩ := Number.shortest_spec hpos hm53 he he'
      have hd := Number.shortest_pos hpos hm53 he he'
      obtain ⟨whole, frac, htext, hne, hdigits, hexp, hvalue⟩ :=
        positional_decimal (Number.shortest m e).1 (Number.shortest m e).2
      refine ⟨whole, frac, htext, hne, hdigits, ?_⟩
      have hD : 0 < Duration.digitsValue (whole ++ frac) := by
        have : (0 : ℚ) < Duration.digitsValue (whole ++ frac) * 10 ^ (-(frac.length : Int)) := by
          rw [hvalue]
          exact mul_pos (by exact_mod_cast hd) (by positivity)
        exact_mod_cast pos_of_mul_pos_left this (by positivity)
      exact Number.ofDecimal_eq_of_shortest hneg hv hpos hD (by omega) hvalue

/-- A decimal's text is a run of the lexer: a digit, then digits and the point. -/
theorem decimalChars_run {whole frac : List Char} (hwhole : whole ≠ [])
    (hdigits : ∀ c ∈ whole ++ frac, c.isDigit = true) :
    ∃ c cs, decimalChars whole frac = c :: cs ∧ c.isDigit = true ∧ ∀ x ∈ cs, isRunChar x = true := by
  obtain ⟨c, ws, rfl⟩ := List.exists_cons_of_ne_nil hwhole
  have hrun : ∀ x ∈ ws ++ frac, isRunChar x = true := by
    intro x hx
    have hdigit := hdigits x (List.mem_cons_of_mem c hx)
    simp [isRunChar, Char.isAlphanum, hdigit]
  refine ⟨c, if frac = [] then ws else ws ++ '.' :: frac, ?_, hdigits c List.mem_cons_self, ?_⟩
  · unfold decimalChars
    split <;> simp
  · split
    · next hfrac =>
      subst hfrac
      simpa using hrun
    · intro x hx
      rcases List.mem_append.mp hx with hx | hx
      · exact hrun x (List.mem_append_left frac hx)
      · rcases List.mem_cons.mp hx with rfl | hx
        · rfl
        · exact hrun x (List.mem_append_right ws hx)

/-- The text of a finite number with a clear sign bit is a run of the lexer that reads as the
number. -/
theorem numberText_reads {v : Binary64} {m : Nat} {e : Int} (hneg : v.isNegative = false)
    (hv : v.classify = .finite m e) :
    ∃ c cs, (numberText v).toList = c :: cs ∧ c.isDigit = true ∧ (∀ x ∈ cs, isRunChar x = true) ∧
      readDecimal (c :: cs) = some v := by
  obtain ⟨whole, frac, htext, hwhole, hdigits, hvalue⟩ := numberText_decimal hneg hv
  obtain ⟨c, cs, hrun, hc, hcs⟩ := decimalChars_run hwhole hdigits
  refine ⟨c, cs, htext.trans hrun, hc, hcs, ?_⟩
  rw [← hrun, readDecimal_decimalChars hwhole hdigits, hvalue]

/-- Whether a number is whole depends only on its class. Stated for two numbers, so that the
kernel never unfolds the fields of a particular one. -/
theorem isIntegral_eq_of_classify {x y : Binary64} (h : x.classify = y.classify) :
    x.isIntegral = y.isIntegral := by
  unfold isIntegral
  rw [h]

/-- Two numbers of one class, the first with its sign bit set and the second without, are
written alike apart from a `-` in front of the first. -/
theorem numberText_of_classify_eq {x y : Binary64} (h : x.classify = y.classify)
    (hx : x.isNegative = true) (hy : y.isNegative = false) (hnan : x.isNaN = false) :
    numberText x = "-" ++ numberText y := by
  unfold numberText
  rw [h, isIntegral_eq_of_classify h, hx, hy]
  cases hc : y.classify with
  | nan => simp [isNaN, h, hc] at hnan
  | infinite => simp
  | finite m e =>
    dsimp only
    split <;> simp_all [String.append_assoc]

/-- A number with its sign bit set, and no NaN, is written as its magnitude after a `-`. -/
theorem numberText_of_isNegative {v : Binary64} (hneg : v.isNegative = true) (hnan : v.isNaN = false) :
    numberText v = "-" ++ numberText v.abs :=
  numberText_of_classify_eq (classify_abs v).symm hneg (isNegative_abs v) hnan

end PromRules.Query
