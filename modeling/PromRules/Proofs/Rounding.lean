import Mathlib
import PromRules.Number.Binary64

/-!
Correct rounding of quotients to binary64.

`roundRatio negative num den` is the pattern nearest to `num / den`. The main statement,
`roundRatio_eq_of_near`, says so from the side of the result: a finite positive pattern
`m * 2^e` is what every quotient in its rounding interval rounds to. The interval reaches half a
gap above the value and half a gap below, except that below a power of two whose mantissa is
the hidden bit alone the gap underneath is half as wide (`lowerGap`). Its ends are ties, and a
tie goes to the even mantissa.

The proof follows the three steps of `roundRatio`: the binary logarithm of the quotient
(`floorLog2Ratio_spec`), the division rounded half to even at the exponent that leaves 53
significant bits (`roundScaled_eq`), and the packing of the rounded mantissa, with the carry when
it rounds up to `2^53` (`roundRatio_eq_normal`, `roundRatio_eq_carry`). All three are read on
the quotient in units of the gap `2^e`.
-/

namespace PromRules.Binary64

theorem natPow_two (k : Nat) : Nat.pow 2 k = 2 ^ k := rfl

theorem ratioAtLeastPow2_iff {num den : Nat} (hden : 0 < den) (k : Int) :
    ratioAtLeastPow2 num den k = true ↔ (2 : ℚ) ^ k ≤ num / den := by
  unfold ratioAtLeastPow2
  rw [le_div_iff₀ (by exact_mod_cast hden)]
  split
  · rename_i hk
    obtain ⟨j, rfl⟩ := Int.eq_ofNat_of_zero_le hk
    simp only [Int.toNat_natCast, decide_eq_true_eq, zpow_natCast, natPow_two]
    rw [mul_comm]
    exact_mod_cast Iff.rfl
  · rename_i hk
    obtain ⟨j, rfl⟩ : ∃ j : Nat, k = -((j : Int)) := ⟨(-k).toNat, by omega⟩
    simp only [neg_neg, Int.toNat_natCast, decide_eq_true_eq, zpow_neg, zpow_natCast,
      natPow_two]
    rw [inv_mul_le_iff₀ (by positivity), Nat.mul_comm]
    exact_mod_cast Iff.rfl

/-- The exact quotient lies between the powers of two next to the binary logarithms of
numerator and denominator. -/
theorem ratio_bounds_log2 {num den : Nat} (hnum : 0 < num) (hden : 0 < den) :
    (2 : ℚ) ^ ((Nat.log2 num : Int) - Nat.log2 den - 1) < num / den ∧
      (num / den : ℚ) < 2 ^ ((Nat.log2 num : Int) - Nat.log2 den + 1) := by
  have hnum_lo : 2 ^ Nat.log2 num ≤ num := Nat.log2_self_le (by omega)
  have hnum_hi : num < 2 ^ (Nat.log2 num + 1) := Nat.lt_log2_self
  have hden_lo : 2 ^ Nat.log2 den ≤ den := Nat.log2_self_le (by omega)
  have hden_hi : den < 2 ^ (Nat.log2 den + 1) := Nat.lt_log2_self
  have hden' : (0 : ℚ) < den := by exact_mod_cast hden
  constructor
  · rw [lt_div_iff₀ hden',
      show (Nat.log2 num : Int) - Nat.log2 den - 1 = (Nat.log2 num : Int) - (Nat.log2 den + 1 : Nat)
        by push_cast; ring,
      zpow_sub₀ two_ne_zero, zpow_natCast, zpow_natCast, div_mul_eq_mul_div,
      div_lt_iff₀ (by positivity)]
    have : 2 ^ Nat.log2 num * den < num * 2 ^ (Nat.log2 den + 1) :=
      Nat.mul_lt_mul_of_le_of_lt hnum_lo hden_hi (by omega)
    exact_mod_cast this
  · rw [div_lt_iff₀ hden',
      show (Nat.log2 num : Int) - Nat.log2 den + 1 = ((Nat.log2 num + 1 : Nat) : Int) - Nat.log2 den
        by push_cast; ring,
      zpow_sub₀ two_ne_zero, zpow_natCast, zpow_natCast, div_mul_eq_mul_div,
      lt_div_iff₀ (by positivity)]
    have : num * 2 ^ Nat.log2 den < 2 ^ (Nat.log2 num + 1) * den :=
      Nat.mul_lt_mul_of_lt_of_le hnum_hi hden_lo (by positivity)
    exact_mod_cast this

/-- `floorLog2Ratio` is the binary logarithm of the quotient, rounded down. -/
theorem floorLog2Ratio_spec {num den : Nat} (hnum : 0 < num) (hden : 0 < den) :
    (2 : ℚ) ^ floorLog2Ratio num den ≤ num / den ∧
      (num / den : ℚ) < 2 ^ (floorLog2Ratio num den + 1) := by
  obtain ⟨hlo, hhi⟩ := ratio_bounds_log2 hnum hden
  unfold floorLog2Ratio
  simp only
  split
  · rename_i hguess
    exact ⟨(ratioAtLeastPow2_iff hden _).1 hguess, hhi⟩
  · rename_i hguess
    rw [ratioAtLeastPow2_iff hden] at hguess
    refine ⟨hlo.le, ?_⟩
    rw [sub_add_cancel]
    exact lt_of_not_ge hguess


/-- The integer nearest to `N / D`, a tie going to the even one: what `roundScaled` computes
once the power of two is moved to one side. -/
def halfEven (N D : Nat) : Nat :=
  if D < 2 * (N % D) || (2 * (N % D) = D && N / D % 2 = 1) then N / D + 1 else N / D

theorem roundScaled_eq_halfEven (num den : Nat) (e : Int) :
    roundScaled num den e =
      if 0 ≤ e then halfEven num (den * 2 ^ e.toNat) else halfEven (num * 2 ^ (-e).toNat) den := by
  unfold roundScaled halfEven
  by_cases he : 0 ≤ e <;> simp [he]

/-- `halfEven N D` is `n` when `N / D` is within a half of `n`, and a tie is decided for `n`
only when `n` is even. Everything is stated on integers: `n - 1/2 ≤ N / D ≤ n + 1/2`. -/
theorem halfEven_eq {N D n : Nat} (hD : 0 < D) (hlo : 2 * n * D ≤ 2 * N + D)
    (hhi : 2 * N ≤ (2 * n + 1) * D) (htie_lo : 2 * n * D = 2 * N + D → n % 2 = 0)
    (htie_hi : 2 * N = (2 * n + 1) * D → n % 2 = 0) : halfEven N D = n := by
  unfold halfEven
  have hdiv := Nat.div_add_mod N D
  have hmod := Nat.mod_lt N hD
  set q := N / D
  set r := N % D
  have hq_le : q ≤ n := by nlinarith
  have hn_le : n ≤ q + 1 := by nlinarith
  rcases Nat.eq_or_lt_of_le hq_le with hq | hq
  · -- `n = q`: the remainder is at most half of `D`, and exactly half only for even `q`
    subst hq
    have hr : 2 * r ≤ D := by nlinarith
    have htie : 2 * r = D → q % 2 = 0 := fun h => htie_hi (by nlinarith)
    by_cases h : 2 * r = D
    · simp [h, htie h]
    · simp only [show ¬ D < 2 * r by omega, h, decide_false, Bool.false_and, Bool.or_false,
        Bool.false_eq_true, if_false]
  · -- `n = q + 1`: the remainder is at least half of `D`, and exactly half only for odd `q`
    have hn : n = q + 1 := by omega
    subst hn
    have hr : D ≤ 2 * r := by nlinarith
    by_cases h : 2 * r = D
    · have heven := htie_lo (by nlinarith)
      have hodd : q % 2 = 1 := by omega
      simp [h, hodd]
    · simp [show D < 2 * r by omega]

/-- `roundScaled num den e` is `n` when `num / (den * 2^e)` is within a half of `n`, a tie
going to `n` only when `n` is even. -/
theorem roundScaled_eq {num den : Nat} (hden : 0 < den) (e : Int) {n : Nat}
    (hlo : (n : ℚ) - 1 / 2 ≤ num / (den * 2 ^ e)) (hhi : (num / (den * 2 ^ e) : ℚ) ≤ n + 1 / 2)
    (htie_lo : (num / (den * 2 ^ e) : ℚ) = n - 1 / 2 → n % 2 = 0)
    (htie_hi : (num / (den * 2 ^ e) : ℚ) = n + 1 / 2 → n % 2 = 0) :
    roundScaled num den e = n := by
  -- both branches read the quotient as `N / D` with `D > 0`
  obtain ⟨N, D, hD, hratio, hround⟩ : ∃ N D : Nat, 0 < D ∧
      (num / (den * 2 ^ e) : ℚ) = N / D ∧ roundScaled num den e = halfEven N D := by
    rw [roundScaled_eq_halfEven]
    split
    · rename_i he
      refine ⟨num, den * 2 ^ e.toNat, by positivity, ?_, rfl⟩
      push_cast
      rw [← zpow_natCast, Int.toNat_of_nonneg he]
    · rename_i he
      obtain ⟨j, rfl⟩ : ∃ j : Nat, e = -(j : Int) := ⟨(-e).toNat, by omega⟩
      refine ⟨num * 2 ^ j, den, hden, ?_, by simp⟩
      rw [zpow_neg, zpow_natCast]
      push_cast
      field_simp
  rw [hround]
  have hD' : (0 : ℚ) < D := by exact_mod_cast hD
  rw [hratio] at hlo hhi htie_lo htie_hi
  apply halfEven_eq hD
  · have : ((2 * n * D : Nat) : ℚ) ≤ (2 * N + D : Nat) := by
      push_cast
      rw [le_div_iff₀ hD'] at hlo
      linarith
    exact_mod_cast this
  · have : ((2 * N : Nat) : ℚ) ≤ ((2 * n + 1) * D : Nat) := by
      push_cast
      rw [div_le_iff₀ hD'] at hhi
      linarith
    exact_mod_cast this
  · intro h
    apply htie_lo
    rw [div_eq_iff hD'.ne']
    have : ((2 * n * D : Nat) : ℚ) = (2 * N + D : Nat) := by exact_mod_cast h
    push_cast at this
    linarith
  · intro h
    apply htie_hi
    rw [div_eq_iff hD'.ne']
    have : ((2 * N : Nat) : ℚ) = ((2 * n + 1) * D : Nat) := by exact_mod_cast h
    push_cast at this
    linarith

theorem fraction_lt (x : Binary64) : x.fraction < hiddenBit :=
  Nat.mod_lt _ (by decide)

theorem exponentField_lt (x : Binary64) : x.exponentField < 2048 :=
  Nat.mod_lt _ (by decide)

/-- A pattern is its sign, exponent field and fraction put back together. -/
theorem ofFields_fields (x : Binary64) : ofFields x.isNegative x.exponentField x.fraction = x := by
  obtain ⟨bits⟩ := x
  have hlt : bits.toNat < 18446744073709551616 := bits.toNat_lt
  unfold ofFields isNegative exponentField fraction hiddenBit
  congr 1
  apply UInt64.toNat.inj
  rw [UInt64.toNat_ofNat']
  by_cases hs : 9223372036854775808 ≤ bits.toNat <;> simp [hs] <;> omega

/-- The two shapes of a finite pattern: below the normal range the fraction is the mantissa at
exponent `-1074`; in it the hidden bit is added and the field sets the exponent. -/
theorem classify_eq_finite {x : Binary64} {m : Nat} {e : Int} (h : x.classify = .finite m e) :
    (x.exponentField = 0 ∧ m = x.fraction ∧ e = -1074) ∨
      (0 < x.exponentField ∧ x.exponentField < 2047 ∧ m = x.fraction + hiddenBit ∧
        e = (x.exponentField : Int) - 1075) := by
  unfold classify at h
  have hfield := exponentField_lt x
  split at h
  · split at h <;> cases h
  · split at h
    · rename_i h0
      cases h
      exact .inl ⟨h0, rfl, rfl⟩
    · rename_i h0
      cases h
      exact .inr ⟨by omega, by omega, rfl, rfl⟩

/-- The part of the gap below a finite magnitude `m * 2^e` that rounds up to it, in units of
`2^e`, as the shortest-digit search takes it: a quarter when `m` is the hidden bit alone, whose
lower neighbour is half as far away, and a half otherwise. -/
def lowerGap (m : Nat) : ℚ := if m = hiddenBit then 1 / 4 else 1 / 2

theorem lowerGap_le (m : Nat) : lowerGap m ≤ 1 / 2 := by
  unfold lowerGap
  split <;> norm_num

theorem roundRatio_of_pos {num den : Nat} (hnum : 0 < num) (hden : 0 < den) (negative : Bool) :
    roundRatio negative num den =
      let e := max (floorLog2Ratio num den - 52) (-1074)
      let q := roundScaled num den e
      let (q, e) := if q = 2 * hiddenBit then (hiddenBit, e + 1) else (q, e)
      if q < hiddenBit then ofFields negative 0 q
      else if 2047 ≤ e + 1075 then infinity negative
      else ofFields negative (e + 1075).toNat (q - hiddenBit) := by
  unfold roundRatio
  rw [if_neg (by simp; omega)]

/-- A pattern is rebuilt from any fields equal to its own. -/
theorem ofFields_eq_of_fields {x : Binary64} {negative : Bool} {field fraction : Nat}
    (hs : negative = x.isNegative) (hf : field = x.exponentField) (hm : fraction = x.fraction) :
    ofFields negative field fraction = x := by
  subst hs hf hm
  exact ofFields_fields x

theorem hiddenBit_cast : (hiddenBit : ℚ) = 2 ^ 52 := by norm_num [hiddenBit]

/-! ### The quotient in units of a gap

From here on the quotient `num / den` is measured in units of `2^e`, as `roundScaled num den e`
reads it: `num / (den * 2^e)`. A rounding interval around `m * 2^e` is then one around `m`, the
binary logarithm is read off the binade of the scaled quotient, and what is left of
`roundRatio` is how it packs the rounded mantissa. -/

section Scaled

variable {num den : Nat}

theorem div_eq_scaled_mul (e : Int) : (num / den : ℚ) = num / (den * 2 ^ e) * 2 ^ e := by
  rw [← div_div, div_mul_cancel₀ _ (zpow_ne_zero e two_ne_zero)]

/-- One exponent lower, the scaled quotient doubles. -/
theorem scaled_sub_one (e : Int) :
    (num / (den * 2 ^ (e - 1)) : ℚ) = 2 * (num / (den * 2 ^ e)) := by
  rw [zpow_sub_one₀ two_ne_zero]
  field_simp

/-- A scaled quotient of at least `2^j` puts the binary logarithm at `e + j` or above. -/
theorem add_le_floorLog2Ratio (hnum : 0 < num) (hden : 0 < den) {e : Int} {j : Nat}
    (h : (2 : ℚ) ^ j ≤ num / (den * 2 ^ e)) : e + j ≤ floorLog2Ratio num den := by
  obtain ⟨-, hhi⟩ := floorLog2Ratio_spec hnum hden
  by_contra hlt
  have hpow : (2 : ℚ) ^ (floorLog2Ratio num den + 1) ≤ 2 ^ (e + j) :=
    zpow_le_zpow_right₀ one_le_two (by omega)
  rw [zpow_add₀ two_ne_zero e, zpow_natCast] at hpow
  have hscaled : 2 ^ j * 2 ^ e ≤ (num / den : ℚ) := by
    rw [div_eq_scaled_mul e]
    exact mul_le_mul_of_nonneg_right h (by positivity)
  linarith

/-- A scaled quotient below `2^j` puts the binary logarithm below `e + j`. -/
theorem floorLog2Ratio_lt_add (hnum : 0 < num) (hden : 0 < den) {e : Int} {j : Nat}
    (h : (num / (den * 2 ^ e) : ℚ) < 2 ^ j) : floorLog2Ratio num den < e + j := by
  obtain ⟨hlo, -⟩ := floorLog2Ratio_spec hnum hden
  by_contra hle
  have hpow : (2 : ℚ) ^ (e + j) ≤ 2 ^ floorLog2Ratio num den :=
    zpow_le_zpow_right₀ one_le_two (by omega)
  rw [zpow_add₀ two_ne_zero e, zpow_natCast] at hpow
  have hscaled : (num / den : ℚ) < 2 ^ j * 2 ^ e := by
    rw [div_eq_scaled_mul e]
    exact mul_lt_mul_of_pos_right h (by positivity)
  linarith

/-! The three shapes in which `roundRatio` packs the mantissa `q` it rounded to at the exponent
`e` it picked: below the hidden bit a subnormal, up to twice the hidden bit a normal pattern,
and twice the hidden bit itself carried into the next exponent. -/

theorem roundRatio_eq_subnormal (hnum : 0 < num) (hden : 0 < den) {e : Int} {q : Nat}
    (hexp : max (floorLog2Ratio num den - 52) (-1074) = e) (hq : roundScaled num den e = q)
    (hq_lt : q < hiddenBit) : roundRatio false num den = ofFields false 0 q := by
  rw [roundRatio_of_pos hnum hden]
  simp only [hexp, hq, show q ≠ 2 * hiddenBit by omega, if_false, hq_lt, if_true]

theorem roundRatio_eq_normal (hnum : 0 < num) (hden : 0 < den) {e : Int} {q : Nat}
    (hexp : max (floorLog2Ratio num den - 52) (-1074) = e) (hq : roundScaled num den e = q)
    (hq_lo : hiddenBit ≤ q) (hq_hi : q < 2 * hiddenBit) (hfield : e + 1075 < 2047) :
    roundRatio false num den = ofFields false (e + 1075).toNat (q - hiddenBit) := by
  rw [roundRatio_of_pos hnum hden]
  simp only [hexp, hq, show q ≠ 2 * hiddenBit by omega, show ¬ q < hiddenBit by omega,
    show ¬ 2047 ≤ e + 1075 by omega, if_false]

theorem roundRatio_eq_carry (hnum : 0 < num) (hden : 0 < den) {e : Int}
    (hexp : max (floorLog2Ratio num den - 52) (-1074) = e)
    (hq : roundScaled num den e = 2 * hiddenBit) (hfield : e + 1076 < 2047) :
    roundRatio false num den = ofFields false (e + 1076).toNat 0 := by
  rw [roundRatio_of_pos hnum hden]
  simp only [hexp, hq, if_true, show ¬ hiddenBit < hiddenBit by omega,
    show ¬ 2047 ≤ e + 1 + 1075 by omega, if_false, Nat.sub_self]
  congr 1
  omega

/-- A quotient up to a quarter unit below the binade `[2^52, 2^53)` of a normal exponent `e`
rounds up to the power of two that starts it. At the least normal exponent the rounding happens
there; above it the exponent picked is one lower, and the mantissa rounds up to twice the
hidden bit, which carries back into `e`. -/
theorem roundRatio_below_binade (hnum : 0 < num) (hden : 0 < den) {e : Int}
    (he_lo : -1074 ≤ e) (he_hi : e + 1075 < 2047)
    (hlo : (2 : ℚ) ^ 52 - 1 / 4 ≤ num / (den * 2 ^ e))
    (hhi : (num / (den * 2 ^ e) : ℚ) < 2 ^ 52) :
    roundRatio false num den = ofFields false (e + 1075).toNat 0 := by
  have hk_hi := floorLog2Ratio_lt_add hnum hden hhi
  rcases eq_or_lt_of_le he_lo with rfl | he_lt
  · -- the least normal exponent: no lower exponent to pick
    have hexp : max (floorLog2Ratio num den - 52) (-1074) = -1074 := by omega
    have hq : roundScaled num den (-1074) = hiddenBit := by
      apply roundScaled_eq hden
      · rw [hiddenBit_cast]; linarith
      · rw [hiddenBit_cast]; linarith
      · exact fun _ => by decide
      · exact fun _ => by decide
    rw [roundRatio_eq_normal hnum hden hexp hq le_rfl (by decide) he_hi, Nat.sub_self]
  · -- one exponent lower the scaled quotient doubles, to within half a unit of `2^53`
    have hk_lo : e + (51 : Nat) ≤ floorLog2Ratio num den :=
      add_le_floorLog2Ratio hnum hden (by linarith)
    have hexp : max (floorLog2Ratio num den - 52) (-1074) = e - 1 := by omega
    have hq : roundScaled num den (e - 1) = 2 * hiddenBit := by
      have htwo : ((2 * hiddenBit : Nat) : ℚ) = 2 * 2 ^ 52 := by
        push_cast
        rw [hiddenBit_cast]
      apply roundScaled_eq hden
      · rw [scaled_sub_one, htwo]; linarith
      · rw [scaled_sub_one, htwo]; linarith
      · exact fun _ => by decide
      · exact fun _ => by decide
    rw [roundRatio_eq_carry hnum hden hexp hq (by omega), show e - 1 + 1076 = e + 1075 by ring]

end Scaled

/-- Every quotient within the rounding interval of a finite positive pattern rounds to it. The
interval reaches half a gap above the magnitude `m * 2^e` and `lowerGap m` below, and its ends
belong to it only for an even `m`, so that a tie goes to the even mantissa. -/
theorem roundRatio_eq_of_near {x : Binary64} (hneg : x.isNegative = false) {m : Nat} {e : Int}
    (hx : x.classify = .finite m e) (hm : 0 < m) {num den : Nat} (hnum : 0 < num)
    (hden : 0 < den)
    (hlo : ((m : ℚ) - lowerGap m) * 2 ^ e ≤ num / den)
    (hhi : (num / den : ℚ) ≤ (m + 1 / 2) * 2 ^ e)
    (hlo_tie : ((m : ℚ) - lowerGap m) * 2 ^ e = num / den → m % 2 = 0)
    (hhi_tie : (num / den : ℚ) = (m + 1 / 2) * 2 ^ e → m % 2 = 0) :
    roundRatio false num den = x := by
  -- in units of `2^e` the interval is one around `m`
  have hpow : (0 : ℚ) < 2 ^ e := by positivity
  rw [div_eq_scaled_mul e, mul_le_mul_iff_of_pos_right hpow] at hlo hhi
  rw [div_eq_scaled_mul e, mul_left_inj' hpow.ne'] at hlo_tie hhi_tie
  have hgap := lowerGap_le m
  have hfrac := fraction_lt x
  rcases classify_eq_finite hx with ⟨hfield, rfl, rfl⟩ | ⟨hfield_pos, hfield_lt, rfl, he⟩
  · -- below the normal range the exponent stays at `-1074`
    have hlow : lowerGap x.fraction = 1 / 2 := by simp [lowerGap, Nat.ne_of_lt hfrac]
    rw [hlow] at hlo hlo_tie
    have hsmall : (num / (den * 2 ^ (-1074 : Int)) : ℚ) < 2 ^ 52 := by
      have : (x.fraction : ℚ) + 1 ≤ 2 ^ 52 := by
        rw [← hiddenBit_cast]
        exact_mod_cast hfrac
      linarith
    have hexp : max (floorLog2Ratio num den - 52) (-1074) = -1074 := by
      have := floorLog2Ratio_lt_add hnum hden hsmall
      omega
    have hq := roundScaled_eq hden (-1074) hlo hhi (fun h => hlo_tie h.symm) hhi_tie
    rw [roundRatio_eq_subnormal hnum hden hexp hq hfrac]
    exact ofFields_eq_of_fields hneg.symm hfield.symm rfl
  · by_cases hbinade : (2 : ℚ) ^ 52 ≤ num / (den * 2 ^ e)
    · -- in the binade of `x` the exponent is `e`, and a lower tie needs a gap of a half
      have hbelow : (num / (den * 2 ^ e) : ℚ) < 2 ^ 53 := by
        have : ((x.fraction + hiddenBit : Nat) : ℚ) + 1 ≤ 2 ^ 53 := by
          have h2 : ((2 * hiddenBit : Nat) : ℚ) = 2 ^ 53 := by norm_num [hiddenBit]
          rw [← h2]
          exact_mod_cast (show x.fraction + hiddenBit + 1 ≤ 2 * hiddenBit by omega)
        linarith
      have hexp : max (floorLog2Ratio num den - 52) (-1074) = e := by
        have := add_le_floorLog2Ratio hnum hden hbinade
        have := floorLog2Ratio_lt_add hnum hden hbelow
        omega
      have hq : roundScaled num den e = x.fraction + hiddenBit := by
        apply roundScaled_eq hden e (by linarith) hhi _ hhi_tie
        intro htie
        exact hlo_tie (by linarith)
      rw [roundRatio_eq_normal hnum hden hexp hq (by omega) (by omega) (by omega)]
      exact ofFields_eq_of_fields hneg.symm (by omega) (by omega)
    · -- below the binade only the hidden bit alone reaches, by a quarter of a unit
      have hfrac0 : x.fraction = 0 := by
        by_contra hne
        have : (2 : ℚ) ^ 52 + 1 ≤ ((x.fraction + hiddenBit : Nat) : ℚ) := by
          rw [← hiddenBit_cast]
          exact_mod_cast (show hiddenBit + 1 ≤ x.fraction + hiddenBit by omega)
        exact hbinade (by linarith)
      rw [hfrac0, Nat.zero_add, show lowerGap hiddenBit = 1 / 4 by simp [lowerGap],
        hiddenBit_cast] at hlo
      rw [roundRatio_below_binade hnum hden (by omega) (by omega) hlo (lt_of_not_ge hbinade)]
      exact ofFields_eq_of_fields hneg.symm (by omega) hfrac0.symm

end PromRules.Binary64
