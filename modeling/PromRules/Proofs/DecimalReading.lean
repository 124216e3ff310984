import Mathlib
import PromRules.Proofs.Rounding
import PromRules.Proofs.ShortestDigits

/-!
Decimals that read back.

A decimal `D * 10^T` that lies in the rounding interval of a finite positive pattern, with
`T ≥ -1074`, is rounded by `ofDecimal` to that pattern (`ofDecimal_eq_of_contains`). Two
decimals meet that condition for every such pattern: its shortest digits (`shortest_spec`), and
the exact value of a whole number. The bound on `T` keeps the decimal off the midpoints below
the normal range, which are odd multiples of `2^-1075`; it also keeps `ofDecimal`'s cutoffs
for far exponents out of the way.
-/

namespace PromRules.Number

open Binary64

/-- A decimal whose exponent is at least `-1074` is never an odd multiple of `2^-1075`: it
cannot sit on the midpoint between two values below the normal range. -/
theorem decimal_ne_odd_half (d : Nat) {t : Int} (ht : -1074 ≤ t) (k : Nat) :
    (d : ℚ) * 10 ^ t ≠ (2 * k + 1 : Nat) * 2 ^ (-1075 : Int) := by
  intro h
  rw [show (-1075 : Int) = -((1075 : Nat) : Int) from rfl, zpow_neg, zpow_natCast,
    ← div_eq_mul_inv, eq_div_iff (by positivity)] at h
  rcases le_or_gt 0 t with hpos | hneg
  · obtain ⟨j, rfl⟩ := Int.eq_ofNat_of_zero_le hpos
    rw [zpow_natCast] at h
    have hnat : d * 10 ^ j * (2 ^ 1074 * 2) = 2 * k + 1 := by
      rw [← pow_succ]
      exact_mod_cast h
    omega
  · obtain ⟨j, hj⟩ : ∃ j : Nat, t = -(j : Int) := ⟨(-t).toNat, by omega⟩
    have hj_le : j ≤ 1074 := by omega
    rw [hj, zpow_neg, zpow_natCast] at h
    -- clear the power of ten: `d * 2^1075 = (2k+1) * 2^j * 5^j`, then cancel `2^j`
    have hnat : d * 2 ^ (1075 - j) * 2 ^ j = (2 * k + 1) * 5 ^ j * 2 ^ j := by
      have h' : (d : ℚ) * 2 ^ 1075 = (2 * k + 1 : Nat) * 10 ^ j := by
        field_simp at h
        linarith
      rw [mul_assoc, ← pow_add, Nat.sub_add_cancel (by omega), mul_assoc, ← mul_pow]
      exact_mod_cast h'
    have hcancel := Nat.eq_of_mul_eq_mul_right (by positivity) hnat
    have heven : 2 ∣ d * 2 ^ (1075 - j) :=
      Dvd.dvd.mul_left (dvd_pow_self 2 (by omega)) d
    have hodd : ¬ 2 ∣ (2 * k + 1) * 5 ^ j := by
      rw [Nat.Prime.dvd_mul Nat.prime_two]
      rintro (h2 | h5)
      · omega
      · exact absurd (Nat.Prime.dvd_of_dvd_pow Nat.prime_two h5) (by decide)
    exact hodd (hcancel ▸ heven)

theorem interval_low_eq {m : Nat} (hm : 0 < m) (e : Int) :
    ((interval m).low : ℚ) * 2 ^ (e - 2) = (m - lowerGap m) * 2 ^ e := by
  rw [zpow_sub₀ two_ne_zero]
  unfold interval lowerGap
  split <;> rename_i h <;> simp only [h] <;>
    rw [Nat.cast_sub (by omega)] <;> push_cast <;> ring

theorem interval_high_eq (m : Nat) (e : Int) :
    ((interval m).high : ℚ) * 2 ^ (e - 2) = (m + 1 / 2) * 2 ^ e := by
  rw [zpow_sub₀ two_ne_zero]
  unfold interval
  split <;> push_cast <;> ring

theorem interval_inclusive {m : Nat} (h : (interval m).inclusive = true) :
    m % 2 = 0 ∨ m < hiddenBit := by
  unfold interval at h
  split at h
  · rename_i hm
    left
    rw [hm]
    rfl
  · simp only [Bool.or_eq_true, decide_eq_true_eq, beq_iff_eq] at h
    omega

theorem exponent_of_lt_hiddenBit {x : Binary64} {m : Nat} {e : Int}
    (hx : x.classify = .finite m e) (h : m < hiddenBit) : e = -1074 := by
  rcases classify_eq_finite hx with ⟨-, -, he⟩ | ⟨-, -, hm, -⟩
  · exact he
  · omega

/-- A decimal on an end of an interval whose ends belong to it has an even mantissa: an odd
one keeps its ends only below the normal range, where no decimal reaches them. -/
theorem mantissa_even_of_tie {x : Binary64} {m : Nat} {e : Int} (hx : x.classify = .finite m e)
    (hinc : (interval m).inclusive = true) {d : Nat} {t : Int} (ht : -1074 ≤ t) (k : Nat)
    (htie : (d : ℚ) * 10 ^ t = (2 * k + 1 : Nat) * 2 ^ (e - 1)) : m % 2 = 0 := by
  rcases interval_inclusive hinc with heven | hsub
  · exact heven
  · have he := exponent_of_lt_hiddenBit hx hsub
    subst he
    exact absurd htie (decimal_ne_odd_half d ht k)

/-- A quotient whose value is a decimal in the rounding interval of a finite positive pattern
rounds to that pattern. -/
theorem roundRatio_eq_of_contains {x : Binary64} (hneg : x.isNegative = false) {m : Nat}
    {e : Int} (hx : x.classify = .finite m e) (hm : 0 < m) {num den d : Nat} {t : Int}
    (hnum : 0 < num) (hden : 0 < den) (hvalue : (num / den : ℚ) = d * 10 ^ t)
    (ht : -1074 ≤ t) (hin : (interval m).Contains (e - 2) (d * 10 ^ t)) :
    roundRatio false num den = x := by
  have hlow_le := hin.low_le
  have hhigh_le := hin.le_high
  obtain ⟨hlow, hhigh⟩ := hin
  rw [interval_low_eq hm, ← hvalue] at hlow hlow_le
  rw [interval_high_eq, ← hvalue] at hhigh hhigh_le
  have hhalf : (2 : ℚ) ^ e = 2 * 2 ^ (e - 1) := by
    rw [zpow_sub₀ two_ne_zero, zpow_one]
    ring
  apply roundRatio_eq_of_near hneg hx hm hnum hden hlow_le hhigh_le
  · -- the lower end: a tie below an odd mantissa, half a gap down
    intro heq
    rcases hlow with h | ⟨hinc, -⟩
    · exact absurd heq h.ne
    · by_contra hodd
      have hgap : lowerGap m = 1 / 2 := by
        have : m ≠ hiddenBit := fun h => hodd (by rw [h]; rfl)
        simp [lowerGap, this]
      apply hodd
      apply mantissa_even_of_tie hx hinc ht (m - 1)
      rw [← hvalue, ← heq, hgap, hhalf, Nat.cast_add, Nat.cast_mul, Nat.cast_sub (by omega)]
      push_cast
      ring
  · -- the upper end: a tie above, half a gap up
    intro heq
    rcases hhigh with h | ⟨hinc, -⟩
    · exact absurd heq h.ne
    · apply mantissa_even_of_tie hx hinc ht m
      rw [← hvalue, heq, hhalf]
      push_cast
      ring

theorem classify_bounds {x : Binary64} {m : Nat} {e : Int} (hx : x.classify = .finite m e) :
    m < 2 * hiddenBit ∧ -1074 ≤ e ∧ e ≤ 971 := by
  have hfrac := fraction_lt x
  rcases classify_eq_finite hx with ⟨-, rfl, rfl⟩ | ⟨hpos, hlt, rfl, rfl⟩ <;> omega

theorem pow_length_toDigits_bounds {D : Nat} (hD : 0 < D) :
    10 ^ ((Nat.toDigits 10 D).length - 1) ≤ D ∧ D < 10 ^ (Nat.toDigits 10 D).length := by
  have hpos := Nat.length_toDigits_pos (b := 10) (n := D)
  refine ⟨?_, (Nat.length_toDigits_le_iff (by norm_num) hpos).1 le_rfl⟩
  rcases Nat.lt_or_ge 1 (Nat.toDigits 10 D).length with hlong | hshort
  · by_contra hlt
    have := (Nat.length_toDigits_le_iff (b := 10) (n := D) (by norm_num) (by omega)).2
      (Nat.lt_of_not_le hlt)
    omega
  · rw [show (Nat.toDigits 10 D).length - 1 = 0 by omega, pow_zero]
    exact hD

/-- Everything in the rounding interval of a finite positive pattern is at least `2^-1075`,
half the least subnormal. -/
theorem contains_ge_min {x : Binary64} {m : Nat} {e : Int} (hx : x.classify = .finite m e)
    (hm : 0 < m) {v : ℚ} (hin : (interval m).Contains (e - 2) v) : (2 : ℚ) ^ (-1075 : Int) ≤ v := by
  obtain ⟨-, he_lo, -⟩ := classify_bounds hx
  have hlow := hin.low_le
  rw [interval_low_eq hm] at hlow
  have hgap := lowerGap_le m
  have hm1 : (1 : ℚ) ≤ m := by exact_mod_cast hm
  calc (2 : ℚ) ^ (-1075 : Int) = 1 / 2 * 2 ^ (-1074 : Int) := by
        rw [show (-1075 : Int) = -1074 - 1 by norm_num, zpow_sub₀ two_ne_zero, zpow_one]
        ring
    _ ≤ (m - lowerGap m) * 2 ^ e :=
        mul_le_mul (by linarith) (zpow_le_zpow_right₀ one_le_two he_lo) (by positivity)
          (by linarith)
    _ ≤ v := hlow

/-- Everything in the rounding interval of a finite positive pattern is below `2^1024`, where
the infinities begin. -/
theorem contains_lt_max {x : Binary64} {m : Nat} {e : Int} (hx : x.classify = .finite m e)
    {v : ℚ} (hin : (interval m).Contains (e - 2) v) : v < 2 ^ (1024 : Int) := by
  obtain ⟨hm53, -, he_hi⟩ := classify_bounds hx
  have hhigh := hin.le_high
  rw [interval_high_eq] at hhigh
  have hm' : (m : ℚ) + 1 / 2 < 2 ^ 53 := by
    have : (m : ℚ) + 1 ≤ 2 ^ 53 := by
      have h2 : ((2 * hiddenBit : Nat) : ℚ) = 2 ^ 53 := by norm_num [hiddenBit]
      rw [← h2]
      exact_mod_cast hm53
    linarith
  calc v ≤ (m + 1 / 2 : ℚ) * 2 ^ e := hhigh
    _ < 2 ^ 53 * 2 ^ (971 : Int) :=
        mul_lt_mul hm' (zpow_le_zpow_right₀ one_le_two he_hi) (by positivity) (by positivity)
    _ = 2 ^ (1024 : Int) := by
        rw [← zpow_natCast, ← zpow_add₀ two_ne_zero]
        norm_num

/-- A decimal `D * 10^T` below `2^1024` passes the upper cutoff of `ofDecimal`: its digit count
and exponent add up to at most `310`. -/
theorem width_add_le_of_lt {D : Nat} (hD : 0 < D) {T : Int}
    (h : (D : ℚ) * 10 ^ T < 2 ^ (1024 : Int)) : ((Nat.toDigits 10 D).length : Int) + T ≤ 310 := by
  obtain ⟨hW_lo, -⟩ := pow_length_toDigits_bounds hD
  set W := (Nat.toDigits 10 D).length
  have hWpos : 0 < W := Nat.length_toDigits_pos
  by_contra hbig
  have hten : (10 : ℚ) ^ (310 : Int) ≤ D * 10 ^ T := by
    calc (10 : ℚ) ^ (310 : Int) ≤ 10 ^ ((W - 1 : Nat) + T) :=
          zpow_le_zpow_right₀ (by norm_num) (by omega)
      _ = (10 ^ (W - 1) : Nat) * 10 ^ T := by
          rw [zpow_add₀ (by norm_num), zpow_natCast]
          push_cast
          ring
      _ ≤ D * 10 ^ T := by gcongr
  have hlim : (2 : ℚ) ^ (1024 : Int) ≤ 10 ^ (310 : Int) := by
    have : (2 : Nat) ^ 1024 ≤ 10 ^ 310 := by decide +kernel
    exact_mod_cast this
  exact absurd (hten.trans_lt h) (not_lt.2 hlim)

/-- A decimal `D * 10^T` of at least `2^-1075` passes the lower cutoff of `ofDecimal`: its digit
count and exponent add up to at least `-330`. -/
theorem width_add_ge_of_le {D : Nat} {T : Int} (h : (2 : ℚ) ^ (-1075 : Int) ≤ D * 10 ^ T) :
    -330 ≤ ((Nat.toDigits 10 D).length : Int) + T := by
  set W := (Nat.toDigits 10 D).length
  have hW : D < 10 ^ W := (Nat.length_toDigits_le_iff (by norm_num) Nat.length_toDigits_pos).1 le_rfl
  by_contra hsmall
  have hten : (D : ℚ) * 10 ^ T < 10 ^ (-330 : Int) := by
    calc (D : ℚ) * 10 ^ T < (10 ^ W : Nat) * 10 ^ T := by gcongr
      _ = 10 ^ ((W : Int) + T) := by
          rw [zpow_add₀ (by norm_num), zpow_natCast]
          push_cast
          ring
      _ ≤ 10 ^ (-330 : Int) := zpow_le_zpow_right₀ (by norm_num) (by omega)
  have hlim : (10 : ℚ) ^ (-330 : Int) ≤ 2 ^ (-1075 : Int) := by
    rw [show (-330 : Int) = -((330 : Nat) : Int) from rfl,
      show (-1075 : Int) = -((1075 : Nat) : Int) from rfl, zpow_neg, zpow_neg, zpow_natCast,
      zpow_natCast]
    apply inv_anti₀ (by positivity)
    have : (2 : Nat) ^ 1075 ≤ 10 ^ 330 := by decide +kernel
    exact_mod_cast this
  exact absurd (hten.trans_le hlim) (not_lt.2 h)

/-- A decimal `D * 10^T` in the rounding interval of a finite positive pattern, with
`T ≥ -1074`, reads back as that pattern: it is far from both of the cutoffs of `ofDecimal`. -/
theorem ofDecimal_eq_of_contains {x : Binary64} (hneg : x.isNegative = false) {m : Nat}
    {e : Int} (hx : x.classify = .finite m e) (hm : 0 < m) {D : Nat} {T : Int} (hD : 0 < D)
    (hT : -1074 ≤ T) (hin : (interval m).Contains (e - 2) (D * 10 ^ T)) :
    ofDecimal false D T = x := by
  have hcut_hi : ¬ (310 < ((Nat.toDigits 10 D).length : Int) + T) :=
    not_lt.2 (width_add_le_of_lt hD (contains_lt_max hx hin))
  have hcut_lo : ¬ (((Nat.toDigits 10 D).length : Int) + T < -330) :=
    not_lt.2 (width_add_ge_of_le (contains_ge_min hx hm hin))
  unfold ofDecimal
  simp only [show D ≠ 0 by omega, if_false, hcut_hi, hcut_lo]
  split
  · rename_i hpos
    apply roundRatio_eq_of_contains hneg hx hm (by rw [natPow_eq]; positivity) one_pos _ hT hin
    rw [natPow_eq, Nat.cast_mul, Nat.cast_pow, ← zpow_natCast, Int.toNat_of_nonneg hpos]
    simp
  · rename_i hneg'
    apply roundRatio_eq_of_contains hneg hx hm hD (by rw [natPow_eq]; positivity) _ hT hin
    rw [natPow_eq, Nat.cast_pow, ← zpow_natCast, Int.toNat_of_nonneg (by omega), zpow_neg,
      div_inv_eq_mul]
    norm_num

theorem interval_contains_value {m : Nat} (hm : 0 < m) (e : Int) :
    (interval m).Contains (e - 2) (m * 2 ^ e) := by
  have hgap : 0 < lowerGap m := by
    unfold lowerGap
    split <;> norm_num
  have hpow : (0 : ℚ) < 2 ^ e := by positivity
  refine ⟨Or.inl ?_, Or.inl ?_⟩
  · rw [interval_low_eq hm]
    exact mul_lt_mul_of_pos_right (by linarith) hpow
  · rw [interval_high_eq]
    exact mul_lt_mul_of_pos_right (by linarith) hpow

/-- A decimal equal to the value of a finite positive pattern reads back as the pattern. -/
theorem ofDecimal_eq_of_value {x : Binary64} (hneg : x.isNegative = false) {m : Nat} {e : Int}
    (hx : x.classify = .finite m e) (hm : 0 < m) {D : Nat} {T : Int} (hD : 0 < D)
    (hT : -1074 ≤ T) (hvalue : (D : ℚ) * 10 ^ T = m * 2 ^ e) :
    ofDecimal false D T = x :=
  ofDecimal_eq_of_contains hneg hx hm hD hT (hvalue ▸ interval_contains_value hm e)

theorem shortest_pos {m : Nat} {e : Int} (hm : 0 < m) (hm53 : m < 2 * hiddenBit)
    (he : -1074 ≤ e) (he' : e ≤ 971) : 0 < (shortest m e).1 := by
  obtain ⟨hin, -⟩ := shortest_spec hm hm53 he he'
  have hlow := hin.low_le
  rw [interval_low_eq hm] at hlow
  have hgap := lowerGap_le m
  have hm1 : (1 : ℚ) ≤ m := by exact_mod_cast hm
  have hbelow : (0 : ℚ) < (m - lowerGap m) * 2 ^ e :=
    mul_pos (by linarith) (by positivity)
  by_contra hzero
  rw [Nat.eq_zero_of_not_pos hzero, Nat.cast_zero, zero_mul] at hlow
  linarith

/-- A decimal equal in value to the shortest digits of a finite positive pattern reads back as
the pattern. -/
theorem ofDecimal_eq_of_shortest {x : Binary64} (hneg : x.isNegative = false) {m : Nat}
    {e : Int} (hx : x.classify = .finite m e) (hm : 0 < m) {D : Nat} {T : Int} (hD : 0 < D)
    (hT : -1074 ≤ T)
    (hvalue : (D : ℚ) * 10 ^ T = (shortest m e).1 * 10 ^ (shortest m e).2) :
    ofDecimal false D T = x := by
  obtain ⟨hm53, he_lo, he_hi⟩ := classify_bounds hx
  obtain ⟨hin, -⟩ := shortest_spec hm hm53 he_lo he_hi
  exact ofDecimal_eq_of_contains hneg hx hm hD hT (hvalue ▸ hin)

end PromRules.Number
