import Mathlib
import PromRules.Number.Shortest

/-!
The shortest digits of a binary64 value lie in its rounding interval.

`shortest m e` searches the grids of `1, 2, …, 17` significant digits below the power of ten
`floorLog10` gives, and takes the first grid on which a neighbour of `m * 2^e` lies in the
value's rounding interval (`Interval.Contains`, the ℚ reading of `Interval.admits`). The search
cannot run out: the interval is wider than a step of the grid of seventeen digits
(`interval_width`, `pow_floorLog10_le`), so on that grid one of the two neighbours lies in it
(`pickOnGrid_isSome`). Dropping trailing zeros keeps the value (`stripZeros_spec`). The main
statement is `shortest_spec`.
-/

namespace PromRules.Number

/-- A power with an integer exponent, split into the natural powers `compareScaled` multiplies
out: `b^t * b^(-t)⁺ = b^t⁺`. -/
theorem zpow_mul_pow_toNat_neg {b : ℚ} (hb : b ≠ 0) (t : Int) :
    b ^ t * b ^ (-t).toNat = b ^ t.toNat := by
  rw [← zpow_natCast, ← zpow_natCast, ← zpow_add₀ hb]
  congr 1
  omega

theorem natPow_eq (b k : Nat) : Nat.pow b k = b ^ k := rfl

/-- `compareScaled` compares `a * 10^t` with `b * 2^s` exactly. -/
theorem compareScaled_eq (a : Nat) (t : Int) (b : Nat) (s : Int) :
    compareScaled a t b s = compare ((a : ℚ) * 10 ^ t) ((b : ℚ) * 2 ^ s) := by
  unfold compareScaled
  set c : ℚ := 10 ^ (-t).toNat * 2 ^ (-s).toNat
  have hc : 0 < c := by positivity
  have hx : ((a * Nat.pow 10 t.toNat * Nat.pow 2 (-s).toNat : Nat) : ℚ) = a * 10 ^ t * c := by
    simp only [natPow_eq, c]
    push_cast
    rw [← zpow_mul_pow_toNat_neg (by norm_num : (10 : ℚ) ≠ 0) t]
    ring
  have hy : ((b * Nat.pow 2 s.toNat * Nat.pow 10 (-t).toNat : Nat) : ℚ) = b * 2 ^ s * c := by
    simp only [natPow_eq, c]
    push_cast
    rw [← zpow_mul_pow_toNat_neg (by norm_num : (2 : ℚ) ≠ 0) s]
    ring
  rcases lt_trichotomy ((a : ℚ) * 10 ^ t) ((b : ℚ) * 2 ^ s) with hlt | heq | hgt
  · rw [compare_lt_iff_lt.2 hlt, compare_lt_iff_lt]
    exact_mod_cast (show _ < _ from hx ▸ hy ▸ mul_lt_mul_of_pos_right hlt hc)
  · rw [compare_eq_iff_eq.2 heq, compare_eq_iff_eq]
    exact_mod_cast (show _ = _ from hx ▸ hy ▸ congrArg (· * c) heq)
  · rw [compare_gt_iff_gt.2 hgt, compare_gt_iff_gt]
    exact_mod_cast (show _ < _ from hx ▸ hy ▸ mul_lt_mul_of_pos_right hgt hc)

/-- Whether `x` lies in the interval whose unit is `2^s`: strictly inside, or on an end when the
ends belong to it. -/
def Interval.Contains (iv : Interval) (s : Int) (x : ℚ) : Prop :=
  ((iv.low : ℚ) * 2 ^ s < x ∨ iv.inclusive ∧ (iv.low : ℚ) * 2 ^ s = x) ∧
    (x < (iv.high : ℚ) * 2 ^ s ∨ iv.inclusive ∧ x = (iv.high : ℚ) * 2 ^ s)

theorem Interval.admits_iff (iv : Interval) (c : Nat) (t s : Int) :
    iv.admits c t s = true ↔ iv.Contains s ((c : ℚ) * 10 ^ t) := by
  unfold admits Contains
  rw [compareScaled_eq, compareScaled_eq, Bool.and_eq_true]
  generalize (c : ℚ) * 10 ^ t = x
  generalize (iv.low : ℚ) * 2 ^ s = low
  generalize (iv.high : ℚ) * 2 ^ s = high
  -- each end is a comparison read off one of its three outcomes
  apply and_congr
  · split <;> rename_i h
    · simp only [compare_gt_iff_gt] at h
      simp [h]
    · simp only [compare_eq_iff_eq] at h
      simp [h]
    · simp only [compare_lt_iff_lt] at h
      simp [h.not_gt, h.ne']
  · split <;> rename_i h
    · simp only [compare_lt_iff_lt] at h
      simp [h]
    · simp only [compare_eq_iff_eq] at h
      simp [h]
    · simp only [compare_gt_iff_gt] at h
      simp [h.not_gt, h.ne']

theorem Interval.Contains.low_le {iv : Interval} {s : Int} {x : ℚ} (h : iv.Contains s x) :
    (iv.low : ℚ) * 2 ^ s ≤ x := by
  rcases h.1 with h | ⟨-, h⟩
  · exact h.le
  · exact h.le

theorem Interval.Contains.le_high {iv : Interval} {s : Int} {x : ℚ} (h : iv.Contains s x) :
    x ≤ (iv.high : ℚ) * 2 ^ s := by
  rcases h.2 with h | ⟨-, h⟩
  · exact h.le
  · exact h.le

/-- A picked grid point lies in the interval. -/
theorem pickOnGrid_admits {iv : Interval} {t s : Int} {d : Nat}
    (h : pickOnGrid iv t s = some d) : iv.admits d t s = true := by
  unfold pickOnGrid at h
  simp only at h
  split at h
  · rename_i hboth
    rw [Bool.and_eq_true] at hboth
    split at h <;> (cases h; simp_all)
  · split at h
    · cases h
      assumption
    · split at h
      · cases h
        assumption
      · cases h

/-- The quotient `pickOnGrid` takes is the grid point at or below the value. -/
theorem pickOnGrid_quotient_bounds (iv : Interval) (t s : Int) :
    let q := iv.value * Nat.pow 2 s.toNat * Nat.pow 10 (-t).toNat /
      (Nat.pow 2 (-s).toNat * Nat.pow 10 t.toNat)
    (q : ℚ) * 10 ^ t ≤ iv.value * 2 ^ s ∧ (iv.value : ℚ) * 2 ^ s < (q + 1 : Nat) * 10 ^ t := by
  intro q
  set num := iv.value * Nat.pow 2 s.toNat * Nat.pow 10 (-t).toNat
  set den := Nat.pow 2 (-s).toNat * Nat.pow 10 t.toNat
  set c : ℚ := 2 ^ (-s).toNat * 10 ^ (-t).toNat
  have hc : 0 < c := by positivity
  have hden : 0 < den := by simp only [den, natPow_eq]; positivity
  have hnum_cast : (num : ℚ) = iv.value * 2 ^ s * c := by
    simp only [num, c, natPow_eq]
    push_cast
    rw [← zpow_mul_pow_toNat_neg (by norm_num : (2 : ℚ) ≠ 0) s]
    ring
  have hden_cast : (den : ℚ) = 10 ^ t * c := by
    simp only [den, c, natPow_eq]
    push_cast
    rw [← zpow_mul_pow_toNat_neg (by norm_num : (10 : ℚ) ≠ 0) t]
    ring
  have hlo : q * den ≤ num := Nat.div_mul_le_self num den
  have hhi : num < (q + 1) * den := by
    rw [Nat.add_mul, one_mul]
    exact Nat.lt_div_mul_add hden
  constructor
  · have : ((q * den : Nat) : ℚ) ≤ (num : ℚ) := Nat.cast_le.2 hlo
    rw [Nat.cast_mul q den, hnum_cast, hden_cast] at this
    exact le_of_mul_le_mul_right (by linarith) hc
  · have : (num : ℚ) < (((q + 1) * den : Nat) : ℚ) := Nat.cast_lt.2 hhi
    rw [Nat.cast_mul (q + 1) den, hnum_cast, hden_cast] at this
    exact lt_of_mul_lt_mul_right (by linarith) hc.le

/-- When the grid is finer than the interval is wide and the value lies strictly inside, one
of the value's two neighbours on the grid lies in the interval. -/
theorem pickOnGrid_isSome {iv : Interval} {t s : Int}
    (hlow : (iv.low : ℚ) * 2 ^ s < iv.value * 2 ^ s)
    (hhigh : (iv.value : ℚ) * 2 ^ s < iv.high * 2 ^ s)
    (hstep : (10 : ℚ) ^ t < (iv.high - iv.low : ℚ) * 2 ^ s) :
    (pickOnGrid iv t s).isSome := by
  obtain ⟨hq_lo, hq_hi⟩ := pickOnGrid_quotient_bounds iv t s
  unfold pickOnGrid
  simp only
  set q := iv.value * Nat.pow 2 s.toNat * Nat.pow 10 (-t).toNat /
      (Nat.pow 2 (-s).toNat * Nat.pow 10 t.toNat)
  have hin : iv.admits q t s = true ∨ iv.admits (q + 1) t s = true := by
    rw [Interval.admits_iff, Interval.admits_iff]
    by_cases hbelow : (iv.low : ℚ) * 2 ^ s < q * 10 ^ t
    · -- the point below the value is above the lower end
      exact .inl ⟨.inl hbelow, .inl (lt_of_le_of_lt hq_lo hhigh)⟩
    · -- otherwise the point above is less than one step past the lower end
      refine .inr ⟨.inl (lt_trans hlow hq_hi), .inl ?_⟩
      push_cast at hq_hi ⊢
      nlinarith
  rcases hin with h | h <;> simp only [h] <;> split_ifs <;> rfl

/-- Dropping trailing zeros keeps the value `d * 10^t` and only raises the exponent. -/
theorem stripZeros_spec (d : Nat) (t : Int) (fuel : Nat) :
    ((stripZeros d t fuel).1 : ℚ) * 10 ^ (stripZeros d t fuel).2 = d * 10 ^ t ∧
      t ≤ (stripZeros d t fuel).2 := by
  induction fuel generalizing d t with
  | zero => simp [stripZeros]
  | succ fuel ih =>
    unfold stripZeros
    split
    · rename_i hzero
      obtain ⟨hvalue, hexp⟩ := ih (d / 10) (t + 1)
      refine ⟨?_, by omega⟩
      rw [hvalue, zpow_add_one₀ (by norm_num)]
      have hd : d = d / 10 * 10 := (Nat.div_mul_cancel (Nat.dvd_of_mod_eq_zero hzero.2)).symm
      conv_rhs => rw [hd]
      push_cast
      ring
    · simp

/-- Whether a grid point is admitted depends on its value only. -/
theorem Interval.admits_stripZeros (iv : Interval) (d : Nat) (t s : Int) (fuel : Nat) :
    iv.admits (stripZeros d t fuel).1 (stripZeros d t fuel).2 s = iv.admits d t s := by
  rw [Bool.eq_iff_iff, Interval.admits_iff, Interval.admits_iff, (stripZeros_spec d t fuel).1]

/-- The search over grids ends in the interval once its last grid, `p - (k + fuel) + 1`, has
a point there; the exponent found is at least that grid's. -/
theorem searchGrids_spec {iv : Interval} {p s : Int} (k fuel : Nat)
    (hlast : (pickOnGrid iv (p - (k + fuel) + 1) s).isSome) :
    iv.admits (searchGrids iv p s k (fuel + 1)).1 (searchGrids iv p s k (fuel + 1)).2 s = true ∧
      p - (k + fuel) + 1 ≤ (searchGrids iv p s k (fuel + 1)).2 := by
  induction fuel generalizing k with
  | zero =>
    obtain ⟨d, hd⟩ := Option.isSome_iff_exists.1 hlast
    simp only [Nat.cast_zero, add_zero] at hd
    simp only [searchGrids, hd, Interval.admits_stripZeros, pickOnGrid_admits hd, true_and]
    have := (stripZeros_spec d (p - k + 1) 20).2
    omega
  | succ fuel ih =>
    unfold searchGrids
    simp only
    split
    · rename_i d hd
      refine ⟨by rw [Interval.admits_stripZeros]; exact pickOnGrid_admits hd, ?_⟩
      have := (stripZeros_spec d (p - k + 1) 20).2
      omega
    · have hidx : ((k + 1 : Nat) : Int) + fuel = k + ((fuel + 1 : Nat) : Int) := by
        push_cast
        ring
      have := ih (k + 1) (by rwa [hidx])
      rwa [hidx] at this

/-- The first guess of `floorLog10`: `log10 2` taken as `0.30103` times the binary exponent. -/
theorem floorLog10_guess_bounds (bits : Int) :
    let guess := (bits * 30103).fdiv 100000
    guess * 100000 ≤ bits * 30103 ∧ bits * 30103 < (guess + 1) * 100000 := by
  intro guess
  have hguess : guess = bits * 30103 / 100000 := Int.fdiv_eq_ediv_of_nonneg _ (by decide)
  rw [hguess]
  exact ⟨Int.ediv_mul_le _ (by decide), Int.lt_ediv_add_one_mul_self _ (by decide)⟩

/-- Two less than the guess is never above: `10^(guess - 2) ≤ 2^bits` over the binary
exponents of finite values. -/
theorem pow_ten_guess_sub_two_le {bits : Int} (hlo : -1074 ≤ bits) (hhi : bits ≤ 1023) :
    (10 : ℚ) ^ ((bits * 30103).fdiv 100000 - 2) ≤ 2 ^ bits := by
  obtain ⟨hg_lo, hg_hi⟩ := floorLog10_guess_bounds bits
  set g := (bits * 30103).fdiv 100000
  rcases le_or_gt 0 bits with hpos | hneg
  · -- a positive exponent: `10^10 ≤ 2^33`, so ten powers of ten fit in three powers of 2^10
    obtain ⟨b, rfl⟩ := Int.eq_ofNat_of_zero_le hpos
    rcases lt_or_ge (g - 2) 0 with hsmall | hbig
    · calc (10 : ℚ) ^ (g - 2) ≤ 1 := zpow_le_one_of_nonpos₀ (by norm_num) hsmall.le
        _ ≤ 2 ^ (b : Int) := one_le_zpow₀ (by norm_num) (by omega)
    · obtain ⟨j, hj⟩ := Int.eq_ofNat_of_zero_le hbig
      have hdigits : 10 * j ≤ 3 * b := by omega
      have hnat : 10 ^ j ≤ 2 ^ b := by
        apply (Nat.pow_le_pow_iff_left (by norm_num : (10 : Nat) ≠ 0)).1
        calc (10 ^ j) ^ 10 = 10 ^ (10 * j) := by ring
          _ ≤ 10 ^ (3 * b) := Nat.pow_le_pow_right (by norm_num) hdigits
          _ = 1000 ^ b := by rw [pow_mul]; norm_num
          _ ≤ 1024 ^ b := Nat.pow_le_pow_left (by norm_num) b
          _ = (2 ^ b) ^ 10 := by rw [← pow_mul, mul_comm, pow_mul]; norm_num
      rw [hj, zpow_natCast, zpow_natCast]
      exact_mod_cast hnat
  · -- a negative exponent: `2^1000 ≤ 10^302` bounds the powers of one half by powers of ten
    obtain ⟨B, hB⟩ : ∃ B : Nat, bits = -(B : Int) := ⟨(-bits).toNat, by omega⟩
    obtain ⟨G, hG⟩ : ∃ G : Nat, g - 2 = -(G : Int) := ⟨(2 - g).toNat, by omega⟩
    have hdigits : 302 * B ≤ 1000 * G := by omega
    have hnat : 2 ^ B ≤ 10 ^ G := by
      apply (Nat.pow_le_pow_iff_left (by norm_num : (1000 : Nat) ≠ 0)).1
      calc (2 ^ B) ^ 1000 = (2 ^ 1000) ^ B := by rw [← pow_mul, ← pow_mul, mul_comm]
        _ ≤ (10 ^ 302) ^ B := Nat.pow_le_pow_left (by decide +kernel) B
        _ = 10 ^ (302 * B) := (pow_mul 10 302 B).symm
        _ ≤ 10 ^ (1000 * G) := Nat.pow_le_pow_right (by norm_num) hdigits
        _ = (10 ^ G) ^ 1000 := by ring
    rw [hG, hB, zpow_neg, zpow_neg, zpow_natCast, zpow_natCast]
    apply inv_anti₀ (by positivity)
    exact_mod_cast hnat

/-- `floorLog10` never overshoots: its power of ten is at most the value. -/
theorem pow_floorLog10_le {m : Nat} {e : Int} (hm : 0 < m) (he : -1074 ≤ e)
    (hbits : (Nat.log2 m : Int) + e ≤ 1023) :
    (10 : ℚ) ^ floorLog10 m e ≤ m * 2 ^ e := by
  unfold floorLog10
  simp only
  split
  · rename_i p hp
    have hle := List.find?_some hp
    simp only [bne_iff_ne, ne_eq, compareScaled_eq, compare_gt_iff_gt, not_lt,
      Nat.cast_one, one_mul] at hle
    exact hle
  · -- the fallback: the value is at least `2^bits`, which the lowered guess does not exceed
    have hvalue : (2 : ℚ) ^ ((Nat.log2 m : Int) + e) ≤ m * 2 ^ e := by
      rw [zpow_add₀ two_ne_zero, zpow_natCast]
      have : 2 ^ Nat.log2 m ≤ m := Nat.log2_self_le (by omega)
      gcongr
      exact_mod_cast this
    exact le_trans (pow_ten_guess_sub_two_le (by omega) hbits) hvalue

/-- `floorLog10` is at least `-326` over the exponents of finite values. -/
theorem floorLog10_ge {m : Nat} {e : Int} (he : -1074 ≤ e) : -326 ≤ floorLog10 m e := by
  have hbits : -1074 ≤ (Nat.log2 m : Int) + e := by omega
  obtain ⟨hg_lo, hg_hi⟩ := floorLog10_guess_bounds ((Nat.log2 m : Int) + e)
  unfold floorLog10
  simp only
  split
  · rename_i p hp
    have hmem := List.mem_of_find?_eq_some hp
    simp only [List.mem_cons, List.not_mem_nil, or_false] at hmem
    omega
  · omega

/-- The interval of a mantissa below `2^53` is wider than a seventeenth of its value's digits:
`4m < (high - low) * 10^16` in units of the interval. -/
theorem interval_width {m : Nat} (hpos : 0 < m) (hm : m < 2 * Binary64.hiddenBit) :
    ((interval m).low : ℚ) < (interval m).value ∧ ((interval m).value : ℚ) < (interval m).high ∧
      (4 * m : ℚ) < ((interval m).high - (interval m).low : ℚ) * 10 ^ 16 := by
  unfold interval
  have hhidden : Binary64.hiddenBit = 4503599627370496 := rfl
  split
  · rename_i h
    subst h
    norm_num [hhidden]
  · have hm' : (m : ℚ) < 9007199254740992 := by
      rw [hhidden] at hm
      exact_mod_cast hm
    refine ⟨?_, ?_, ?_⟩
    · rw [Nat.cast_sub (by omega)]
      push_cast
      linarith
    · push_cast
      linarith
    · rw [Nat.cast_sub (by omega)]
      push_cast
      linarith

/-- The shortest digits lie in the rounding interval of `m * 2^e`, with an exponent of at least
`-342`, for the mantissas and exponents of finite values. -/
theorem shortest_spec {m : Nat} {e : Int} (hm : 0 < m) (hm53 : m < 2 * Binary64.hiddenBit)
    (he : -1074 ≤ e) (he' : e ≤ 971) :
    (interval m).Contains (e - 2) ((shortest m e).1 * 10 ^ (shortest m e).2) ∧
      -342 ≤ (shortest m e).2 := by
  have hlog : Nat.log2 m < 53 :=
    (Nat.log2_lt (by omega)).2 (by rw [show (2 : Nat) ^ 53 = 2 * Binary64.hiddenBit from rfl]; exact hm53)
  have hpow := pow_floorLog10_le hm he (by omega)
  have hp := floorLog10_ge (m := m) he
  obtain ⟨hlow, hhigh, hwidth⟩ := interval_width hm hm53
  have hunit : (0 : ℚ) < 2 ^ (e - 2) := by positivity
  have hvalue : ((interval m).value : ℚ) * 2 ^ (e - 2) = m * 2 ^ e := by
    have : (interval m).value = 4 * m := by unfold interval; split <;> rfl
    rw [this, zpow_sub₀ two_ne_zero]
    push_cast
    field_simp
  -- the grid of seventeen digits is finer than the interval is wide
  have hstep : (10 : ℚ) ^ (floorLog10 m e - (1 + 16 : Nat) + 1) <
      ((interval m).high - (interval m).low : ℚ) * 2 ^ (e - 2) := by
    rw [show floorLog10 m e - ((1 + 16 : Nat) : Int) + 1 = floorLog10 m e - 16 by push_cast; ring,
      zpow_sub₀ (by norm_num), div_lt_iff₀ (by positivity)]
    have h4 : (4 * m : ℚ) * 2 ^ (e - 2) = m * 2 ^ e := by rw [← hvalue]; unfold interval; split <;> push_cast <;> ring
    calc (10 : ℚ) ^ floorLog10 m e ≤ m * 2 ^ e := hpow
      _ = (4 * m : ℚ) * 2 ^ (e - 2) := h4.symm
      _ < ((interval m).high - (interval m).low : ℚ) * 10 ^ 16 * 2 ^ (e - 2) :=
        mul_lt_mul_of_pos_right hwidth hunit
      _ = _ := by norm_num; ring
  have hsome := pickOnGrid_isSome (mul_lt_mul_of_pos_right hlow hunit)
    (mul_lt_mul_of_pos_right hhigh hunit) hstep
  obtain ⟨hadmits, hexp⟩ := searchGrids_spec 1 16 hsome
  refine ⟨(Interval.admits_iff _ _ _ _).1 hadmits, ?_⟩
  push_cast at hexp
  unfold shortest
  omega

end PromRules.Number
