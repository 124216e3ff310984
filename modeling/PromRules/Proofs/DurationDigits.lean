import PromRules.Duration.Text

/-!
The written digits of a duration.

A magnitude in milliseconds has one set of digits in the mixed radix of the written units
(`RadixDigits`): any number of weeks, then days below 7, hours below 24, minutes and seconds
below 60 and milliseconds below 1000. The writer divides by each unit in turn and keeps the
remainder; on a magnitude given by its digits, each division gives the digit back and leaves
the magnitude of the smaller digits (`components_cons_digit`), so the writer meets exactly the
digits, largest first, and writes the nonzero ones (`components_total`). The main statement,
`render_mixed_radix`, is the whole text of a duration: `0ms` for the empty span, and otherwise
a `-` for a negative span and then the nonzero digits of its magnitude with their units. The
magnitude of `-2^63` has digits like any other, since it is taken as a natural number.
-/

namespace PromRules.Duration

/-- The digits of a magnitude in the mixed radix of the written units. -/
structure RadixDigits where
  weeks : Nat
  days : Nat
  hours : Nat
  minutes : Nat
  seconds : Nat
  millis : Nat
  days_lt : days < 7
  hours_lt : hours < 24
  minutes_lt : minutes < 60
  seconds_lt : seconds < 60
  millis_lt : millis < 1000

namespace RadixDigits

/-- The magnitude the digits stand for, in milliseconds. -/
def total (r : RadixDigits) : Nat :=
  r.weeks * 604800000 + r.days * 86400000 + r.hours * 3600000 + r.minutes * 60000 +
    r.seconds * 1000 + r.millis

/-- The digits of a magnitude. -/
def ofNat (n : Nat) : RadixDigits where
  weeks := n / 604800000
  days := n / 86400000 % 7
  hours := n / 3600000 % 24
  minutes := n / 60000 % 60
  seconds := n / 1000 % 60
  millis := n % 1000
  days_lt := Nat.mod_lt _ (by decide)
  hours_lt := Nat.mod_lt _ (by decide)
  minutes_lt := Nat.mod_lt _ (by decide)
  seconds_lt := Nat.mod_lt _ (by decide)
  millis_lt := Nat.mod_lt _ (by decide)

theorem total_ofNat (n : Nat) : (ofNat n).total = n := by
  simp only [total, ofNat]
  omega

/-- A digit written with its unit, or nothing when the digit is zero. -/
def group (count : Nat) (unit : String) : String :=
  if count = 0 then "" else toString count ++ unit

/-- The written digits, largest unit first, the zero ones left out. -/
def text (r : RadixDigits) : String :=
  group r.weeks "w" ++ group r.days "d" ++ group r.hours "h" ++ group r.minutes "m" ++
    group r.seconds "s" ++ group r.millis "ms"

end RadixDigits

/-- A digit of a unit, the count of that unit in a magnitude, as `components` keeps it. -/
def digitGroups (count : Nat) (unit : String) : List (Nat × String) :=
  if count = 0 then [] else [(count, unit)]

/-- Dividing a magnitude given by a digit and a smaller remainder gives the digit back, and goes
on with the remainder. -/
theorem components_cons_digit {suffix : String} {size q rest : Nat}
    (us : List (String × Nat)) (hrest : rest < size) :
    components ((suffix, size) :: us) (q * size + rest) =
      digitGroups q suffix ++ components us rest := by
  have hpos : 0 < size := Nat.lt_of_le_of_lt (Nat.zero_le rest) hrest
  have hdiv : (q * size + rest) / size = q := by
    rw [Nat.mul_comm, Nat.mul_add_div hpos, Nat.div_eq_of_lt hrest, Nat.add_zero]
  have hmod : (q * size + rest) % size = rest := by
    rw [Nat.mul_comm, Nat.mul_add_mod, Nat.mod_eq_of_lt hrest]
  simp only [components, hdiv, hmod, digitGroups]
  by_cases hq : q = 0
  · subst hq
    simp
  · simp [hq, Nat.pos_of_ne_zero hq]

/-- The writer meets exactly the digits of a magnitude, largest first. -/
theorem components_total (r : RadixDigits) :
    components writtenUnits r.total =
      digitGroups r.weeks "w" ++ digitGroups r.days "d" ++ digitGroups r.hours "h" ++
        digitGroups r.minutes "m" ++ digitGroups r.seconds "s" ++ digitGroups r.millis "ms" := by
  have hsplit : r.total = r.weeks * 604800000 + (r.days * 86400000 + (r.hours * 3600000 +
      (r.minutes * 60000 + (r.seconds * 1000 + (r.millis * 1 + 0))))) := by
    simp only [RadixDigits.total]
    omega
  have hd := r.days_lt
  have hh := r.hours_lt
  have hm := r.minutes_lt
  have hs := r.seconds_lt
  have hms := r.millis_lt
  -- each remainder is below its unit: the digits below it are below their radices
  rw [hsplit, writtenUnits, components_cons_digit _ (by omega), components_cons_digit _ (by omega),
    components_cons_digit _ (by omega), components_cons_digit _ (by omega),
    components_cons_digit _ (by omega), components_cons_digit _ (by omega)]
  simp [components]

/-- Writing the groups of one digit writes the digit with its unit, or nothing for a zero. -/
theorem foldl_digitGroups (count : Nat) (unit acc : String) :
    (digitGroups count unit).foldl (fun acc p => acc ++ toString p.1 ++ p.2) acc =
      acc ++ RadixDigits.group count unit := by
  unfold digitGroups RadixDigits.group
  split <;> simp [String.append_assoc]

/-- The text of a duration, given the digits of its magnitude. -/
theorem render_eq_radix {d : Duration} {r : RadixDigits} (hr : r.total = d.millis.natAbs) :
    d.render = if d.millis = 0 then "0ms" else (if d.millis < 0 then "-" else "") ++ r.text := by
  unfold render
  split
  · rfl
  · rw [← hr, components_total]
    simp only [List.foldl_append, foldl_digitGroups, RadixDigits.text, String.empty_append]
    split <;> simp [String.append_assoc]

/-- A duration is written `0ms` when it is empty, and otherwise as a `-` exactly when it is
negative, then the nonzero mixed-radix digits of its magnitude, largest unit first, each with its
unit; the digits exist for every magnitude. -/
theorem render_mixed_radix (d : Duration) :
    (∃ r : RadixDigits, r.total = d.millis.natAbs) ∧
      ∀ r : RadixDigits, r.total = d.millis.natAbs →
        d.render = if d.millis = 0 then "0ms" else (if d.millis < 0 then "-" else "") ++ r.text :=
  ⟨⟨RadixDigits.ofNat _, RadixDigits.total_ofNat _⟩, fun _ hr => render_eq_radix hr⟩

/-- The least duration, `-2^63` milliseconds, is written with the digits of `2^63`. -/
theorem least_render_digits :
    (⟨15250284452, 3, 7, 12, 55, 808, by decide, by decide, by decide, by decide, by decide⟩ :
        RadixDigits).total = (clamp minMillis).millis.natAbs ∧
      (clamp minMillis).render = "-15250284452w3d7h12m55s808ms" := by
  have hdigits : (⟨15250284452, 3, 7, 12, 55, 808, by decide, by decide, by decide, by decide,
      by decide⟩ : RadixDigits).total = (clamp minMillis).millis.natAbs := by decide
  refine ⟨hdigits, ((render_mixed_radix (clamp minMillis)).2 _ hdigits).trans ?_⟩
  decide

end PromRules.Duration
