import PromRules.Duration.Text

/-!
The grammar of duration texts.

A duration text, once its blanks at both ends are dropped, is an optional `-` and one or more
groups, each a nonempty run of ASCII digits and one of the units `ms`, `w`, `d`, `h`, `m`,
`s` (`DurationWord`, with its groups as `DigitGroup`). A group's count is the decimal value of
its digits, leading zeros allowed.

The reader takes the longest run of digits and then the first unit that fits, `ms` before `m`.
That never refuses a text of the grammar: after a unit comes a digit or the end, so an `m`
followed by an `s` can only be the unit `ms`. Reading a group accepts exactly the groups whose
count fits 64 signed bits (`readGroup_chars`, and `readGroup_eq_some` the other way), reading
groups to the end accepts exactly their texts (`readGroups_flatMap_chars`, `readGroups_eq_some`),
and the saturating sum of the clamped products is the exact sum clamped once (`sumGroups_map`). The main statement, `fromText_accepts_grammar`, says
that a text is read exactly when it is a word of the grammar whose counts fit, as the clamped
sum with the sign of the `-`, and that it is otherwise refused with the text as it was given.
-/

namespace PromRules.Duration

/-- The units of the grammar. -/
inductive TimeUnit where
  | millisecond
  | week
  | day
  | hour
  | minute
  | second
deriving DecidableEq

namespace TimeUnit

/-- How a unit is written. -/
def spelling : TimeUnit → List Char
  | .millisecond => ['m', 's']
  | .week => ['w']
  | .day => ['d']
  | .hour => ['h']
  | .minute => ['m']
  | .second => ['s']

/-- The milliseconds in a unit. -/
def size : TimeUnit → Nat
  | .millisecond => 1
  | .week => 604800000
  | .day => 86400000
  | .hour => 3600000
  | .minute => 60000
  | .second => 1000

end TimeUnit

/-- A group of the grammar: a nonempty run of ASCII digits and a unit. -/
structure DigitGroup where
  digits : List Char
  unit : TimeUnit
  digits_ne_nil : digits ≠ []
  isDigit_of_mem : ∀ c ∈ digits, c.isDigit = true

namespace DigitGroup

/-- The text of a group. -/
def chars (g : DigitGroup) : List Char :=
  g.digits ++ g.unit.spelling

/-- The decimal value of a group's digits. -/
def count (g : DigitGroup) : Nat :=
  Nat.ofDigitChars 10 g.digits 0

end DigitGroup

/-- The exact milliseconds of a list of groups, without saturation. -/
def exactMillis : List DigitGroup → Nat
  | [] => 0
  | g :: gs => g.count * g.unit.size + exactMillis gs

/-- A word of the grammar `-?([0-9]+(ms|w|d|h|m|s))+`: an optional minus and at least one
group. -/
structure DurationWord where
  negative : Bool
  groups : List DigitGroup
  groups_ne_nil : groups ≠ []

namespace DurationWord

/-- The text of a word. -/
def chars (w : DurationWord) : List Char :=
  (if w.negative then ['-'] else []) ++ w.groups.flatMap DigitGroup.chars

/-- Every count of the word fits 64 signed bits. -/
def Fits (w : DurationWord) : Prop :=
  ∀ g ∈ w.groups, g.count ≤ maxMillis.toNat

/-- The milliseconds a word stands for: the exact sum clamped at `2^63 - 1`, negated after a
leading minus. -/
def millis (w : DurationWord) : Int :=
  (if w.negative then -1 else 1) * min (exactMillis w.groups : Int) maxMillis

end DurationWord

/-! ### One group -/

theorem digitsValue_eq_ofDigitChars (ds : List Char) : digitsValue ds = Nat.ofDigitChars 10 ds 0 := by
  simp only [digitsValue, Nat.ofDigitChars_eq_foldl, Nat.mul_comm]

/-- Every unit is written with a letter first. -/
theorem TimeUnit.spelling_head (u : TimeUnit) :
    ∃ c t, u.spelling = c :: t ∧ c.isDigit = false := by
  cases u <;> exact ⟨_, _, rfl, by decide⟩

/-- A unit followed by a digit or by nothing is read as itself; the minute `m` before a digit is
not the start of `ms`. -/
theorem readUnit_spelling (u : TimeUnit) {rest : List Char}
    (hrest : ∀ c ∈ rest.head?, c.isDigit = true) :
    readUnit (u.spelling ++ rest) = some (u.size, rest) := by
  cases u
  case minute =>
    cases rest with
    | nil => rfl
    | cons c t =>
      have hs : c ≠ 's' := by
        rintro rfl
        simpa using hrest 's' rfl
      simp [readUnit, TimeUnit.spelling, TimeUnit.size, hs]
  all_goals simp [readUnit, TimeUnit.spelling, TimeUnit.size]

/-- What the unit reader takes is the spelling of a unit, and it gives that unit's size. -/
theorem readUnit_eq_some {cs rest : List Char} {size : Nat} (h : readUnit cs = some (size, rest)) :
    ∃ u : TimeUnit, cs = u.spelling ++ rest ∧ size = u.size := by
  unfold readUnit at h
  split at h
  · cases h
    exact ⟨.millisecond, rfl, rfl⟩
  · cases h
    exact ⟨.week, rfl, rfl⟩
  · cases h
    exact ⟨.day, rfl, rfl⟩
  · cases h
    exact ⟨.hour, rfl, rfl⟩
  · cases h
    exact ⟨.minute, rfl, rfl⟩
  · cases h
    exact ⟨.second, rfl, rfl⟩
  · cases h

/-- A group followed by the next group or by nothing is read as its count times its unit,
clamped, when the count fits. -/
theorem readGroup_chars (g : DigitGroup) (hfit : g.count ≤ maxMillis.toNat) {rest : List Char}
    (hrest : ∀ c ∈ rest.head?, c.isDigit = true) :
    readGroup (g.chars ++ rest) = some (min (g.count * g.unit.size) maxMillis.toNat, rest) := by
  obtain ⟨c, t, hspell, hc⟩ := g.unit.spelling_head
  have htake : (g.chars ++ rest).takeWhile Char.isDigit = g.digits := by
    rw [DigitGroup.chars, List.append_assoc, List.takeWhile_append_of_pos g.isDigit_of_mem,
      hspell]
    simp [hc]
  have hdrop : (g.chars ++ rest).dropWhile Char.isDigit = g.unit.spelling ++ rest := by
    rw [DigitGroup.chars, List.append_assoc, List.dropWhile_append_of_pos g.isDigit_of_mem,
      hspell]
    simp [hc]
  have hnonempty : g.digits.isEmpty = false := List.isEmpty_eq_false_iff.mpr g.digits_ne_nil
  have hfit' : ¬ maxMillis.toNat < Nat.ofDigitChars 10 g.digits 0 := Nat.not_lt.mpr hfit
  unfold readGroup
  simp only [htake, hdrop, hnonempty, digitsValue_eq_ofDigitChars, readUnit_spelling g.unit hrest,
    hfit', Bool.false_eq_true, if_false]
  rfl

/-- What the group reader takes is a group whose count fits, and it gives the clamped product. -/
theorem readGroup_eq_some {cs rest : List Char} {value : Nat}
    (h : readGroup cs = some (value, rest)) :
    ∃ g : DigitGroup, cs = g.chars ++ rest ∧ g.count ≤ maxMillis.toNat ∧
      value = min (g.count * g.unit.size) maxMillis.toNat := by
  unfold readGroup at h
  simp only at h
  split at h
  · cases h
  · next hnonempty =>
    split at h
    · cases h
    · next hfit =>
      split at h
      · next size rest' hunit =>
        cases h
        obtain ⟨u, hspell, rfl⟩ := readUnit_eq_some hunit
        -- the group is the longest run of digits and the unit after it
        let g : DigitGroup :=
          ⟨cs.takeWhile Char.isDigit, u, by simpa using hnonempty,
            fun c hc => List.all_eq_true.mp List.all_takeWhile c hc⟩
        have hcount : g.count = digitsValue (cs.takeWhile Char.isDigit) :=
          (digitsValue_eq_ofDigitChars _).symm
        refine ⟨g, ?_, ?_, ?_⟩
        · rw [DigitGroup.chars, List.append_assoc, ← hspell, List.takeWhile_append_dropWhile]
        · rw [hcount]
          exact Nat.not_lt.mp hfit
        · rw [hcount]
      · cases h

/-! ### Groups to the end -/

/-- The text of a list of groups starts with a digit, or is empty. -/
theorem head_flatMap_chars_isDigit (gs : List DigitGroup) :
    ∀ c ∈ (gs.flatMap DigitGroup.chars).head?, c.isDigit = true := by
  cases gs with
  | nil => simp
  | cons g rest =>
    intro c hc
    obtain ⟨d, ds, hds⟩ := List.exists_cons_of_ne_nil g.digits_ne_nil
    simp only [List.flatMap_cons, DigitGroup.chars, hds, List.cons_append, List.head?_cons,
      Option.mem_def, Option.some.injEq] at hc
    subst hc
    exact g.isDigit_of_mem d (by rw [hds]; exact List.mem_cons_self)

/-- A run of groups whose counts fit is read group by group, each as its clamped product. -/
theorem readGroups_flatMap_chars (gs : List DigitGroup) (hfit : ∀ g ∈ gs, g.count ≤ maxMillis.toNat) :
    readGroups (gs.flatMap DigitGroup.chars) =
      some (gs.map fun g => min (g.count * g.unit.size) maxMillis.toNat) := by
  induction gs with
  | nil => simp [readGroups]
  | cons g rest ih =>
    have hread := readGroup_chars g (hfit g List.mem_cons_self) (head_flatMap_chars_isDigit rest)
    have hnonempty : (g.chars ++ rest.flatMap DigitGroup.chars).isEmpty = false := by
      simp [DigitGroup.chars, g.digits_ne_nil]
    have ihrest := ih (fun g' hg' => hfit g' (List.mem_cons_of_mem g hg'))
    rw [List.flatMap_cons, readGroups]
    simp only [hnonempty, Bool.false_eq_true, if_false]
    split
    · next value rest' hgroup =>
      rw [hread] at hgroup
      cases hgroup
      simp [ihrest]
    · next hgroup =>
      rw [hread] at hgroup
      cases hgroup

/-- What the reader of groups takes to the end is a run of groups whose counts fit, and it gives
their clamped products. -/
theorem readGroups_eq_some {cs : List Char} {values : List Nat} (h : readGroups cs = some values) :
    ∃ gs : List DigitGroup, cs = gs.flatMap DigitGroup.chars ∧
      (∀ g ∈ gs, g.count ≤ maxMillis.toNat) ∧
      values = gs.map fun g => min (g.count * g.unit.size) maxMillis.toNat := by
  fun_induction readGroups cs generalizing values with
  | case1 cs hempty =>
    cases h
    exact ⟨[], by simpa using hempty, by simp, rfl⟩
  | case2 cs hne value rest hgroup hshorter ih =>
    obtain ⟨tail, hrest, rfl⟩ := Option.map_eq_some_iff.mp h
    obtain ⟨g, rfl, hfit, rfl⟩ := readGroup_eq_some hgroup
    obtain ⟨gs, rfl, hfits, rfl⟩ := ih hrest
    refine ⟨g :: gs, rfl, ?_, rfl⟩
    intro g' hg'
    rcases List.mem_cons.mp hg' with rfl | hmem
    · exact hfit
    · exact hfits g' hmem
  | case3 cs hne hnone =>
    cases h

/-! ### Sums and signs -/

/-- Clamping each product and then every partial sum is clamping the exact sum once. -/
theorem sumGroups_map (gs : List DigitGroup) :
    sumGroups (gs.map fun g => min (g.count * g.unit.size) maxMillis.toNat) =
      min (exactMillis gs) maxMillis.toNat := by
  -- the running sum stays below the bound, so the clamps only ever cut at the bound
  suffices h : ∀ a ≤ maxMillis.toNat,
      (gs.map fun g => min (g.count * g.unit.size) maxMillis.toNat).foldl
        (fun acc v => min (acc + v) maxMillis.toNat) a = min (a + exactMillis gs) maxMillis.toNat by
    simpa [sumGroups] using h 0 (Nat.zero_le _)
  induction gs with
  | nil =>
    intro a ha
    simp [exactMillis, ha]
  | cons g rest ih =>
    intro a ha
    simp only [List.map_cons, List.foldl_cons, exactMillis]
    rw [ih _ (Nat.min_le_right _ _)]
    omega

/-- The count of a sign and a clamped sum, as the reader makes it, is the count the word stands
for. -/
theorem clamp_signed_millis (negative : Bool) (total : Nat) :
    (clamp (if negative then -((min total maxMillis.toNat : Nat) : Int)
      else ((min total maxMillis.toNat : Nat) : Int))).millis =
      (if negative then -1 else 1) * min (total : Int) maxMillis := by
  have hmax : maxMillis = 9223372036854775807 := rfl
  have hmaxNat : maxMillis.toNat = 9223372036854775807 := rfl
  have hmin : minMillis = -9223372036854775808 := rfl
  rw [clamp_millis, hmaxNat, hmax, hmin]
  cases negative <;> simp only [Bool.false_eq_true, if_false, if_true] <;> omega

/-- What the signed reader takes is a word of the grammar whose counts fit, and it gives the
count the word stands for. -/
theorem readSigned_eq_some {cs : List Char} {d : Duration} (h : readSigned cs = some d) :
    ∃ w : DurationWord, cs = w.chars ∧ w.Fits ∧ d.millis = w.millis := by
  unfold readSigned at h
  split at h
  next negative body hsign =>
    split at h
    · next v vs hread =>
      cases h
      obtain ⟨gs, rfl, hfit, hvalues⟩ := readGroups_eq_some hread
      have hne : gs ≠ [] := by
        rintro rfl
        cases hvalues
      have hsum : sumGroups (v :: vs) = min (exactMillis gs) maxMillis.toNat := by
        rw [hvalues, sumGroups_map]
      refine ⟨⟨negative, gs, hne⟩, ?_, hfit, ?_⟩
      · -- a leading minus is the sign, and all else the groups
        split at hsign
        · cases hsign
          rfl
        · cases hsign
          rfl
      · simp only [hsum]
        exact clamp_signed_millis negative (exactMillis gs)
    · cases h

/-- A word of the grammar whose counts fit is read as the count it stands for. -/
theorem readSigned_chars {w : DurationWord} (hfit : w.Fits) :
    ∃ d, readSigned w.chars = some d ∧ d.millis = w.millis := by
  obtain ⟨v, vs, hvalues⟩ : ∃ v vs,
      (w.groups.map fun g => min (g.count * g.unit.size) maxMillis.toNat) = v :: vs :=
    List.exists_cons_of_ne_nil (by simpa using w.groups_ne_nil)
  have hread : readGroups (w.groups.flatMap DigitGroup.chars) = some (v :: vs) := by
    rw [readGroups_flatMap_chars w.groups hfit, hvalues]
  have hvalue : (clamp (if w.negative then -(sumGroups (v :: vs) : Int)
      else (sumGroups (v :: vs) : Int))).millis = w.millis := by
    rw [← hvalues, sumGroups_map]
    exact clamp_signed_millis w.negative (exactMillis w.groups)
  -- the reader takes a minus off exactly when the word has one: the groups start with a digit
  have hhead := head_flatMap_chars_isDigit w.groups
  unfold readSigned
  split
  next negative body hsign =>
    have hsplit : negative = w.negative ∧ body = w.groups.flatMap DigitGroup.chars := by
      unfold DurationWord.chars at hsign
      cases hneg : w.negative with
      | true =>
        simp only [hneg, if_true, List.cons_append, List.nil_append] at hsign
        cases hsign
        exact ⟨rfl, rfl⟩
      | false =>
        simp only [hneg, Bool.false_eq_true, if_false, List.nil_append] at hsign
        split at hsign
        · next rest hminus =>
          have hdigit := hhead '-' (by simp [hminus])
          cases hdigit
        · cases hsign
          exact ⟨rfl, rfl⟩
    obtain ⟨rfl, rfl⟩ := hsplit
    simp only [hread]
    exact ⟨_, rfl, hvalue⟩

/-- The signed reader takes exactly the words of the grammar whose counts fit, and gives the
count each stands for. -/
theorem readSigned_eq_some_iff {cs : List Char} {d : Duration} :
    readSigned cs = some d ↔ ∃ w : DurationWord, cs = w.chars ∧ w.Fits ∧ d.millis = w.millis := by
  constructor
  · exact readSigned_eq_some
  · rintro ⟨w, rfl, hfit, hd⟩
    obtain ⟨d', hread, hd'⟩ := readSigned_chars hfit
    rw [hread, eq_of_millis_eq (hd'.trans hd.symm)]

/-- A text with no word of the grammar whose counts fit, once trimmed, is refused. -/
theorem parse_eq_none_iff {s : String} :
    parse? s = none ↔
      ∀ w : DurationWord, w.Fits → (Text.trimBlank s).toList ≠ w.chars := by
  constructor
  · intro hparse w hfit htext
    obtain ⟨d, hread, -⟩ := readSigned_chars hfit
    rw [parse?, htext, hread] at hparse
    cases hparse
  · intro hnot
    cases hparse : parse? s with
    | none => rfl
    | some d =>
      obtain ⟨w, htext, hfit, -⟩ := readSigned_eq_some hparse
      exact absurd htext (hnot w hfit)

/-- A duration text is read exactly when, with its blanks at both ends dropped, it is a word of
`-?([0-9]+(ms|w|d|h|m|s))+` whose counts fit 64 signed bits; it is then read as the exact sum of
its groups clamped at `2^63 - 1`, negated after a minus. Any other text is refused as an invalid
duration that quotes the text as it was given. -/
theorem fromText_accepts_grammar (s : String) :
    (∀ d, fromText s = .ok d ↔
      ∃ w : DurationWord, (Text.trimBlank s).toList = w.chars ∧ w.Fits ∧ d.millis = w.millis) ∧
    (∀ err, fromText s = .error err ↔
      err = .invalidDuration s ∧
        ∀ w : DurationWord, w.Fits → (Text.trimBlank s).toList ≠ w.chars) := by
  refine ⟨fun d => ?_, fun err => ?_⟩
  · rw [← readSigned_eq_some_iff]
    unfold fromText parse?
    cases readSigned (Text.trimBlank s).toList <;> simp
  · rw [← parse_eq_none_iff]
    unfold fromText
    cases parse? s <;> simp [eq_comm]

/-- The text ` -1m05s ` is read as minus 65 seconds: blanks at the ends are dropped and a count
may have leading zeros. -/
theorem padded_negative_text_reads :
    fromText " -1m05s " = .ok (clamp (-65000)) := by
  let w : DurationWord :=
    ⟨true, [⟨['1'], .minute, by decide, List.all_eq_true.mp (by decide)⟩,
      ⟨['0', '5'], .second, by decide, List.all_eq_true.mp (by decide)⟩], by decide⟩
  have htext : (Text.trimBlank " -1m05s ").toList = w.chars := by decide
  have hfit : w.Fits := by
    intro g hg
    simp only [w, List.mem_cons, List.not_mem_nil, or_false] at hg
    rcases hg with rfl | rfl <;> decide
  have hmillis : (clamp (-65000)).millis = w.millis := by decide
  exact ((fromText_accepts_grammar " -1m05s ").1 _).2 ⟨w, htext, hfit, hmillis⟩

end PromRules.Duration
