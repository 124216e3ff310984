import PromRules.Proofs.DurationGrammar

/-!
The written form of a duration, read back.

A nonzero duration is written as its sign and then the groups `components` gives: the nonzero
mixed-radix digits of its magnitude, each a decimal count and a unit. That text is a word of
the grammar of `PromRules.Proofs.DurationGrammar` (`writtenGroup`), so the reader takes it and
gives the exact sum of its groups, which is the magnitude (`groupsMillis_components_writtenUnits`),
clamped at `2^63 - 1` (`readSigned_written`). Every duration therefore reads back as itself
except the least one, `-2^63`, whose magnitude exists only with the sign and reads back as
`-(2^63 - 1)` (`parse_render`). Distinct durations still have distinct texts
(`render_injective`).
-/

namespace PromRules.Duration

/-- The characters of one written group: the count in decimal, then the unit. -/
def groupChars (g : Nat × String) : List Char :=
  Nat.toDigits 10 g.1 ++ g.2.toList

/-- The milliseconds in a written unit, and zero for a text that is no unit. -/
def unitMillis (suffix : String) : Nat :=
  (writtenUnits.lookup suffix).getD 0

/-- The milliseconds a list of written groups stands for, without saturation. -/
def groupsMillis : List (Nat × String) → Nat
  | [] => 0
  | g :: rest => g.1 * unitMillis g.2 + groupsMillis rest

/-- A text is a written unit when it is the suffix of one of `writtenUnits`. -/
def IsUnit (suffix : String) : Prop :=
  suffix ∈ writtenUnits.map Prod.fst

theorem unitMillis_of_mem {u : String × Nat} (hu : u ∈ writtenUnits) :
    unitMillis u.1 = u.2 := by
  simp only [writtenUnits, List.mem_cons, List.not_mem_nil, or_false] at hu
  rcases hu with rfl | rfl | rfl | rfl | rfl | rfl <;> rfl

theorem isUnit_of_mem {u : String × Nat} (hu : u ∈ writtenUnits) : IsUnit u.1 :=
  List.mem_map_of_mem hu

/-- Every unit is written with letters, none of them blank, the first of them no digit. -/
theorem isUnit_toList {suffix : String} (h : IsUnit suffix) :
    ∃ c t, suffix.toList = c :: t ∧ c.isDigit = false ∧
      (c :: t).all (fun x => !Text.isBlank x) = true := by
  simp only [IsUnit, writtenUnits, List.map_cons, List.map_nil, List.mem_cons,
    List.not_mem_nil, or_false] at h
  rcases h with rfl | rfl | rfl | rfl | rfl | rfl <;> exact ⟨_, _, rfl, by decide, by decide⟩

theorem toList_toString (n : Nat) : (toString n).toList = Nat.toDigits 10 n :=
  Nat.toList_repr

theorem isDigit_of_mem_toDigits {c : Char} {n : Nat} (h : c ∈ Nat.toDigits 10 n) :
    c.isDigit = true :=
  Nat.isDigit_of_mem_toDigits (by decide) (by decide) h

theorem not_isBlank_of_isDigit {c : Char} (h : c.isDigit = true) : Text.isBlank c = false := by
  simp only [Char.isDigit, Bool.and_eq_true, decide_eq_true_eq] at h
  simp only [Text.isBlank, Text.blankRanges, List.any_cons, List.any_nil, Bool.or_false,
    Bool.or_eq_false_iff, Bool.and_eq_false_iff, decide_eq_false_iff_not, Nat.not_le]
  have hlow : 48 ≤ c.toNat := h.1
  have hhigh : c.toNat ≤ 57 := h.2
  omega

/-! ### Writing -/

theorem toList_foldl_groups (gs : List (Nat × String)) (init : String) :
    (gs.foldl (fun acc p => acc ++ toString p.1 ++ p.2) init).toList =
      init.toList ++ gs.flatMap groupChars := by
  induction gs generalizing init with
  | nil => simp
  | cons g rest ih =>
    simp only [List.foldl_cons, ih, String.toList_append, toList_toString, List.flatMap_cons,
      groupChars, List.append_assoc]

/-- The characters of a nonzero duration's text: its sign, then its groups. -/
theorem toList_render_of_ne_zero (d : Duration) (h : d.millis ≠ 0) :
    d.render.toList = (if d.millis < 0 then ['-'] else []) ++
      (components writtenUnits d.millis.natAbs).flatMap groupChars := by
  unfold render
  rw [if_neg h]
  split
  · rw [String.toList_append, toList_foldl_groups]
    rfl
  · rw [toList_foldl_groups]
    rfl

/-! ### The written groups as a word of the grammar -/

/-- The unit of the grammar that a written unit names. -/
def unitOfSuffix : String → TimeUnit
  | "w" => .week
  | "d" => .day
  | "h" => .hour
  | "m" => .minute
  | "s" => .second
  | _ => .millisecond

theorem unitOfSuffix_of_isUnit {suffix : String} (h : IsUnit suffix) :
    (unitOfSuffix suffix).spelling = suffix.toList ∧
      (unitOfSuffix suffix).size = unitMillis suffix := by
  simp only [IsUnit, writtenUnits, List.map_cons, List.map_nil, List.mem_cons,
    List.not_mem_nil, or_false] at h
  rcases h with rfl | rfl | rfl | rfl | rfl | rfl <;> decide

/-- A written group as a group of the grammar: the count in decimal and its unit. -/
def writtenGroup (g : Nat × String) : DigitGroup :=
  ⟨Nat.toDigits 10 g.1, unitOfSuffix g.2, Nat.toDigits_ne_nil,
    fun _ hc => isDigit_of_mem_toDigits hc⟩

theorem count_writtenGroup (g : Nat × String) : (writtenGroup g).count = g.1 :=
  Nat.ofDigitChars_ten_toDigits

theorem chars_writtenGroup {g : Nat × String} (h : IsUnit g.2) :
    (writtenGroup g).chars = groupChars g := by
  simp only [DigitGroup.chars, writtenGroup, groupChars, (unitOfSuffix_of_isUnit h).1]

theorem exactMillis_map_writtenGroup {gs : List (Nat × String)} (h : ∀ g ∈ gs, IsUnit g.2) :
    exactMillis (gs.map writtenGroup) = groupsMillis gs := by
  induction gs with
  | nil => rfl
  | cons g rest ih =>
    simp only [List.map_cons, exactMillis, groupsMillis, count_writtenGroup,
      ih fun g' hg' => h g' (List.mem_cons_of_mem g hg')]
    rw [show (writtenGroup g).unit = unitOfSuffix g.2 from rfl,
      (unitOfSuffix_of_isUnit (h g List.mem_cons_self)).2]

/-- A sign and a run of written groups whose counts fit are read as the clamped sum, negated
after the clamp. -/
theorem readSigned_written (negative : Bool) {gs : List (Nat × String)} (hne : gs ≠ [])
    (hunits : ∀ g ∈ gs, IsUnit g.2) (hcounts : ∀ g ∈ gs, g.1 ≤ maxMillis.toNat) :
    ∃ d, readSigned ((if negative then ['-'] else []) ++ gs.flatMap groupChars) = some d ∧
      d.millis = (if negative then -1 else 1) * min (groupsMillis gs : Int) maxMillis := by
  let w : DurationWord := ⟨negative, gs.map writtenGroup, by simpa using hne⟩
  have hchars : w.chars = (if negative then ['-'] else []) ++ gs.flatMap groupChars := by
    have hmap : (gs.map writtenGroup).map DigitGroup.chars = gs.map groupChars := by
      rw [List.map_map]
      exact List.map_congr_left fun g hg => chars_writtenGroup (hunits g hg)
    simp only [w, DurationWord.chars, List.flatMap_def, hmap]
  have hfit : w.Fits := by
    intro g hg
    obtain ⟨g', hg', rfl⟩ := List.mem_map.mp hg
    rw [count_writtenGroup]
    exact hcounts g' hg'
  obtain ⟨d, hread, hd⟩ := readSigned_chars hfit
  refine ⟨d, hchars ▸ hread, ?_⟩
  rw [hd, DurationWord.millis]
  simp only [w, exactMillis_map_writtenGroup hunits]

/-! ### The digits of a magnitude -/

theorem mem_components {us : List (String × Nat)} {n : Nat} {p : Nat × String}
    (h : p ∈ components us n) : ∃ size, (p.2, size) ∈ us := by
  induction us generalizing n with
  | nil => simp [components] at h
  | cons u rest ih =>
    obtain ⟨suffix, size⟩ := u
    simp only [components] at h
    split at h
    · rcases List.mem_cons.mp h with rfl | h
      · exact ⟨size, List.mem_cons_self⟩
      · obtain ⟨size', h'⟩ := ih h
        exact ⟨size', List.mem_cons_of_mem _ h'⟩
    · obtain ⟨size', h'⟩ := ih h
      exact ⟨size', List.mem_cons_of_mem _ h'⟩

theorem isUnit_of_mem_components {n : Nat} {p : Nat × String}
    (h : p ∈ components writtenUnits n) : IsUnit p.2 := by
  obtain ⟨size, hsize⟩ := mem_components h
  exact isUnit_of_mem hsize

/-- No digit exceeds the magnitude it is a digit of. -/
theorem count_le_of_mem_components {us : List (String × Nat)} {n : Nat} {p : Nat × String}
    (h : p ∈ components us n) : p.1 ≤ n := by
  induction us generalizing n with
  | nil => simp [components] at h
  | cons u rest ih =>
    obtain ⟨suffix, size⟩ := u
    simp only [components] at h
    split at h
    · rcases List.mem_cons.mp h with rfl | h
      · exact Nat.div_le_self n size
      · exact Nat.le_trans (ih h) (Nat.mod_le n size)
    · exact ih h

/-- The digits add up to the magnitude less what the last unit leaves over. -/
theorem groupsMillis_components_add (us : List (String × Nat))
    (hus : ∀ u ∈ us, unitMillis u.1 = u.2) (n : Nat) :
    groupsMillis (components us n) + us.foldl (fun r u => r % u.2) n = n := by
  induction us generalizing n with
  | nil => simp [components, groupsMillis]
  | cons u rest ih =>
    obtain ⟨suffix, size⟩ := u
    have hsize : unitMillis suffix = size := hus (suffix, size) List.mem_cons_self
    have ihrest := ih (fun u hu => hus u (List.mem_cons_of_mem _ hu))
    simp only [components, List.foldl_cons]
    split
    · simp only [groupsMillis, hsize]
      have hsplit := Nat.div_add_mod n size
      have := ihrest (n % size)
      rw [Nat.mul_comm] at hsplit
      omega
    · next hzero =>
      -- a unit larger than what is left leaves it whole
      have hkeep : n % size = n := by
        rcases Nat.eq_zero_or_pos size with hs | hs
        · simp [hs]
        · exact Nat.mod_eq_of_lt (Nat.lt_of_not_le fun hge => hzero (Nat.div_pos hge hs))
      rw [hkeep]
      exact ihrest n

/-- The written digits of a magnitude add up to it exactly: the millisecond unit leaves
nothing over. -/
theorem groupsMillis_components_writtenUnits (n : Nat) :
    groupsMillis (components writtenUnits n) = n := by
  have h := groupsMillis_components_add writtenUnits
    (fun u hu => unitMillis_of_mem hu) n
  simpa [writtenUnits, Nat.mod_one] using h

theorem components_ne_nil {n : Nat} (hn : 0 < n) : components writtenUnits n ≠ [] := by
  intro hnil
  have h := groupsMillis_components_writtenUnits n
  rw [hnil, groupsMillis] at h
  omega

/-- Up to `2^63` every digit fits the reader: the week count is far below `2^63 - 1`, and
each later digit is below its radix. -/
theorem count_le_maxMillis {n : Nat} (hn : n ≤ maxMillis.toNat + 1) {p : Nat × String}
    (h : p ∈ components writtenUnits n) : p.1 ≤ maxMillis.toNat := by
  have hmax : maxMillis.toNat = 9223372036854775807 := rfl
  rw [writtenUnits, components] at h
  split at h
  · rcases List.mem_cons.mp h with rfl | h
    · dsimp only
      omega
    · have hle := count_le_of_mem_components h
      have hmod := Nat.mod_lt n (by decide : 0 < 604800000)
      omega
  · next hzero =>
    have hle := count_le_of_mem_components h
    omega

/-! ### The round trip -/

theorem dropWhile_of_forall_false {p : Char → Bool} {cs : List Char}
    (h : ∀ c ∈ cs, p c = false) : cs.dropWhile p = cs := by
  cases cs with
  | nil => rfl
  | cons c rest => exact List.dropWhile_cons_of_neg (by simp [h c List.mem_cons_self])

theorem trimBlank_of_forall_not_blank {s : String}
    (h : ∀ c ∈ s.toList, Text.isBlank c = false) : Text.trimBlank s = s := by
  have hrev : ∀ c ∈ s.toList.reverse, Text.isBlank c = false :=
    fun c hc => h c (List.mem_reverse.mp hc)
  simp only [Text.trimBlank, Text.dropBlank, dropWhile_of_forall_false h,
    dropWhile_of_forall_false hrev, List.reverse_reverse, String.ofList_toList]

theorem render_zero {d : Duration} (h : d.millis = 0) : d.render = "0ms" := by
  simp [render, h]

/-- A duration's text has no blank, so the reader's trimming leaves it as it is. -/
theorem render_not_blank (d : Duration) : ∀ c ∈ d.render.toList, Text.isBlank c = false := by
  by_cases h0 : d.millis = 0
  · rw [render_zero h0]
    have hall : "0ms".toList.all (fun x => !Text.isBlank x) = true := by decide
    intro c hc
    simpa using List.all_eq_true.mp hall c hc
  · rw [toList_render_of_ne_zero d h0]
    intro c hc
    rcases List.mem_append.mp hc with hsign | hgroups
    · split at hsign
      · rw [List.mem_singleton.mp hsign]
        decide
      · simp at hsign
    · obtain ⟨g, hg, hcg⟩ := List.mem_flatMap.mp hgroups
      rcases List.mem_append.mp hcg with hdigit | hunit
      · exact not_isBlank_of_isDigit (isDigit_of_mem_toDigits hdigit)
      · obtain ⟨x, t, hx, -, hblank⟩ := isUnit_toList (isUnit_of_mem_components hg)
        rw [hx] at hunit
        simpa using List.all_eq_true.mp hblank c hunit

/-- What the text of a duration reads back as: the duration itself, except that the least
one reads as its successor, since the reader clamps the magnitude `2^63` before it applies
the sign. -/
theorem parse_render (d : Duration) :
    parse? d.render = some (clamp (max d.millis (minMillis + 1))) := by
  have hlow := d.min_le
  have hhigh := d.le_max
  have hmin : minMillis = -9223372036854775808 := rfl
  have hmax : maxMillis = 9223372036854775807 := rfl
  have hmaxNat : maxMillis.toNat = 9223372036854775807 := rfl
  -- the text is a sign and written groups adding up to the magnitude; zero is written `0ms`
  obtain ⟨negative, gs, htext, hne, hunits, hcounts, hsum⟩ : ∃ (negative : Bool) (gs : List (Nat × String)),
      d.render.toList = (if negative then ['-'] else []) ++ gs.flatMap groupChars ∧ gs ≠ [] ∧
        (∀ g ∈ gs, IsUnit g.2) ∧ (∀ g ∈ gs, g.1 ≤ maxMillis.toNat) ∧
        (if negative then -1 else 1) * (groupsMillis gs : Int) = d.millis := by
    by_cases h0 : d.millis = 0
    · refine ⟨false, [(0, "ms")], by rw [render_zero h0]; rfl, List.cons_ne_nil _ _,
        by simp [IsUnit, writtenUnits], by simp, ?_⟩
      simp [groupsMillis, h0]
    · have hbound : d.millis.natAbs ≤ maxMillis.toNat + 1 := by omega
      refine ⟨decide (d.millis < 0), components writtenUnits d.millis.natAbs,
        by simpa only [decide_eq_true_eq] using toList_render_of_ne_zero d h0, components_ne_nil (Int.natAbs_pos.mpr h0),
        fun g hg => isUnit_of_mem_components hg, fun g hg => count_le_maxMillis hbound hg, ?_⟩
      rw [groupsMillis_components_writtenUnits]
      by_cases hneg : d.millis < 0 <;> simp only [hneg, decide_true, decide_false, if_true,
        Bool.false_eq_true, if_false] <;> omega
  obtain ⟨d', hread, hd'⟩ := readSigned_written negative hne hunits hcounts
  unfold parse?
  rw [trimBlank_of_forall_not_blank (render_not_blank d), htext, hread]
  congr 1
  apply eq_of_millis_eq
  rw [hd', clamp_millis]
  cases negative <;> simp only [Bool.false_eq_true, if_false, if_true] at hsum ⊢ <;> omega

theorem fromText_render (d : Duration) :
    fromText d.render = .ok (clamp (max d.millis (minMillis + 1))) := by
  simp only [fromText, parse_render]

/-- The duration the text of `d` reads back as (`parse_render`): `d` itself, except that the
least duration reads as its successor. -/
def readBack (d : Duration) : Duration := clamp (max d.millis (minMillis + 1))

theorem parse_render_eq_readBack (d : Duration) : parse? d.render = some d.readBack :=
  parse_render d

theorem readBack_eq_self_iff (d : Duration) : d.readBack = d ↔ d.millis ≠ minMillis := by
  have hlow := d.min_le
  have hhigh := d.le_max
  have hmin : minMillis = -9223372036854775808 := rfl
  have hmax : maxMillis = 9223372036854775807 := rfl
  constructor
  · intro h hleast
    have hmillis := congrArg Duration.millis h
    simp only [readBack, clamp_millis] at hmillis
    omega
  · intro hne
    apply eq_of_millis_eq
    simp only [readBack, clamp_millis]
    omega

theorem map_readBack_eq_self_iff {o : Option Duration} :
    o.map readBack = o ↔ ∀ d ∈ o, d.millis ≠ minMillis := by
  cases o <;> simp [readBack_eq_self_iff]

/-- The text of a duration reads back as the duration exactly when it is not the least one,
`-2^63`, which reads back as `-(2^63 - 1)`. -/
theorem fromText_render_eq_ok_iff (d : Duration) :
    fromText d.render = .ok d ↔ d.millis ≠ minMillis := by
  have hlow := d.min_le
  have hhigh := d.le_max
  have hmin : minMillis = -9223372036854775808 := rfl
  have hmax : maxMillis = 9223372036854775807 := rfl
  rw [fromText_render, Except.ok.injEq]
  constructor
  · intro h hleast
    have hmillis := congrArg Duration.millis h
    rw [clamp_millis] at hmillis
    omega
  · intro hne
    apply eq_of_millis_eq
    rw [clamp_millis]
    omega

/-- Distinct durations have distinct texts, the least one included. -/
theorem render_injective : Function.Injective render := by
  intro a b h
  have hread := parse_render a
  rw [h, parse_render b, Option.some.injEq] at hread
  have hmillis := congrArg Duration.millis hread
  rw [clamp_millis, clamp_millis] at hmillis
  have hmin : minMillis = -9223372036854775808 := rfl
  have hmax : maxMillis = 9223372036854775807 := rfl
  have ha := a.min_le
  have hb := b.min_le
  have ha' := a.le_max
  have hb' := b.le_max
  by_cases heq : a.millis = b.millis
  · exact eq_of_millis_eq heq
  · -- the reader merges only the least duration and its successor, whose texts differ
    exfalso
    have hpair : (a.millis = minMillis ∧ b.millis = minMillis + 1) ∨
        (b.millis = minMillis ∧ a.millis = minMillis + 1) := by
      omega
    have hdiffer : render (clamp minMillis) ≠ render (clamp (minMillis + 1)) := by
      decide
    rcases hpair with ⟨ha, hb⟩ | ⟨hb, ha⟩
    · rw [← clamp_millis_self a, ← clamp_millis_self b, ha, hb] at h
      exact hdiffer h
    · rw [← clamp_millis_self a, ← clamp_millis_self b, ha, hb] at h
      exact hdiffer h.symm

/-! ### The characters of the text -/

/-- The text of a duration is made of letters, digits and a leading `-`. -/
theorem render_chars (d : Duration) :
    ∀ c ∈ d.render.toList, c.isAlphanum = true ∨ c = '-' := by
  by_cases h0 : d.millis = 0
  · rw [render_zero h0]
    simp
  · have hunits : ∀ s ∈ writtenUnits.map Prod.fst, ∀ c ∈ s.toList, c.isAlpha = true := by
      simp [writtenUnits]
    rw [toList_render_of_ne_zero d h0]
    intro c hc
    rcases List.mem_append.mp hc with hsign | hgroups
    · right
      split at hsign <;> simp_all
    · left
      obtain ⟨g, hg, hcg⟩ := List.mem_flatMap.mp hgroups
      rcases List.mem_append.mp hcg with hdigit | hunit
      · simp [Char.isAlphanum, isDigit_of_mem_toDigits hdigit]
      · simp [Char.isAlphanum, hunits g.2 (isUnit_of_mem_components hg) c hunit]

theorem render_toList_ne_nil (d : Duration) : d.render.toList ≠ [] := by
  by_cases h0 : d.millis = 0
  · rw [render_zero h0]
    simp
  · rw [toList_render_of_ne_zero d h0]
    obtain ⟨g, gs, hgs⟩ := List.exists_cons_of_ne_nil
      (components_ne_nil (Int.natAbs_pos.mpr h0))
    rw [hgs]
    simp [groupChars, Nat.toDigits_ne_nil]

end PromRules.Duration
