import PromRules.Rule.Bundle

/-!
Alert names are settled by one renaming.

`alertName` cuts an identifier at its underscores and replaces the first character of each piece
by its uppercase mapping. What comes out has no underscore left, since no piece holds one and no
character other than `_` is mapped to one; and it starts with a character that uppercasing
leaves alone, since the uppercase mapping of any character starts with such a character. A name
with both properties is its own alert name (`alertName_eq_self`), so renaming twice is renaming
once, and registering an alert under an identifier that is already an alert name registers it
under that name (`alertName_settled`).

The two facts about the uppercase mapping are facts of the case table (`upperChars_settled`). A
code point that is neither a key of the special list nor covered by a run maps to itself. The
others are checked in one pass over the table (`upperTable_settled`): every mapping is made of
characters other than `_`, and its first code point is outside the table. That membership test
runs on the bits of a single number (`bitSet`), so the kernel checks the whole table in seconds.
-/

namespace PromRules.Text

/-! ### The points the uppercase mapping moves -/

/-- The code points a run covers, in increasing order. -/
def CaseRun.points (r : CaseRun) : List Nat :=
  ((List.range (r.last + 1 - r.first)).map (r.first + ·)).filter r.covers

theorem CaseRun.mem_points {r : CaseRun} {n : Nat} : n ∈ r.points ↔ r.covers n = true := by
  constructor
  · intro h
    exact (List.mem_filter.1 h).2
  · intro h
    have hle : r.first ≤ n ∧ n ≤ r.last := by
      simp only [CaseRun.covers, Bool.and_eq_true, decide_eq_true_eq] at h
      exact h.1
    refine List.mem_filter.2 ⟨List.mem_map.2 ⟨n - r.first, List.mem_range.2 ?_, ?_⟩, h⟩ <;> omega

/-- The code points the uppercase mapping may move: the keys of its special list and the points
of its runs. -/
def upperMoved : List Nat := upperSpecial.map Prod.fst ++ upperRuns.flatMap CaseRun.points

/-- What the uppercase mapping does to a character: a special mapping, one run's shift, or
nothing. -/
theorem upperChars_cases (c : Char) :
    (∃ p ∈ upperSpecial, upperChars c = p.2.map Char.ofNat) ∨
      (∃ r ∈ upperRuns, r.covers c.toNat = true ∧
        upperChars c = [Char.ofNat ((c.toNat : Int) + r.shift).toNat]) ∨
      upperChars c = [c] := by
  unfold upperChars mapCase
  split
  · rename_i k cs hfind
    exact .inl ⟨(k, cs), List.mem_of_find?_eq_some hfind, rfl⟩
  · split
    · rename_i r hfind
      have hcovers : r.covers c.toNat = true := by simpa using List.find?_some hfind
      exact .inr (.inl ⟨r, List.mem_of_find?_eq_some hfind, hcovers, rfl⟩)
    · exact .inr (.inr rfl)

/-- A character outside the table is its own uppercase. -/
theorem upperChars_of_not_mem {c : Char} (h : c.toNat ∉ upperMoved) : upperChars c = [c] := by
  have hspecial : upperSpecial.find? (fun p => p.1 == c.toNat) = none := by
    rw [List.find?_eq_none]
    intro p hp hkey
    exact h (List.mem_append_left _ (List.mem_map.2 ⟨p, hp, by simpa using hkey⟩))
  have hruns : upperRuns.find? (fun r => r.covers c.toNat) = none := by
    rw [List.find?_eq_none]
    intro r hr hcovers
    exact h (List.mem_append_right _ (List.mem_flatMap.2 ⟨r, hr, CaseRun.mem_points.2 hcovers⟩))
  simp only [upperChars, mapCase, hspecial, hruns]

/-! ### A set of code points as the bits of a number -/

/-- The numbers of a list as the set bits of one number. -/
def bitSet (l : List Nat) : Nat := l.foldl (fun acc n => acc ||| 1 <<< n) 0

theorem testBit_foldl_or (l : List Nat) (acc n : Nat) :
    (l.foldl (fun acc m => acc ||| 1 <<< m) acc).testBit n = true ↔
      acc.testBit n = true ∨ n ∈ l := by
  induction l generalizing acc with
  | nil => simp
  | cons m rest ih =>
    rw [List.foldl_cons, ih, Nat.testBit_or, Nat.one_shiftLeft, Nat.testBit_two_pow]
    simp only [Bool.or_eq_true, decide_eq_true_eq, List.mem_cons]
    constructor
    · rintro ((hacc | rfl) | hrest)
      · exact .inl hacc
      · exact .inr (.inl rfl)
      · exact .inr (.inr hrest)
    · rintro (hacc | rfl | hrest)
      · exact .inl (.inl hacc)
      · exact .inl (.inr rfl)
      · exact .inr hrest

theorem testBit_bitSet {l : List Nat} {n : Nat} : (bitSet l).testBit n = true ↔ n ∈ l := by
  simp [bitSet, testBit_foldl_or]

/-! ### The table, checked -/

/-- A mapping, as code points, that is settled: it is not empty, each of its code points is a
character other than `_`, and its first one is outside the set `moved`. -/
def settledCodes (moved : Nat) : List Nat → Bool
  | [] => false
  | d :: ds => !moved.testBit d && (d :: ds).all fun x => decide x.isValidChar && x != 95

theorem toNat_ofNat_of_isValidChar {n : Nat} (h : n.isValidChar) : (Char.ofNat n).toNat = n := by
  rw [Char.ofNat, dif_pos h]
  rfl

/-- What a settled mapping gives as characters: no `_`, and a first character that is its own
uppercase. -/
theorem settled_of_settledCodes {cs : List Nat} (h : settledCodes (bitSet upperMoved) cs = true) :
    ∃ d ds, cs.map Char.ofNat = d :: ds ∧ '_' ∉ d :: ds ∧ upperChars d = [d] := by
  cases cs with
  | nil => simp [settledCodes] at h
  | cons x xs =>
    simp only [settledCodes, Bool.and_eq_true, Bool.not_eq_true', List.all_eq_true,
      decide_eq_true_eq, bne_iff_ne] at h
    obtain ⟨hfirst, hall⟩ := h
    refine ⟨Char.ofNat x, xs.map Char.ofNat, rfl, ?_, ?_⟩
    · -- a valid code point other than 95 is a character other than `_`
      rw [← List.map_cons]
      intro hmem
      obtain ⟨y, hy, hyu⟩ := List.mem_map.1 hmem
      have hnat := toNat_ofNat_of_isValidChar (hall y hy).1
      rw [hyu] at hnat
      exact (hall y hy).2 (by simpa using hnat.symm)
    · apply upperChars_of_not_mem
      rw [toNat_ofNat_of_isValidChar (hall x (List.mem_cons_self ..)).1, ← testBit_bitSet]
      simp [hfirst]

/-- Every special mapping and every image of a run point is settled. -/
theorem upperTable_settled :
    (upperSpecial.all fun p => settledCodes (bitSet upperMoved) p.2) = true ∧
      (upperRuns.all fun r => r.points.all fun (n : Nat) =>
        settledCodes (bitSet upperMoved) [((n : Int) + r.shift).toNat]) = true := by
  decide +kernel

/-- The uppercase mapping of a character other than `_` has no `_`, and its first character is
its own uppercase. -/
theorem upperChars_settled {c : Char} (hc : c ≠ '_') :
    ∃ d ds, upperChars c = d :: ds ∧ '_' ∉ d :: ds ∧ upperChars d = [d] := by
  obtain ⟨hspecial, hruns⟩ := upperTable_settled
  rcases upperChars_cases c with ⟨p, hp, hupper⟩ | ⟨r, hr, hcovers, hupper⟩ | hupper
  · rw [hupper]
    exact settled_of_settledCodes (List.all_eq_true.1 hspecial p hp)
  · rw [hupper]
    exact settled_of_settledCodes
      (List.all_eq_true.1 (List.all_eq_true.1 hruns r hr) c.toNat (CaseRun.mem_points.2 hcovers))
  · exact ⟨c, [], hupper, by simpa using Ne.symm hc, hupper⟩

end PromRules.Text

namespace PromRules.Rule

open Text

/-! ### Alert names -/

/-- No piece of a split holds the character it was split at. -/
theorem not_mem_of_mem_splitOn {cs piece : List Char} {sep : Char} (h : piece ∈ cs.splitOn sep) :
    sep ∉ piece := by
  induction cs generalizing piece with
  | nil => simp_all
  | cons c rest ih =>
    rw [List.splitOn_cons_eq_if_modifyHead] at h
    split at h
    · rcases List.mem_cons.1 h with rfl | hrest
      · simp
      · exact ih hrest
    · obtain ⟨first, others, hsplit⟩ := List.exists_cons_of_ne_nil (List.splitOn_ne_nil sep rest)
      rw [hsplit, List.modifyHead_cons] at h
      rcases List.mem_cons.1 h with rfl | hothers
      · rename_i hne
        intro hmem
        rcases List.mem_cons.1 hmem with rfl | hfirst
        · simp at hne
        · exact ih (hsplit ▸ List.mem_cons_self ..) hfirst
      · exact ih (hsplit ▸ List.mem_cons_of_mem _ hothers)

theorem toList_capitalize_nil : (capitalize (String.ofList [])).toList = [] := rfl

theorem toList_capitalize_cons (c : Char) (rest : List Char) :
    (capitalize (String.ofList (c :: rest))).toList = upperChars c ++ rest := by
  simp [capitalize]

theorem toList_alertName (s : String) :
    (alertName s).toList =
      (s.toList.splitOn '_').flatMap fun piece => (capitalize (String.ofList piece)).toList := by
  simp [alertName, String.toList_join, List.flatMap_map]

/-- A capitalized piece without `_` has none. -/
theorem underscore_not_mem_capitalize {piece : List Char} (hpiece : '_' ∉ piece) :
    '_' ∉ (capitalize (String.ofList piece)).toList := by
  cases piece with
  | nil => simp only [toList_capitalize_nil, List.not_mem_nil, not_false_eq_true]
  | cons c rest =>
    have hc : c ≠ '_' := fun h => hpiece (h ▸ List.mem_cons_self ..)
    obtain ⟨d, ds, hupper, hfree, -⟩ := upperChars_settled hc
    rw [toList_capitalize_cons, hupper, List.mem_append, not_or]
    exact ⟨hfree, fun hrest => hpiece (List.mem_cons_of_mem _ hrest)⟩

theorem underscore_not_mem_alertName (s : String) : '_' ∉ (alertName s).toList := by
  rw [toList_alertName, List.mem_flatMap]
  rintro ⟨piece, hpiece, hmem⟩
  exact underscore_not_mem_capitalize (not_mem_of_mem_splitOn hpiece) hmem

/-- Pieces without `_`, capitalized and joined, start with a character that is its own
uppercase. -/
theorem head_capitalized_settled (pieces : List (List Char)) (hfree : ∀ p ∈ pieces, '_' ∉ p) :
    ∀ d ∈ (pieces.flatMap fun p => (capitalize (String.ofList p)).toList).head?,
      upperChars d = [d] := by
  induction pieces with
  | nil => simp
  | cons piece rest ih =>
    have hrest := ih fun p hp => hfree p (List.mem_cons_of_mem _ hp)
    cases piece with
    | nil => simpa only [List.flatMap_cons, toList_capitalize_nil, List.nil_append] using hrest
    | cons c cs =>
      -- the first piece is not empty, so its first character's mapping starts the name
      have hc : c ≠ '_' := fun h => hfree _ (List.mem_cons_self ..) (h ▸ List.mem_cons_self ..)
      obtain ⟨d, ds, hupper, -, hsettled⟩ := upperChars_settled hc
      simp only [List.flatMap_cons, toList_capitalize_cons, hupper, List.cons_append,
        List.head?_cons, Option.mem_def, Option.some.injEq]
      rintro _ rfl
      exact hsettled

theorem alertName_head_settled (s : String) :
    ∀ d ∈ (alertName s).toList.head?, upperChars d = [d] := by
  rw [toList_alertName]
  exact head_capitalized_settled _ fun _ hp => not_mem_of_mem_splitOn hp

/-- A name without `_` whose first character is its own uppercase is its own alert name. -/
theorem alertName_eq_self {s : String} (hfree : '_' ∉ s.toList)
    (hhead : ∀ d ∈ s.toList.head?, upperChars d = [d]) : alertName s = s := by
  rw [← String.toList_inj, toList_alertName, List.splitOn_eq_singleton hfree, List.flatMap_singleton]
  cases hs : s.toList with
  | nil => exact toList_capitalize_nil
  | cons d rest =>
    rw [hs] at hhead
    rw [toList_capitalize_cons, hhead d rfl]
    rfl

/-- An alert name has no `_`, renaming it again gives it back, and so does renaming any name
without `_` that starts with its own uppercase; registering an alert under an identifier that is
an alert name already is registering it under that identifier's name. -/
theorem alertName_settled :
    (∀ s : String, '_' ∉ (alertName s).toList ∧ alertName (alertName s) = alertName s) ∧
      (∀ s : String, '_' ∉ s.toList → (∀ d ∈ s.toList.head?, upperChars d = [d]) →
        alertName s = s) ∧
      ∀ (identifier : String) (result : Except RuleError AlertRule),
        Bundle.registerAlert (alertName identifier) result =
          Bundle.registerAlert identifier result := by
  have hidem : ∀ s : String, alertName (alertName s) = alertName s := fun s =>
    alertName_eq_self (underscore_not_mem_alertName s) (alertName_head_settled s)
  refine ⟨fun s => ⟨underscore_not_mem_alertName s, hidem s⟩, fun _ hfree hhead =>
    alertName_eq_self hfree hhead, fun identifier result => ?_⟩
  simp only [Bundle.registerAlert, hidem]

/-- A CamelCase name is left as it is. -/
theorem camelCase_name_kept :
    '_' ∉ "HighErrorRate".toList ∧ (∀ d ∈ "HighErrorRate".toList.head?, upperChars d = [d]) ∧
      alertName "HighErrorRate" = "HighErrorRate" := by
  have hfree : '_' ∉ "HighErrorRate".toList := by decide
  have hhead : ∀ d ∈ "HighErrorRate".toList.head?, upperChars d = [d] := by
    intro d hd
    have hH : d = 'H' := by simpa using hd.symm
    subst hH
    decide
  exact ⟨hfree, hhead, alertName_settled.2.1 "HighErrorRate" hfree hhead⟩

end PromRules.Rule
