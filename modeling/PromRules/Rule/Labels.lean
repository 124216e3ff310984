/-!
Label maps: string keys with string values, kept sorted by key.

Rules carry their labels and annotations as maps whose keys are listed in code point order, which
is the order in which they are written out. Setting a key that is present replaces its value, so
when one key is set several times the last value wins. A map carries the proof that its keys
increase (`LabelMap.sorted`): the empty map has it, and setting a key keeps it
(`LabelMap.sorted_setEntry`), so no map with a key twice or out of order can be built.
-/

namespace PromRules.Rule

/-- Sets a key in a sorted entry list: its value is replaced, or it is put in its place. -/
def LabelMap.setEntry (key value : String) : List (String × String) → List (String × String)
  | [] => [(key, value)]
  | (k, v) :: rest =>
    if key = k then (key, value) :: rest
    else if key < k then (key, value) :: (k, v) :: rest
    else (k, v) :: setEntry key value rest

namespace LabelMap

theorem mem_keys_setEntry {key value k : String} {entries : List (String × String)}
    (h : k ∈ (setEntry key value entries).map Prod.fst) : k = key ∨ k ∈ entries.map Prod.fst := by
  induction entries with
  | nil => simpa [setEntry] using h
  | cons entry rest ih =>
    obtain ⟨k', v'⟩ := entry
    unfold setEntry at h
    split at h
    · next hsame => simp_all
    split at h
    · simp only [List.map_cons, List.mem_cons] at h
      rcases h with h | h | h <;> simp [h]
    · simp only [List.map_cons, List.mem_cons] at h
      rcases h with h | h
      · simp [h]
      · rcases ih h with h | h <;> simp [h]

/-- Setting a key keeps the keys increasing. -/
theorem sorted_setEntry {key value : String} {entries : List (String × String)}
    (h : (entries.map Prod.fst).Pairwise (· < ·)) :
    ((setEntry key value entries).map Prod.fst).Pairwise (· < ·) := by
  induction entries with
  | nil => simp [setEntry]
  | cons entry rest ih =>
    obtain ⟨k, v⟩ := entry
    rw [List.map_cons, List.pairwise_cons] at h
    obtain ⟨hk, hrest⟩ := h
    unfold setEntry
    split
    · -- the key is replaced in its place
      next hsame =>
      subst hsame
      simp only [List.map_cons, List.pairwise_cons]
      exact ⟨hk, hrest⟩
    split
    · -- the key goes before `k`, and so before every key after it
      next hlt =>
      simp only [List.map_cons, List.pairwise_cons, List.mem_cons]
      refine ⟨?_, hk, hrest⟩
      rintro k' (rfl | hk')
      · exact hlt
      · exact String.lt_trans hlt (hk k' hk')
    · -- the key goes after `k`
      next hsame hlt =>
      have hgt : k < key := Std.lt_of_le_of_ne (String.not_lt.1 hlt) (Ne.symm hsame)
      simp only [List.map_cons, List.pairwise_cons]
      refine ⟨?_, ih hrest⟩
      intro k' hk'
      rcases mem_keys_setEntry hk' with rfl | hk'
      · exact hgt
      · exact hk k' hk'

end LabelMap

/-- A map from label names to values, its entries sorted by key with no key twice. -/
structure LabelMap where
  entries : List (String × String)
  /-- The keys increase strictly, so each is listed once. -/
  sorted : (entries.map Prod.fst).Pairwise (· < ·)
deriving DecidableEq, Repr

namespace LabelMap

/-- The map with no entries. -/
def empty : LabelMap := ⟨[], .nil⟩

instance : Inhabited LabelMap := ⟨empty⟩

/-- The map with `key` set to `value`. -/
def insert (m : LabelMap) (key value : String) : LabelMap :=
  ⟨setEntry key value m.entries, sorted_setEntry m.sorted⟩

/-- The map made by setting each pair in turn. -/
def ofPairs (pairs : List (String × String)) : LabelMap :=
  pairs.foldl (fun m p => m.insert p.1 p.2) empty

/-- The value of a key. -/
def get? (m : LabelMap) (key : String) : Option String := (m.entries.find? (·.1 == key)).map (·.2)

/-- The keys in order. -/
def keys (m : LabelMap) : List String := m.entries.map (·.1)

/-- Two maps with the same entries are the same map. -/
@[ext] theorem ext {m m' : LabelMap} (h : m.entries = m'.entries) : m = m' := by
  cases m
  cases m'
  cases h
  rfl

theorem find_setEntry (key value : String) (entries : List (String × String)) :
    (setEntry key value entries).find? (·.1 == key) = some (key, value) := by
  induction entries with
  | nil => simp [setEntry]
  | cons entry rest ih =>
    obtain ⟨k, v⟩ := entry
    unfold setEntry
    by_cases same : key = k
    · simp [same]
    · by_cases before : key < k
      · simp [same, before]
      · have differs : (k == key) = false := by
          simp only [beq_eq_false_iff_ne]; exact fun h => same h.symm
        simp [same, before, differs, ih]

/-- After setting a key, looking it up gives the value just set. -/
theorem get?_insert (m : LabelMap) (key value : String) :
    (m.insert key value).get? key = some value := by
  simp [get?, insert, find_setEntry]

end LabelMap

end PromRules.Rule
