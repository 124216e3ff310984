import Mathlib
import PromRules.Rule.Decode
import PromRules.Proofs.DurationText

/-!
A rule file read back from its JSON.

The JSON of a rule file is an object with one member, `groups`; a group's object has `name`,
`interval` when there is one, and `rules`; a rule's object has `alert` or `record`, then `expr`,
then each optional part that is present (`RealizedRule.fieldKeys`). Reading the JSON back gives
every name, query text and label map as written, and every duration as its text reads back
(`Duration.readBack`): the least duration comes back as its successor. The main statement,
`ofJson_nodeJson_toNode`, says that the file read back is the file with its durations read back,
and so the file itself exactly when none of its durations is the least one.

Every field is read from the entry written under its name (`Fields.get?_written`,
`Fields.optional?_written`). A label map is read back by setting its keys in the order written,
which builds the map again since its keys increase (`LabelMap.ofPairs_entries`).
-/

namespace PromRules.Json

/-- Looking a key up among members put together: the later members are looked at first. -/
@[simp] theorem field?_append (l₁ l₂ : List (String × Json)) (key : String) :
    field? (.object (l₁ ++ l₂)) key = (field? (.object l₂) key).or (field? (.object l₁) key) := by
  simp [field?, List.reverse_append, List.find?_append, Option.map_or]

@[simp] theorem field?_nil (key : String) : field? (.object []) key = none := rfl

@[simp] theorem field?_cons (k : String) (v : Json) (rest : List (String × Json)) (key : String) :
    field? (.object ((k, v) :: rest)) key =
      (field? (.object rest) key).or (if k = key then some v else none) := by
  rw [← List.singleton_append, field?_append]
  by_cases h : k = key <;> simp [field?, h]

theorem field?_of_not_mem {members : List (String × Json)} {key : String}
    (h : key ∉ members.map Prod.fst) : field? (.object members) key = none := by
  unfold field?
  rw [Option.map_eq_none_iff, List.find?_eq_none]
  intro x hx hkey
  exact h (List.mem_map.2 ⟨x, List.mem_reverse.1 hx, by simpa using hkey⟩)

/-- With each key written once, a key finds the value written with it. -/
theorem field?_of_mem {members : List (String × Json)} (hkeys : (members.map Prod.fst).Nodup)
    {key : String} {v : Json} (hmem : (key, v) ∈ members) :
    field? (.object members) key = some v := by
  induction members with
  | nil => cases hmem
  | cons m rest ih =>
    obtain ⟨hfresh, hrest⟩ := List.nodup_cons.1 hkeys
    rw [← List.singleton_append, field?_append]
    rcases List.mem_cons.1 hmem with rfl | hmem
    · rw [field?_of_not_mem hfresh]
      simp [field?]
    · rw [ih hrest hmem]
      rfl

end PromRules.Json

namespace PromRules.Rule

open Yaml

/-! ### The JSON of a tree -/

@[simp] theorem nodeJson_scalar (s : String) : nodeJson (.scalar s) = .string s := by
  simp [nodeJson]

@[simp] theorem itemsJson_eq_map (items : List Node) : itemsJson items = items.map nodeJson := by
  induction items with
  | nil => rfl
  | cons item rest ih => rw [itemsJson, ih, List.map_cons]

theorem entriesJson_eq_map (entries : List (String × Node)) :
    entriesJson entries = entries.map fun e => (e.1, nodeJson e.2) := by
  induction entries with
  | nil => rfl
  | cons entry rest ih =>
    obtain ⟨key, value⟩ := entry
    rw [entriesJson, ih, List.map_cons]

@[simp] theorem nodeJson_seq (items : List Node) : nodeJson (.seq items) = .array (items.map nodeJson) := by
  simp [nodeJson]

/-- No tree is written as `null`. -/
theorem nodeJson_ne_null (n : Node) : nodeJson n ≠ .null := by
  cases n <;> simp [nodeJson]

theorem lookup_eq_find? {β : Type} (l : List (String × β)) (key : String) :
    l.lookup key = (l.find? (·.1 == key)).map (·.2) := by
  induction l with
  | nil => rfl
  | cons e rest ih =>
    obtain ⟨k, v⟩ := e
    by_cases h : key = k
    · subst h
      simp
    · simp [List.lookup_cons, beq_false_of_ne h, beq_false_of_ne (Ne.symm h), ih]

/-- A member of a record's JSON is the JSON of the entry written last under its key. -/
@[simp] theorem field?_nodeJson_map (entries : List (String × Node)) (key : String) :
    Json.field? (nodeJson (.map entries)) key = (entries.reverse.lookup key).map nodeJson := by
  simp [nodeJson, Json.field?, entriesJson_eq_map, ← List.map_reverse, List.find?_map,
    lookup_eq_find?, Function.comp_def]

/-! ### The fields of a written record -/

namespace Fields

@[simp] theorem ofJson?_nodeJson_map (entries : List (String × Node)) (count : Nat) :
    Fields.ofJson? (nodeJson (.map entries)) count = some (.named (entriesJson entries)) := by
  simp [Fields.ofJson?, nodeJson]

/-- A field of a written record, looked up by name, is what was written last under the name. -/
@[simp] theorem get?_written (entries : List (String × Node)) (index : Nat) (key : String) :
    (Fields.named (entriesJson entries)).get? index key =
      (entries.reverse.lookup key).map nodeJson :=
  field?_nodeJson_map entries key

@[simp] theorem string?_written (entries : List (String × Node)) (index : Nat) (key : String) :
    (Fields.named (entriesJson entries)).string? index key =
      (entries.reverse.lookup key).bind fun n => (nodeJson n).asString? := by
  simp [string?, Option.bind_map]

/-- An optional field of a written record is absent when nothing was written under its name, and
is read from what was written otherwise, since no tree is written as `null`. -/
@[simp] theorem optional?_written {α : Type} (entries : List (String × Node)) (index : Nat)
    (key : String) (read : Json → Option α) :
    (Fields.named (entriesJson entries)).optional? index key read =
      (entries.reverse.lookup key).elim (some none) fun n => (read (nodeJson n)).map some := by
  unfold optional?
  rw [get?_written]
  cases entries.reverse.lookup key with
  | none => rfl
  | some n =>
    have hnull := nodeJson_ne_null n
    rw [Option.map_some, Option.elim_some]
    split
    · next h => cases h
    · next h => exact absurd (Option.some.inj h) hnull
    · next v _ _ h => rw [← Option.some.inj h]

end Fields

/-- A present optional field is read as `some` of what it reads as. -/
@[simp] theorem elim_some_none {α β : Type} (o : Option α) (f : α → β) :
    o.elim (some none) (fun x => some (some (f x))) = some (o.map f) := by
  cases o <;> rfl

/-! ### Optional parts -/

@[simp] theorem reverse_durationField (key : String) (o : Option Duration) :
    (durationField key o).reverse = durationField key o := by
  cases o <;> rfl

@[simp] theorem reverse_labelsField (key : String) (o : Option LabelMap) :
    (labelsField key o).reverse = labelsField key o := by
  cases o <;> rfl

@[simp] theorem lookup_durationField (key k : String) (o : Option Duration) :
    (durationField key o).lookup k = if k = key then o.map fun d => .scalar d.render else none := by
  cases o with
  | none => simp [durationField]
  | some d =>
    by_cases h : k = key
    · simp [durationField, h]
    · simp [durationField, List.lookup_cons, h, beq_false_of_ne h]

@[simp] theorem lookup_labelsField (key k : String) (o : Option LabelMap) :
    (labelsField key o).lookup k = if k = key then o.map LabelMap.toNode else none := by
  cases o with
  | none => simp [labelsField]
  | some m =>
    by_cases h : k = key
    · simp [labelsField, h]
    · simp [labelsField, List.lookup_cons, h, beq_false_of_ne h]

/-! ### Label maps and durations -/

namespace LabelMap

/-- A key above every key of a sorted list is set at its end. -/
theorem setEntry_of_lt {key value : String} {entries : List (String × String)}
    (h : ∀ k ∈ entries.map Prod.fst, k < key) :
    setEntry key value entries = entries ++ [(key, value)] := by
  induction entries with
  | nil => rfl
  | cons entry rest ih =>
    obtain ⟨k, v⟩ := entry
    have hk : k < key := h k (by simp)
    have hrest := ih fun k' hk' => h k' (by simp [hk'])
    simp [setEntry, hk.ne', not_lt_of_gt hk, hrest]

@[simp] theorem entries_insert (m : LabelMap) (key value : String) :
    (m.insert key value).entries = setEntry key value m.entries := rfl

/-- Setting the entries of a map in order builds the map again. -/
theorem ofPairs_entries (m : LabelMap) : ofPairs m.entries = m := by
  obtain ⟨entries, hsorted⟩ := m
  ext1
  simp only [ofPairs]
  -- from the right: each entry is set above all the keys before it
  induction entries using List.reverseRecOn with
  | nil => rfl
  | append_singleton init last ih =>
    rw [List.map_append, List.pairwise_append] at hsorted
    obtain ⟨hinit, -, hlast⟩ := hsorted
    rw [List.foldl_append, List.foldl_cons, List.foldl_nil, entries_insert, ih hinit,
      setEntry_of_lt fun k hk => hlast k hk last.1 (by simp)]

theorem nodeJson_toNode (m : LabelMap) :
    nodeJson m.toNode = .object (m.entries.map fun e => (e.1, .string e.2)) := by
  simp [LabelMap.toNode, nodeJson, entriesJson_eq_map, Function.comp_def]

end LabelMap

/-- A traversal in `Option` that succeeds on every item gives their results, in order. -/
theorem mapM_eq_some_map {α β : Type} {f : α → Option β} {g : α → β} {xs : List α}
    (h : ∀ x ∈ xs, f x = some (g x)) : xs.mapM f = some (xs.map g) := by
  induction xs with
  | nil => rfl
  | cons x rest ih =>
    rw [List.mapM_cons, h x (by simp), ih fun y hy => h y (by simp [hy])]
    rfl

/-- An object of strings with each key once reads as the map made by setting its pairs in
order. -/
theorem readLabelMap_strings {pairs : List (String × String)} (hkeys : (pairs.map Prod.fst).Nodup) :
    readLabelMap (.object (pairs.map fun e => (e.1, .string e.2))) =
      some (LabelMap.ofPairs pairs) := by
  have hkeys' : ((pairs.map fun e => (e.1, Json.string e.2)).map Prod.fst).Nodup := by
    simpa [Function.comp_def] using hkeys
  -- each key finds its own value, since no key is written twice
  have hvalue (e : String × String) (he : e ∈ pairs) :
      (Json.field? (.object (pairs.map fun e => (e.1, .string e.2))) e.1).bind Json.asString? =
        some e.2 := by
    rw [Json.field?_of_mem hkeys' (List.mem_map_of_mem he)]
    rfl
  simp only [readLabelMap, Json.asObject?, Option.bind_eq_bind, Option.bind_some, List.mapM_map]
  rw [mapM_eq_some_map (g := id) fun e he => by simp [hvalue e he]]
  simp

/-- A label map reads back from its JSON as it is: its keys are distinct, and setting them in
order builds the map again. -/
@[simp] theorem readLabelMap_toNode (m : LabelMap) : readLabelMap (nodeJson m.toNode) = some m := by
  rw [LabelMap.nodeJson_toNode, readLabelMap_strings m.sorted.nodup, LabelMap.ofPairs_entries]

@[simp] theorem readDuration_render (d : Duration) :
    readDuration (.string d.render) = some d.readBack := by
  simp [readDuration, Json.asString?, Duration.parse_render_eq_readBack]

/-! ### Rules -/

section Read

-- the written records are lists of literal keys followed by optional parts
attribute [local simp] List.lookup_append List.lookup_cons

/-- The alert with its durations as their texts read back. -/
def RealizedAlert.readBack (a : RealizedAlert) : RealizedAlert :=
  { a with holdFor := a.holdFor.map Duration.readBack, fireFor := a.fireFor.map Duration.readBack }

/-- An alert reads back from its JSON with its durations read back: every field is read from
the entry written under its name. -/
theorem readAlert_toNode (a : RealizedAlert) : readAlert (nodeJson a.toNode) = some a.readBack := by
  simp [readAlert, RealizedAlert.toNode, Json.asString?, Function.comp_def, RealizedAlert.readBack]

/-- A recording does not read as an alert: nothing is written under `alert`. -/
theorem readAlert_recording (r : RealizedRecording) : readAlert (nodeJson r.toNode) = none := by
  simp [readAlert, RealizedRecording.toNode]

theorem readRecording_toNode (r : RealizedRecording) :
    readRecording (nodeJson r.toNode) = some r := by
  simp [readRecording, RealizedRecording.toNode, Json.asString?, Function.comp_def]

/-- A rule with its durations as their texts read back. -/
def RealizedRule.readBack : RealizedRule → RealizedRule
  | .alert a => .alert a.readBack
  | .recording r => .recording r

/-- A rule reads back from its JSON, alert or recording as it was, with its durations read
back. -/
theorem RealizedRule.ofJson_toJson (r : RealizedRule) :
    RealizedRule.ofJson? r.toJson = some r.readBack := by
  cases r with
  | alert a =>
    simp [RealizedRule.ofJson?, RealizedRule.toJson, RealizedRule.toNode, readAlert_toNode,
      RealizedRule.readBack]
  | recording r =>
    simp [RealizedRule.ofJson?, RealizedRule.toJson, RealizedRule.toNode, readAlert_recording,
      readRecording_toNode, RealizedRule.readBack]

/-! ### Groups and files -/

/-- A group with its interval and its rules' durations read back. -/
def RuleGroup.readBack (g : RuleGroup) : RuleGroup :=
  ⟨g.name, g.interval.map Duration.readBack, g.rules.map RealizedRule.readBack⟩

theorem RuleGroup.ofJson_toNode (g : RuleGroup) :
    RuleGroup.ofJson? (nodeJson g.toNode) = some g.readBack := by
  -- each rule reads back on its own
  have hread : g.rules.mapM (fun r => RealizedRule.ofJson? (nodeJson r.toNode)) =
      some (g.rules.map RealizedRule.readBack) :=
    mapM_eq_some_map fun r _ => RealizedRule.ofJson_toJson r
  simp [RuleGroup.ofJson?, RuleGroup.toNode, Json.asString?, Json.asArray?, Function.comp_def,
    hread, RuleGroup.readBack]

/-- A rule file with every duration read back. -/
def RuleFile.readBack (f : RuleFile) : RuleFile := ⟨f.groups.map RuleGroup.readBack⟩

theorem RuleFile.ofJson_toNode (f : RuleFile) :
    RuleFile.ofJson? (nodeJson f.toNode) = some f.readBack := by
  have hread : f.groups.mapM (fun g => RuleGroup.ofJson? (nodeJson g.toNode)) =
      some (f.groups.map RuleGroup.readBack) :=
    mapM_eq_some_map fun g _ => RuleGroup.ofJson_toNode g
  simp [RuleFile.ofJson?, RuleFile.toNode, Json.asArray?, Function.comp_def, hread,
    RuleFile.readBack]

end Read

/-! ### What reading back changes -/

/-- The durations of a rule: an alert's `for` and `fire_for`. -/
def RealizedRule.durations : RealizedRule → List Duration
  | .alert a => a.holdFor.toList ++ a.fireFor.toList
  | .recording _ => []

theorem map_eq_self_iff {α : Type} {f : α → α} {l : List α} : l.map f = l ↔ ∀ x ∈ l, f x = x := by
  conv_lhs => rhs; rw [← List.map_id l]
  exact List.map_eq_map_iff

theorem RealizedRule.readBack_eq_self_iff {r : RealizedRule} :
    r.readBack = r ↔ ∀ d ∈ r.durations, d.millis ≠ Duration.minMillis := by
  cases r with
  | alert a =>
    obtain ⟨name, expr, holdFor, fireFor, labels, annotations⟩ := a
    simp only [RealizedRule.readBack, RealizedAlert.readBack, RealizedRule.durations,
      RealizedRule.alert.injEq, RealizedAlert.mk.injEq, List.mem_append, Option.mem_toList]
    rw [Duration.map_readBack_eq_self_iff, Duration.map_readBack_eq_self_iff]
    simp only [true_and, and_true]
    constructor
    · rintro ⟨hhold, hfire⟩ d (hd | hd)
      · exact hhold d hd
      · exact hfire d hd
    · intro h
      exact ⟨fun d hd => h d (.inl hd), fun d hd => h d (.inr hd)⟩
  | recording r => simp [RealizedRule.readBack, RealizedRule.durations]

theorem RuleGroup.readBack_eq_self_iff {g : RuleGroup} :
    g.readBack = g ↔ (∀ d ∈ g.interval, d.millis ≠ Duration.minMillis) ∧
      ∀ r ∈ g.rules, ∀ d ∈ r.durations, d.millis ≠ Duration.minMillis := by
  obtain ⟨name, interval, rules⟩ := g
  simp only [RuleGroup.readBack, RuleGroup.mk.injEq, true_and, Duration.map_readBack_eq_self_iff,
    map_eq_self_iff, RealizedRule.readBack_eq_self_iff]

/-- A rule file is unchanged by reading back exactly when none of its durations is the least
one. -/
theorem RuleFile.readBack_eq_self_iff {f : RuleFile} :
    f.readBack = f ↔ ∀ g ∈ f.groups, (∀ d ∈ g.interval, d.millis ≠ Duration.minMillis) ∧
      ∀ r ∈ g.rules, ∀ d ∈ r.durations, d.millis ≠ Duration.minMillis := by
  obtain ⟨groups⟩ := f
  simp only [RuleFile.readBack, RuleFile.mk.injEq, map_eq_self_iff, RuleGroup.readBack_eq_self_iff]

/-! ### The keys of a rule's object -/

/-- The keys of a rule's JSON object, in order: the key of its name and `expr`, then the key of
each optional part that is present. -/
def RealizedRule.fieldKeys : RealizedRule → List String
  | .alert a => ["alert", "expr"] ++ a.holdFor.toList.map (fun _ => "for") ++
      a.fireFor.toList.map (fun _ => "fire_for") ++ a.labels.toList.map (fun _ => "labels") ++
      a.annotations.toList.map (fun _ => "annotations")
  | .recording r => ["record", "expr"] ++ r.labels.toList.map (fun _ => "labels")

theorem keys_durationField (key : String) (o : Option Duration) :
    ((durationField key o).map fun e => (e.1, nodeJson e.2)).map Prod.fst =
      o.toList.map fun _ => key := by
  cases o <;> rfl

theorem keys_labelsField (key : String) (o : Option LabelMap) :
    ((labelsField key o).map fun e => (e.1, nodeJson e.2)).map Prod.fst =
      o.toList.map fun _ => key := by
  cases o <;> rfl

theorem RealizedRule.keys_toJson (r : RealizedRule) :
    r.toJson.asObject?.map (List.map Prod.fst) = some r.fieldKeys := by
  cases r with
  | alert a =>
    simp only [RealizedRule.toJson, RealizedRule.toNode, RealizedAlert.toNode, nodeJson,
      entriesJson_eq_map, Json.asObject?, Option.map_some, List.map_append, keys_durationField,
      keys_labelsField, RealizedRule.fieldKeys]
    rfl
  | recording r =>
    simp only [RealizedRule.toJson, RealizedRule.toNode, RealizedRecording.toNode, nodeJson,
      entriesJson_eq_map, Json.asObject?, Option.map_some, List.map_append, keys_labelsField,
      RealizedRule.fieldKeys]
    rfl

/-! ### The file read back -/

/-- The JSON of a rule file reads back as the file with every duration read back: so as the
file itself exactly when none of its durations is the least one. Each rule's object has the keys of
`RealizedRule.fieldKeys`: its name's key, `expr`, and the key of each optional part that is
present. -/
theorem ofJson_nodeJson_toNode (f : RuleFile) :
    RuleFile.ofJson? (nodeJson f.toNode) = some f.readBack ∧
      (RuleFile.ofJson? (nodeJson f.toNode) = some f ↔
        ∀ g ∈ f.groups, (∀ d ∈ g.interval, d.millis ≠ Duration.minMillis) ∧
          ∀ r ∈ g.rules, ∀ d ∈ r.durations, d.millis ≠ Duration.minMillis) ∧
      ∀ g ∈ f.groups, ∀ r ∈ g.rules,
        r.toJson.asObject?.map (List.map Prod.fst) = some r.fieldKeys := by
  have hread := RuleFile.ofJson_toNode f
  refine ⟨hread, ?_, fun g _ r _ => r.keys_toJson⟩
  rw [hread, Option.some.injEq]
  exact RuleFile.readBack_eq_self_iff

/-- A file of one alert whose group is evaluated every least duration. -/
def leastIntervalFile : RuleFile :=
  ⟨[⟨"rules", some (Duration.clamp Duration.minMillis),
    [.alert ⟨"Down", "up == 0", none, none, some (LabelMap.ofPairs [("team", "db")]), none⟩]⟩]⟩

/-- The file whose interval is the least duration does not read back as itself: the interval
comes back as its successor. -/
theorem leastInterval_not_read_back :
    RuleFile.ofJson? (nodeJson leastIntervalFile.toNode) ≠ some leastIntervalFile := by
  intro hsame
  have hinterval := ((ofJson_nodeJson_toNode leastIntervalFile).2.1.1 hsame _
    (List.mem_singleton_self _)).1
  exact hinterval _ rfl (Duration.clamp_of_mem _ le_rfl (by decide))

end PromRules.Rule
