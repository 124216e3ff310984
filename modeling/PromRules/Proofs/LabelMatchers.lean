import Mathlib.Data.List.Induction
import PromRules.Proofs.QueryBuild

/-!
Label matchers set one pair at a time.

`Expr.withLabels` walks its pairs in order: it checks each name, then sets the matcher of that
name in place if the selector has one and appends a new matcher otherwise. Read as a whole, the
matchers it leaves are the selector's own pairs followed by the new ones, merged
(`mergedMatchers`): every name once, at the place where it first appears, with the value of the
last pair that names it.

The proof is an invariant of the walk. Setting one pair on a merged list gives the merge of the
longer list (`setMatcher_mergedMatchers`), so a whole walk gives the merge of all the pairs
(`setMatchers_mergedMatchers`); a selector's own matchers, their names distinct, are the merge
of their pairs (`mergedMatchers_toPairs`). Main statement: `withLabels_merges`, with the first
refused name, the composition of two calls, and the refusal of every node but a selector.
-/

namespace PromRules.Query

/-- A matcher as a label pair. -/
def Matcher.toPair (m : Matcher) : String × String := (m.name, m.value)

/-- The label pairs a selector already has, in order. -/
def Selector.pairs (sel : Selector) : List (String × String) :=
  (sel.matchers.getD []).map Matcher.toPair

/-- The matchers a list of label pairs describes when read as a whole: each name once, in the
order names first appear, with the value of the last pair that names it. -/
def mergedMatchers (pairs : List (String × String)) : List Matcher :=
  (pairs.map Prod.fst).eraseDups.map fun name => ⟨name, (pairs.reverse.lookup name).getD ""⟩

/-! ### Names in order of first appearance -/

theorem nodup_eraseDups (names : List String) : names.eraseDups.Nodup := by
  cases names with
  | nil => exact .nil
  | cons name rest =>
    rw [List.eraseDups_cons]
    refine List.nodup_cons.2 ⟨?_, nodup_eraseDups (rest.filter fun n => !n == name)⟩
    rw [List.mem_eraseDups]
    simp
termination_by names.length
decreasing_by
  have h := List.length_filter_le (fun n => !n == name) rest
  simp only [List.length_cons]
  omega

theorem eraseDups_append_singleton (names : List String) (name : String) :
    (names ++ [name]).eraseDups =
      if name ∈ names then names.eraseDups else names.eraseDups ++ [name] := by
  rw [List.eraseDups_append]
  by_cases h : name ∈ names <;> simp [List.removeAll, List.eraseDups_cons, h]

theorem map_name_mergedMatchers (pairs : List (String × String)) :
    (mergedMatchers pairs).map Matcher.name = (pairs.map Prod.fst).eraseDups := by
  simp [mergedMatchers, Function.comp_def]

theorem nodup_mergedMatchers (pairs : List (String × String)) :
    ((mergedMatchers pairs).map Matcher.name).Nodup := by
  rw [map_name_mergedMatchers]
  exact nodup_eraseDups _

/-! ### One pair set -/

/-- Setting a pair on matchers with distinct names: the name keeps its place or goes at the
end, and only its value changes. -/
theorem setMatcher_map {names : List String} (h : names.Nodup) (value : String → String)
    (name v : String) :
    setMatcher (names.map fun n => ⟨n, value n⟩) name v =
      (if name ∈ names then names else names ++ [name]).map
        fun n => ⟨n, if n = name then v else value n⟩ := by
  induction names with
  | nil => simp [setMatcher]
  | cons n rest ih =>
    obtain ⟨hn, hrest⟩ := List.nodup_cons.1 h
    by_cases hname : n = name
    · -- the name is found here, and the rest of the list does not hold it
      subst hname
      have hkeep : ∀ m ∈ rest, (⟨m, if m = n then v else value m⟩ : Matcher) = ⟨m, value m⟩ :=
        fun m hm => by rw [if_neg (fun (heq : m = n) => hn (heq ▸ hm))]
      simp [setMatcher, List.map_congr_left hkeep]
    · have hne : name ≠ n := Ne.symm hname
      simp only [List.map_cons, setMatcher, beq_iff_eq, hname, if_false, ih hrest, List.mem_cons,
        hne, false_or]
      split <;> simp [hname]

theorem setMatcher_of_not_mem {ms : List Matcher} {name : String} (h : name ∉ ms.map Matcher.name)
    (v : String) : setMatcher ms name v = ms ++ [⟨name, v⟩] := by
  induction ms with
  | nil => rfl
  | cons m rest ih =>
    have hm : m.name ≠ name := fun heq => h (heq ▸ List.mem_cons_self ..)
    have hrest : name ∉ rest.map Matcher.name := fun hmem => h (List.mem_cons_of_mem _ hmem)
    simp [setMatcher, hm, ih hrest]

/-- Setting a pair on a merged list merges the list with that pair at its end. -/
theorem setMatcher_mergedMatchers (pairs : List (String × String)) (name v : String) :
    setMatcher (mergedMatchers pairs) name v = mergedMatchers (pairs ++ [(name, v)]) := by
  -- the last pair comes first in the reversed list, so it answers for its own name
  have hvalue : ∀ n, (((pairs ++ [(name, v)]).reverse.lookup n).getD "") =
      if n = name then v else (pairs.reverse.lookup n).getD "" := by
    intro n
    by_cases hn : n = name
    · simp [hn]
    · simp [List.lookup_cons, beq_eq_false_iff_ne.2 hn, hn]
  unfold mergedMatchers
  rw [setMatcher_map (nodup_eraseDups _), List.map_append, List.map_singleton,
    eraseDups_append_singleton]
  simp only [List.mem_eraseDups, hvalue]

/-! ### A whole walk -/

/-- A walk over pairs whose names all pass merges them onto the merged list it starts from. -/
theorem setMatchers_mergedMatchers (pairs : List (String × String))
    {more : List (String × String)} (h : ∀ p ∈ more, isLabelName p.1 = true) :
    setMatchers (mergedMatchers pairs) more = .ok (mergedMatchers (pairs ++ more)) := by
  induction more generalizing pairs with
  | nil => simp [setMatchers]
  | cons p rest ih =>
    obtain ⟨name, v⟩ := p
    have hname : isLabelName name = true := h (name, v) (List.mem_cons_self ..)
    have hcheck : checkLabelName name = .ok () := by simp [checkLabelName, hname]
    have hrest := ih (pairs ++ [(name, v)]) fun q hq => h q (List.mem_cons_of_mem _ hq)
    rw [List.append_assoc, List.singleton_append] at hrest
    simp only [setMatchers, hcheck, setMatcher_mergedMatchers]
    exact hrest

/-- Matchers with distinct names are the merge of their own pairs. -/
theorem mergedMatchers_toPairs {ms : List Matcher} (h : (ms.map Matcher.name).Nodup) :
    mergedMatchers (ms.map Matcher.toPair) = ms := by
  induction ms using List.reverseRecOn with
  | nil => rfl
  | append_singleton init m ih =>
    rw [List.map_append, List.nodup_append] at h
    obtain ⟨hinit, -, hdisjoint⟩ := h
    have hfresh : m.name ∉ init.map Matcher.name := fun hmem =>
      hdisjoint _ hmem _ (List.mem_singleton_self _) rfl
    rw [List.map_append, List.map_singleton, Matcher.toPair, ← setMatcher_mergedMatchers, ih hinit,
      setMatcher_of_not_mem hfresh]

/-- A walk stops at the first name that is not a label name, with that name's refusal. -/
theorem setMatchers_first_refused (ms : List Matcher) {pre : List (String × String)}
    {name : String} (v : String) (post : List (String × String))
    (hpre : ∀ p ∈ pre, isLabelName p.1 = true) (hname : isLabelName name = false) :
    setMatchers ms (pre ++ (name, v) :: post) =
      .error (.invalidName s!"'{name}' is not a valid label name") := by
  induction pre generalizing ms with
  | nil => simp [setMatchers, checkLabelName, hname, bind, Except.bind]
  | cons p rest ih =>
    have hp : checkLabelName p.1 = .ok () := by simp [checkLabelName, hpre p (List.mem_cons_self ..)]
    simp only [List.cons_append, setMatchers, hp]
    exact ih _ fun q hq => hpre q (List.mem_cons_of_mem _ hq)

/-- Walking two lists of pairs is walking them one after the other. -/
theorem setMatchers_append (ms : List Matcher) (pairs more : List (String × String)) :
    setMatchers ms (pairs ++ more) = setMatchers ms pairs >>= fun ms' => setMatchers ms' more := by
  induction pairs generalizing ms with
  | nil => rfl
  | cons p rest ih =>
    obtain ⟨name, v⟩ := p
    simp only [List.cons_append, setMatchers, ih]
    cases checkLabelName name <;> rfl

/-! ### Label matchers on an expression -/

namespace Expr

theorem withLabels_selector (sel : Selector) (pairs : List (String × String)) :
    (Expr.selector sel).withLabels pairs =
      (fun ms => .selector ⟨sel.name, some ms⟩) <$> setMatchers (sel.matchers.getD []) pairs :=
  rfl

/-- Adding labels in two calls is adding them in one. -/
theorem withLabels_append (e : Expr) (pairs more : List (String × String)) :
    (e.withLabels pairs >>= fun e' => e'.withLabels more) = e.withLabels (pairs ++ more) := by
  cases e with
  | selector sel =>
    rw [withLabels_selector, withLabels_selector, setMatchers_append]
    cases setMatchers (sel.matchers.getD []) pairs with
    | error err => rfl
    | ok ms => rfl
  | _ => rfl

end Expr

/-- Label matchers on a selector whose matcher names are distinct: when every new name is a
label name, the selector keeps its metric and gets the merge of its own pairs and the new ones,
whose names are distinct again; the first new name that is not a label name is refused; two
calls are one call on both lists; and every other node refuses label matchers. -/
theorem withLabels_merges (sel : Selector)
    (hsel : ((sel.matchers.getD []).map Matcher.name).Nodup) :
    (∀ pairs : List (String × String), (∀ p ∈ pairs, isLabelName p.1 = true) →
      (Expr.selector sel).withLabels pairs =
          .ok (.selector ⟨sel.name, some (mergedMatchers (sel.pairs ++ pairs))⟩) ∧
        ((mergedMatchers (sel.pairs ++ pairs)).map Matcher.name).Nodup) ∧
    (∀ (pre : List (String × String)) (name value : String) (post : List (String × String)),
      (∀ p ∈ pre, isLabelName p.1 = true) → isLabelName name = false →
      (Expr.selector sel).withLabels (pre ++ (name, value) :: post) =
        .error (.invalidName s!"'{name}' is not a valid label name")) ∧
    (∀ pairs more : List (String × String),
      ((Expr.selector sel).withLabels pairs >>= fun e => e.withLabels more) =
        (Expr.selector sel).withLabels (pairs ++ more)) ∧
    ∀ (e : Expr) (pairs : List (String × String)), (∀ s, e ≠ .selector s) →
      e.withLabels pairs = .error (illegal "label selector" e
        "only a selected instant vector accepts label matchers") := by
  have hown : sel.matchers.getD [] = mergedMatchers sel.pairs :=
    (mergedMatchers_toPairs hsel).symm
  refine ⟨fun pairs hpairs => ⟨?_, nodup_mergedMatchers _⟩, fun pre name value post hpre hname => ?_,
    Expr.withLabels_append _, fun e pairs hnot => ?_⟩
  · rw [Expr.withLabels_selector, hown, setMatchers_mergedMatchers _ hpairs]
    rfl
  · rw [Expr.withLabels_selector, setMatchers_first_refused _ value post hpre hname]
    rfl
  · cases e with
    | selector s => exact absurd rfl (hnot s)
    | _ => rfl

/-- A repeated name keeps its first place and takes its last value; a new name goes last. -/
theorem job_relabelled_env_added :
    (([⟨"job", "a"⟩] : List Matcher).map Matcher.name).Nodup ∧
      (Expr.selector ⟨"up", some [⟨"job", "a"⟩]⟩).withLabels
          [("env", "x"), ("job", "b"), ("env", "y")] =
        .ok (.selector ⟨"up", some [⟨"job", "b"⟩, ⟨"env", "y"⟩]⟩) := by
  have hnodup : (([⟨"job", "a"⟩] : List Matcher).map Matcher.name).Nodup := by decide
  have hvalid : ∀ p ∈ [("env", "x"), ("job", "b"), ("env", "y")], isLabelName p.1 = true := by
    decide
  have hmerged : mergedMatchers (Selector.pairs ⟨"up", some [⟨"job", "a"⟩]⟩ ++
      [("env", "x"), ("job", "b"), ("env", "y")]) = [⟨"job", "b"⟩, ⟨"env", "y"⟩] := by
    decide
  refine ⟨hnodup, ((withLabels_merges ⟨"up", some [⟨"job", "a"⟩]⟩ hnodup).1 _ hvalid).1.trans ?_⟩
  rw [hmerged]

end PromRules.Query
