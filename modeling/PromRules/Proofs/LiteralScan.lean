import PromRules.Proofs.BlankFolding

/-!
The blank folder's state, character by character.

`foldBlanks` reads its text one character at a time, with three flags (inside a string literal,
just after a backslash there, a blank run waiting outside literals) and the characters written so
far in reverse. `FoldState.read` is that one step and `FoldState.scan` reads a whole text with
it; the folder carries on from where a scan leaves it (`foldBlanks_append_scan`), so the scan's
state after a prefix is the folder's state at that point.

Main statement: the folder reads a string literal written by `quote` as exactly one literal
(`quote_read_as_one_literal`). Started on its opening quote outside any literal, it copies every
character, stays inside the literal until the closing quote with no escape pending just before
it, and leaves the literal on that quote and at no earlier character; so `foldBlanks` copies the
quoted string whole and goes on outside any literal, whatever follows. The invariant is carried
by the literal body (`LiteralBody`): a character other than a backslash and a quote keeps the
state, and a backslash sets the escape flag that the next character clears, so a quote inside
the body is never read as the end (`LiteralBody.scan_take`, `LiteralBody.scan`).
-/

namespace PromRules.Query

open Text

/-- What the folder does with one character: its next state, and the characters written so far
in reverse. -/
def FoldState.read (st : FoldState) (out : List Char) (c : Char) : FoldState × List Char :=
  if st.inString then
    (if st.escaped then { st with escaped := false }
      else if c == '\\' then { st with escaped := true }
      else if c == '"' then { st with inString := false }
      else st, c :: out)
  else if isBlank c then ({ st with pendingSpace := true }, out)
  else ({ st with pendingSpace := false, inString := c == '"' },
    c :: if st.pendingSpace && !out.isEmpty then ' ' :: out else out)

/-- The folder's state and output after reading a text. -/
def FoldState.scan (st : FoldState) (out cs : List Char) : FoldState × List Char :=
  cs.foldl (fun p c => p.1.read p.2 c) (st, out)

/-- The folder inside a string literal, with no escape pending. -/
def FoldState.inLiteral : FoldState := ⟨true, false, false⟩

section

variable (st : FoldState) (out : List Char)

theorem foldBlanks_cons_read (c : Char) (rest : List Char) :
    foldBlanks st out (c :: rest) = foldBlanks (st.read out c).1 (st.read out c).2 rest := by
  cases hin : st.inString <;> cases hblank : isBlank c <;>
    simp [foldBlanks, FoldState.read, hin, hblank]

/-- The folder goes on from the state and output a scan of the text before leaves. -/
theorem foldBlanks_append_scan (pre rest : List Char) :
    foldBlanks st out (pre ++ rest) =
      foldBlanks (st.scan out pre).1 (st.scan out pre).2 rest := by
  induction pre generalizing st out with
  | nil => rfl
  | cons c pre ih => rw [List.cons_append, foldBlanks_cons_read, ih]; rfl

@[simp] theorem FoldState.scan_nil : st.scan out [] = (st, out) := rfl

@[simp] theorem FoldState.scan_cons (c : Char) (cs : List Char) :
    st.scan out (c :: cs) = (st.read out c).1.scan (st.read out c).2 cs := rfl

theorem FoldState.scan_append (xs ys : List Char) :
    st.scan out (xs ++ ys) = (st.scan out xs).1.scan (st.scan out xs).2 ys :=
  List.foldl_append

end

/-! ### One character -/

section

variable (out : List Char)

/-- An opening quote outside any literal enters one, after the space of a waiting blank run. -/
@[simp] theorem read_open (pending : Bool) :
    (⟨false, false, pending⟩ : FoldState).read out '"' =
      (.inLiteral, '"' :: if pending && !out.isEmpty then ' ' :: out else out) := by
  simp [FoldState.read, FoldState.inLiteral, isBlank_quote]

@[simp] theorem read_inLiteral_escaped (c : Char) :
    (⟨true, true, false⟩ : FoldState).read out c = (.inLiteral, c :: out) := by
  simp [FoldState.read, FoldState.inLiteral]

@[simp] theorem read_inLiteral_backslash :
    FoldState.inLiteral.read out '\\' = (⟨true, true, false⟩, '\\' :: out) := by
  simp [FoldState.read, FoldState.inLiteral]

@[simp] theorem read_inLiteral_quote :
    FoldState.inLiteral.read out '"' = (.outside, '"' :: out) := by
  simp [FoldState.read, FoldState.inLiteral, FoldState.outside]

theorem read_inLiteral_char {c : Char} (hback : c ≠ '\\') (hquote : c ≠ '"') :
    FoldState.inLiteral.read out c = (.inLiteral, c :: out) := by
  simp [FoldState.read, FoldState.inLiteral, hback, hquote]

end

/-! ### A literal body -/

/-- Reading a whole literal body keeps the folder inside the literal with no escape pending,
and copies the body. -/
theorem LiteralBody.scan {body : List Char} (hbody : LiteralBody body) (out : List Char) :
    FoldState.inLiteral.scan out body = (.inLiteral, body.reverse ++ out) := by
  induction hbody generalizing out with
  | nil => rfl
  | char hback hquote _ ih => simp [read_inLiteral_char _ hback hquote, ih]
  | escape c _ ih => simp [ih]

/-- Every prefix of a literal body leaves the folder inside the literal, having copied the
prefix; only the escape flag depends on where the prefix stops. -/
theorem LiteralBody.scan_take {body : List Char} (hbody : LiteralBody body) (out : List Char)
    (k : Nat) : ∃ escaped, FoldState.inLiteral.scan out (body.take k) =
      (⟨true, escaped, false⟩, (body.take k).reverse ++ out) := by
  induction hbody generalizing out k with
  | nil => exact ⟨false, by simp [FoldState.inLiteral]⟩
  | @char c rest hback hquote _ ih =>
    cases k with
    | zero => exact ⟨false, rfl⟩
    | succ k =>
      obtain ⟨escaped, hscan⟩ := ih (c :: out) k
      exact ⟨escaped, by simp [read_inLiteral_char _ hback hquote, hscan]⟩
  | escape c _ ih =>
    match k with
    | 0 => exact ⟨false, rfl⟩
    -- the backslash alone: the escape is pending
    | 1 => exact ⟨true, by simp⟩
    | k + 2 =>
      obtain ⟨escaped, hscan⟩ := ih (c :: '\\' :: out) k
      exact ⟨escaped, by simp [hscan]⟩

/-! ### A string literal -/

section

variable {body : List Char} (hbody : LiteralBody body) (pending : Bool) (out : List Char)
include hbody

/-- After the opening quote and the body the folder is inside the literal, with no escape
pending. -/
theorem LiteralBody.scan_opened :
    FoldState.scan ⟨false, false, pending⟩ out ('"' :: body) =
      (.inLiteral, body.reverse ++ '"' :: if pending && !out.isEmpty then ' ' :: out else out) := by
  rw [FoldState.scan_cons, read_open, hbody.scan]

/-- After the closing quote the folder is outside again, every character copied. -/
theorem LiteralBody.scan_literal :
    FoldState.scan ⟨false, false, pending⟩ out ('"' :: (body ++ ['"'])) =
      (.outside, ('"' :: (body ++ ['"'])).reverse ++
        if pending && !out.isEmpty then ' ' :: out else out) := by
  rw [← List.cons_append, FoldState.scan_append, hbody.scan_opened]
  simp

/-- The folder reads a literal with its quotes from the outside state: inside it after every
character but the closing quote, and outside after it, having copied every character. -/
theorem LiteralBody.scan_literal_take {k : Nat} (hk0 : 0 < k) (hk : k ≤ body.length + 2) :
    ∃ escaped, FoldState.scan ⟨false, false, pending⟩ out (('"' :: (body ++ ['"'])).take k) =
      (⟨decide (k < body.length + 2), escaped, false⟩,
        (('"' :: (body ++ ['"'])).take k).reverse ++
          if pending && !out.isEmpty then ' ' :: out else out) := by
  obtain ⟨j, rfl⟩ : ∃ j, k = j + 1 := ⟨k - 1, by omega⟩
  rcases Nat.lt_or_ge j (body.length + 1) with hj | hj
  · -- the closing quote is not yet read
    rw [List.take_succ_cons, List.take_append_of_le_length (by omega)]
    obtain ⟨escaped, hscan⟩ :=
      hbody.scan_take ('"' :: if pending && !out.isEmpty then ' ' :: out else out) j
    refine ⟨escaped, ?_⟩
    rw [FoldState.scan_cons, read_open, hscan]
    simp [show j + 1 < body.length + 2 by omega]
  · -- the whole literal is read
    have hlen : ('"' :: (body ++ ['"'])).length ≤ j + 1 := by simp; omega
    rw [List.take_of_length_le hlen, hbody.scan_literal]
    exact ⟨false, by simp [FoldState.outside, show ¬j + 1 < body.length + 2 by omega]⟩

end

/-- The folder reads a quoted string as exactly one literal. Started on its opening quote
outside any literal, after any blank run, it copies the string whole and carries on outside any
literal; it is inside the literal after every character but the last, with no escape pending just
before the last, and outside with no escape pending after it. -/
theorem quote_read_as_one_literal (v : String) (pending : Bool) (out : List Char) :
    (∀ rest, foldBlanks ⟨false, false, pending⟩ out ((quote v).toList ++ rest) =
      foldBlanks .outside ((quote v).toList.reverse ++
        if pending && !out.isEmpty then ' ' :: out else out) rest) ∧
    (∀ k, 0 < k → k ≤ (quote v).toList.length → ∃ escaped,
      FoldState.scan ⟨false, false, pending⟩ out ((quote v).toList.take k) =
        (⟨decide (k < (quote v).toList.length), escaped, false⟩,
          ((quote v).toList.take k).reverse ++
            if pending && !out.isEmpty then ' ' :: out else out)) ∧
    (FoldState.scan ⟨false, false, pending⟩ out (quote v).toList.dropLast).1 = .inLiteral ∧
    (FoldState.scan ⟨false, false, pending⟩ out (quote v).toList).1 = .outside := by
  have hbody := literalBody_escapeChars v.toList
  have hlen : (quote v).toList.length = (escapeChars v.toList).length + 2 := by
    simp [quote_toList]
  have hdrop : (quote v).toList.dropLast = '"' :: escapeChars v.toList := by
    rw [quote_toList, List.dropLast_cons_of_ne_nil (by simp), List.dropLast_concat]
  refine ⟨fun rest => ?_, fun k hk0 hk => ?_, ?_, ?_⟩
  · rw [foldBlanks_append_scan, quote_toList, hbody.scan_literal]
  · rw [hlen] at hk ⊢
    rw [quote_toList]
    exact hbody.scan_literal_take pending out hk0 hk
  · rw [hdrop, hbody.scan_opened]
  · rw [quote_toList, hbody.scan_literal]

/-- A quote escaped inside a literal does not end it: after the backslash the escape is pending,
and after the quote it takes the folder is still inside the literal. -/
example : (FoldState.scan ⟨false, false, false⟩ [] ((quote "\"").toList.take 2)).1 =
      ⟨true, true, false⟩ ∧
    (FoldState.scan ⟨false, false, false⟩ [] ((quote "\"").toList.take 3)).1 = .inLiteral := by
  decide

end PromRules.Query
