import PromRules.Query.Print

/-!
Text that folding blanks leaves as it is.

`normalizeBlanks` walks a text with three flags: inside a string literal, just after a backslash
there, and a blank run waiting outside string literals. It copies a string literal whole, drops
blanks outside literals and writes one space for a run of them between two other characters.

A text is tidy (`Tidy`) when it is made of chunks separated by single spaces, none of them
empty, where a chunk is a run of plain characters (neither blank nor a double quote) and string
literals (`LiteralBody`: a backslash takes the next character with it, and no other backslash or
double quote stands inside). A tidy text has no blank at either end and no blank outside its
string literals but the single spaces between chunks. The main statement is that the folder
gives a tidy text back unchanged (`normalizeBlanks_of_tidy`): it copies a literal
(`foldBlanks_literalBody`), a plain character and a space between two chunks
(`foldBlanks_space`) as they are. The writer of string literals, `quote`, writes a literal body
(`literalBody_escapeChars`), and tidy texts put together, directly or with a space between, are
tidy again (`Tidy.append`, `Tidy.append_space`).
-/

namespace PromRules.Query

open Text

/-- A character the folder copies as it is outside a string literal: neither blank nor a double
quote. -/
def Plain (c : Char) : Prop := isBlank c = false ∧ c ≠ '"'

/-- The body of a string literal: characters other than a backslash and a double quote, and a
backslash with the character it escapes. -/
inductive LiteralBody : List Char → Prop
  | nil : LiteralBody []
  | char {c : Char} {rest : List Char} : c ≠ '\\' → c ≠ '"' → LiteralBody rest →
      LiteralBody (c :: rest)
  | escape (c : Char) {rest : List Char} : LiteralBody rest → LiteralBody ('\\' :: c :: rest)

/-- Text with no blank outside its string literals. -/
inductive Unspaced : List Char → Prop
  | nil : Unspaced []
  | plain {c : Char} {rest : List Char} : Plain c → Unspaced rest → Unspaced (c :: rest)
  | literal {body rest : List Char} : LiteralBody body → Unspaced rest →
      Unspaced ('"' :: body ++ '"' :: rest)

/-- Tidy text: chunks without blanks outside string literals, separated by single spaces, none
of them empty. -/
inductive Tidy : List Char → Prop
  | chunk {a : List Char} : Unspaced a → Tidy a
  | space {a b : List Char} : Unspaced a → a ≠ [] → Tidy b → b ≠ [] → Tidy (a ++ ' ' :: b)

/-- The folder outside any string literal, with no blank waiting. -/
def FoldState.outside : FoldState := ⟨false, false, false⟩

/-! ### What the folder does -/

theorem isBlank_quote : isBlank '"' = false := by decide

theorem foldBlanks_nil (st : FoldState) (out : List Char) : foldBlanks st out [] = out.reverse := by
  simp [foldBlanks]

theorem foldBlanks_plain {c : Char} (hc : Plain c) (out rest : List Char) :
    foldBlanks .outside out (c :: rest) = foldBlanks .outside (c :: out) rest := by
  have hquote : (c == '"') = false := beq_false_of_ne hc.2
  simp [foldBlanks, FoldState.outside, hc.1, hquote]

/-- Inside a string literal the folder copies a literal body and the closing quote as they
are, and comes out of the literal. -/
theorem foldBlanks_literalBody {body : List Char} (hbody : LiteralBody body)
    (out rest : List Char) :
    foldBlanks ⟨true, false, false⟩ out (body ++ '"' :: rest) =
      foldBlanks .outside ('"' :: (body.reverse ++ out)) rest := by
  induction hbody generalizing out with
  | nil => simp [foldBlanks, FoldState.outside]
  | @char c rest' hback hquote _ ih =>
    have hb : (c == '\\') = false := beq_false_of_ne hback
    have hq : (c == '"') = false := beq_false_of_ne hquote
    simp [foldBlanks, hb, hq, ih]
  | escape c _ ih =>
    simp [foldBlanks, ih]

theorem foldBlanks_literal {body : List Char} (hbody : LiteralBody body) (out rest : List Char) :
    foldBlanks .outside out ('"' :: body ++ '"' :: rest) =
      foldBlanks .outside (('"' :: body ++ ['"']).reverse ++ out) rest := by
  have hopen : foldBlanks .outside out ('"' :: (body ++ '"' :: rest)) =
      foldBlanks ⟨true, false, false⟩ ('"' :: out) (body ++ '"' :: rest) := by
    simp [foldBlanks, FoldState.outside, isBlank_quote]
  simp only [List.cons_append, hopen, foldBlanks_literalBody hbody, List.reverse_cons,
    List.reverse_append, List.append_assoc, List.cons_append, List.nil_append, List.reverse_nil]

/-- A single space before a character that is not blank is written as it is, once something
has been written. -/
theorem foldBlanks_space {out : List Char} (hout : out ≠ []) {c : Char} (hc : isBlank c = false)
    (rest : List Char) :
    foldBlanks .outside out (' ' :: c :: rest) = foldBlanks .outside (' ' :: out) (c :: rest) := by
  have hempty : out.isEmpty = false := List.isEmpty_eq_false_iff.2 hout
  simp [foldBlanks, FoldState.outside, isBlank_space, hc, hempty]

theorem Unspaced.foldBlanks_append {a : List Char} (h : Unspaced a) (out rest : List Char) :
    foldBlanks .outside out (a ++ rest) = foldBlanks .outside (a.reverse ++ out) rest := by
  induction h generalizing out with
  | nil => rfl
  | plain hc _ ih =>
    rw [List.cons_append, foldBlanks_plain hc, ih]
    simp
  | @literal body rest' hbody _ ih =>
    have hsplit :
        ('"' :: body ++ '"' :: rest') ++ rest = '"' :: body ++ '"' :: (rest' ++ rest) := by
      simp
    rw [hsplit, foldBlanks_literal hbody, ih]
    simp

theorem Unspaced.head_not_blank {a : List Char} (h : Unspaced a) :
    ∀ c ∈ a.head?, isBlank c = false := by
  cases h with
  | nil => simp
  | plain hc _ => simpa using hc.1
  | literal _ _ => simpa using isBlank_quote

theorem Tidy.head_not_blank {a : List Char} (h : Tidy a) :
    ∀ c ∈ a.head?, isBlank c = false := by
  cases h with
  | chunk ha => exact ha.head_not_blank
  | space ha hne _ _ =>
    obtain ⟨c, rest, rfl⟩ := List.exists_cons_of_ne_nil hne
    simpa using ha.head_not_blank

theorem Unspaced.last_not_blank {a : List Char} (h : Unspaced a) :
    ∀ c ∈ a.getLast?, isBlank c = false := by
  induction h with
  | nil => simp
  | @plain c rest hc _ ih =>
    rw [List.getLast?_cons]
    cases hlast : rest.getLast? with
    | none => simpa using hc.1
    | some d => simpa using ih d hlast
  | @literal body rest _ _ ih =>
    simp only [List.cons_append, List.getLast?_cons, List.getLast?_append, Option.some_or,
      Option.getD_some]
    cases hlast : rest.getLast? with
    | none => simpa using isBlank_quote
    | some d => simpa using ih d hlast

theorem Tidy.last_not_blank {a : List Char} (h : Tidy a) :
    ∀ c ∈ a.getLast?, isBlank c = false := by
  induction h with
  | chunk ha => exact ha.last_not_blank
  | @space a b _ _ _ hbne ih =>
    obtain ⟨c, hc⟩ := List.getLast?_isSome.2 hbne |> Option.isSome_iff_exists.1
    simp only [List.getLast?_append, List.getLast?_cons, Option.some_or, hc, Option.getD_some]
    simpa using ih c hc

theorem Tidy.foldBlanks_append {a : List Char} (h : Tidy a) (out rest : List Char) :
    foldBlanks .outside out (a ++ rest) = foldBlanks .outside (a.reverse ++ out) rest := by
  induction h generalizing out with
  | chunk ha => exact ha.foldBlanks_append out rest
  | @space a b ha hane hb hbne ih =>
    -- the space stands between two nonempty chunks, so the folder writes it as it is
    obtain ⟨c, b', rfl⟩ := List.exists_cons_of_ne_nil hbne
    have hc : isBlank c = false := hb.head_not_blank c (by simp)
    have hout : a.reverse ++ out ≠ [] := by simp [hane]
    calc foldBlanks FoldState.outside out ((a ++ ' ' :: c :: b') ++ rest)
        = foldBlanks FoldState.outside (a.reverse ++ out) (' ' :: c :: (b' ++ rest)) := by
          rw [List.append_assoc, ha.foldBlanks_append]
          rfl
      _ = foldBlanks FoldState.outside (' ' :: (a.reverse ++ out)) ((c :: b') ++ rest) :=
          foldBlanks_space hout hc _
      _ = foldBlanks FoldState.outside ((a ++ ' ' :: c :: b').reverse ++ out) rest := by
          rw [ih]
          simp

/-- Folding blanks gives a tidy text back unchanged. -/
theorem normalizeBlanks_of_tidy {s : String} (h : Tidy s.toList) : normalizeBlanks s = s := by
  have hfold := h.foldBlanks_append [] []
  rw [List.append_nil, List.append_nil, foldBlanks_nil, List.reverse_reverse] at hfold
  rw [normalizeBlanks]
  exact (congrArg String.ofList hfold).trans (String.ofList_toList)

/-! ### Putting tidy text together -/

theorem literalBody_escapeChars (cs : List Char) : LiteralBody (escapeChars cs) := by
  induction cs with
  | nil => exact .nil
  | cons c rest ih =>
    unfold escapeChars
    by_cases hback : c = '\\'
    · simpa [hback] using LiteralBody.escape '\\' ih
    · by_cases hquote : c = '"'
      · simpa [hquote] using LiteralBody.escape '"' ih
      · simpa [hback, hquote] using LiteralBody.char hback hquote ih

theorem Unspaced.append {a b : List Char} (ha : Unspaced a) (hb : Unspaced b) :
    Unspaced (a ++ b) := by
  induction ha with
  | nil => exact hb
  | plain hc _ ih => exact .plain hc ih
  | literal hbody _ ih => simpa using Unspaced.literal hbody ih

theorem Unspaced.of_plain {a : List Char} (h : ∀ c ∈ a, Plain c) : Unspaced a := by
  induction a with
  | nil => exact .nil
  | cons c rest ih =>
    exact .plain (h c (by simp)) (ih fun d hd => h d (by simp [hd]))

theorem quote_toList (v : String) : (quote v).toList = '"' :: (escapeChars v.toList ++ ['"']) := by
  simp [quote]

theorem Unspaced.quote (s : String) : Unspaced (quote s).toList := by
  simpa [Query.quote] using Unspaced.literal (literalBody_escapeChars s.toList) Unspaced.nil

theorem Tidy.append_space {a b : List Char} (ha : Tidy a) (hane : a ≠ []) (hb : Tidy b)
    (hbne : b ≠ []) : Tidy (a ++ ' ' :: b) := by
  induction ha with
  | chunk ha => exact .space ha hane hb hbne
  | @space a₁ a₂ ha₁ hne₁ _ hne₂ ih =>
    simpa using Tidy.space ha₁ hne₁ (ih hne₂) (by simp)

/-- An unspaced chunk put before tidy text joins its first chunk. -/
theorem Tidy.unspaced_append {a b : List Char} (ha : Unspaced a) (hb : Tidy b) :
    Tidy (a ++ b) := by
  cases hb with
  | chunk hb => exact .chunk (ha.append hb)
  | @space b₁ b₂ hb₁ hne₁ hb₂ hne₂ =>
    simpa using Tidy.space (ha.append hb₁) (by simp [hne₁]) hb₂ hne₂

theorem Tidy.append {a b : List Char} (ha : Tidy a) (hb : Tidy b) : Tidy (a ++ b) := by
  induction ha with
  | chunk ha => exact Tidy.unspaced_append ha hb
  | @space a₁ a₂ ha₁ hne₁ _ hne₂ ih =>
    by_cases hbnil : b = []
    · subst hbnil
      simpa using Tidy.space ha₁ hne₁ ‹Tidy a₂› hne₂
    · simpa using Tidy.space ha₁ hne₁ ih (by simp [hne₂])

end PromRules.Query
