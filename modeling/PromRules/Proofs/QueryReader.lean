import PromRules.Query.Function
import PromRules.Query.Name
import PromRules.Duration.Text

/-!
The grammar of query text, as a reader.

This is the grammar the printer writes for, made executable so that the printer can be checked
against it.

Lexical units (`nextToken`): blanks separate units and are otherwise dropped. A name is an ASCII
letter, `_` or `:` followed by those or digits; a run that starts with a digit and goes on with
letters, digits and points is a decimal number (`12`, `0.5`) when it has that shape and a
duration text otherwise (`5m`, `1h30m`); `[` opens a window that runs to the next `]`; a string
literal runs between double quotes, a backslash taking the next character as it is; the marks
are `( ) { } , = @ + - * / % ^ > <` and `== != >= <=`.

Expressions (`readExpr`): binary operators bind by `BinOp.precedence`, loosest first `or`, then
`and`/`unless`, comparisons, `+ -`, `* / % atan2` and `^`; all group to the left except `^`.
After an operator may come `bool`, then `on(..)` or `ignoring(..)`, then `group_left(..)` or
`group_right(..)`. A `-` in front of an operand binds looser than `^` and tighter than `*`, and
only a number may follow it: `-v` is the number `v` negated. Behind a primary, windows `[d]`,
`[d:]`, `[d:s]`, `offset d` and `@ t` apply from left to right; after `@` comes a number with or
without a `-`, or a primary. A primary is a number (also the words `NaN` and `Inf`, in any
case), an expression in brackets, a call `f(args)` of a function of the table (an aggregation
may be followed by `by(..)` or `without(..)`), or a selector `name` or `name{l="v",...}` whose
name is no keyword. Keywords are matched in any case.
-/

namespace PromRules.Query

/-- The punctuation of query text. -/
inductive Mark where
  | openParen
  | closeParen
  | openBrace
  | closeBrace
  | comma
  | equals
  | at
deriving DecidableEq

/-- The lexical units of query text. -/
inductive Token where
  /-- A name or a keyword. -/
  | word (text : String)
  /-- A decimal number. -/
  | number (value : Binary64)
  /-- A run of digits and letters that is not a decimal number. -/
  | duration (text : List Char)
  /-- The text between `[` and `]`. -/
  | window (body : List Char)
  /-- A string literal with its escapes undone. -/
  | str (value : String)
  /-- A punctuation mark. -/
  | mark (m : Mark)
  /-- An operator written with marks; `-` is also the sign of a number. -/
  | op (op : BinOp)
deriving DecidableEq

/-! ### Lexical units -/

def isNameStart (c : Char) : Bool := isWordStart c || c == ':'

def isNameChar (c : Char) : Bool := isWordChar c || c == ':'

/-- A character that continues a number or a duration. -/
def isRunChar (c : Char) : Bool := c.isAlphanum || c == '.'

/-- The value of a run that is a decimal number: digits, or digits, a point and digits. -/
def readDecimal (run : List Char) : Option Binary64 :=
  let whole := run.takeWhile Char.isDigit
  match run.dropWhile Char.isDigit with
  | [] => if whole.isEmpty then none else some (Binary64.ofDecimal false (Duration.digitsValue whole) 0)
  | '.' :: frac =>
    if whole.isEmpty || frac.isEmpty || !frac.all Char.isDigit then none
    else some (Binary64.ofDecimal false (Duration.digitsValue (whole ++ frac)) (-(frac.length : Int)))
  | _ => none

/-- The body of a string literal after its opening quote, escapes undone, and the text after its
closing quote. -/
def readString : List Char → Option (List Char × List Char)
  | [] => none
  | '"' :: rest => some ([], rest)
  | '\\' :: c :: rest => (readString rest).map fun (body, rest') => (c :: body, rest')
  | c :: rest => (readString rest).map fun (body, rest') => (c :: body, rest')

/-- The unit of a mark of one character. -/
def singleMark : Char → Option Token
  | '(' => some (.mark .openParen)
  | ')' => some (.mark .closeParen)
  | '{' => some (.mark .openBrace)
  | '}' => some (.mark .closeBrace)
  | ',' => some (.mark .comma)
  | '=' => some (.mark .equals)
  | '@' => some (.mark .at)
  | '+' => some (.op .add)
  | '-' => some (.op .sub)
  | '*' => some (.op .mul)
  | '/' => some (.op .div)
  | '%' => some (.op .mod)
  | '^' => some (.op .pow)
  | '>' => some (.op .gt)
  | '<' => some (.op .lt)
  | _ => none

/-- The comparison written as the character followed by `=`, if there is one. -/
def pairMark : Char → Option Token
  | '=' => some (.op .eq)
  | '!' => some (.op .ne)
  | '>' => some (.op .ge)
  | '<' => some (.op .le)
  | _ => none

/-- A mark, two characters long when a comparison's `=` follows. -/
def readMark (c : Char) (cs : List Char) : Option (Token × List Char) :=
  match cs.head?, pairMark c with
  | some '=', some tok => some (tok, cs.drop 1)
  | _, _ => (singleMark c).map (·, cs)

/-- A window: the text up to the next `]`, and the text after it. -/
def readWindow (cs : List Char) : Option (Token × List Char) :=
  if (cs.dropWhile (· != ']')).isEmpty then none
  else some (.window (cs.takeWhile (· != ']')), (cs.dropWhile (· != ']')).drop 1)

/-- The first unit of a text that starts with no blank, and the text after it. -/
def nextToken : List Char → Option (Token × List Char)
  | [] => none
  | c :: cs =>
    if c == '"' then (readString cs).map fun (body, rest) => (.str (String.ofList body), rest)
    else if c == '[' then readWindow cs
    else if isNameStart c then
      some (.word (String.ofList (c :: cs.takeWhile isNameChar)), cs.dropWhile isNameChar)
    else if c.isDigit then
      let run := c :: cs.takeWhile isRunChar
      let tok := match readDecimal run with
        | some v => Token.number v
        | none => Token.duration run
      some (tok, cs.dropWhile isRunChar)
    else readMark c cs

theorem readString_length {cs body rest : List Char} (h : readString cs = some (body, rest)) :
    rest.length < cs.length := by
  fun_induction readString cs generalizing body rest with
  | case1 => cases h
  | case2 rest' =>
    simp only [Option.some.injEq, Prod.mk.injEq] at h
    simp [← h.2]
  -- an escape or a plain character: what follows the literal is what the read of the shorter
  -- text leaves
  | case3 c rest' ih | case4 c rest' _ _ ih =>
    simp only [Option.map_eq_some_iff, Prod.exists, Prod.mk.injEq] at h
    obtain ⟨_, _, hread, -, rfl⟩ := h
    have := ih hread
    simp only [List.length_cons]
    omega

theorem readMark_length {c : Char} {cs rest : List Char} {tok : Token}
    (h : readMark c cs = some (tok, rest)) : rest.length ≤ cs.length := by
  unfold readMark at h
  split at h
  · simp only [Option.some.injEq, Prod.mk.injEq] at h
    obtain ⟨-, rfl⟩ := h
    simp
  · simp only [Option.map_eq_some_iff, Prod.mk.injEq] at h
    obtain ⟨_, -, -, rfl⟩ := h
    exact Nat.le_refl _

theorem readWindow_length {cs rest : List Char} {tok : Token}
    (h : readWindow cs = some (tok, rest)) : rest.length < cs.length := by
  unfold readWindow at h
  split at h
  · cases h
  · rename_i hne
    simp only [Option.some.injEq, Prod.mk.injEq] at h
    obtain ⟨-, rfl⟩ := h
    have hsuffix := (List.dropWhile_suffix (· != ']') (l := cs)).length_le
    have hpos : 0 < (cs.dropWhile (· != ']')).length := by
      simpa [List.length_pos_iff] using hne
    simp only [List.length_drop]
    omega

theorem nextToken_length {cs rest : List Char} {tok : Token} (h : nextToken cs = some (tok, rest)) :
    rest.length < cs.length := by
  match cs, h with
  | c :: cs, h =>
    have hdrop : ∀ p : Char → Bool, (cs.dropWhile p).length ≤ cs.length :=
      fun p => (List.dropWhile_suffix p).length_le
    simp only [List.length_cons]
    rw [nextToken] at h
    split at h
    · -- a string literal
      simp only [Option.map_eq_some_iff, Prod.exists, Prod.mk.injEq] at h
      obtain ⟨_, rest', hread, -, rfl⟩ := h
      have := readString_length hread
      omega
    split at h
    · have := readWindow_length h
      omega
    split at h
    · -- a name
      simp only [Option.some.injEq, Prod.mk.injEq] at h
      obtain ⟨-, rfl⟩ := h
      have := hdrop isNameChar
      omega
    split at h
    · -- a number or a duration
      simp only [Option.some.injEq, Prod.mk.injEq] at h
      obtain ⟨-, rfl⟩ := h
      have := hdrop isRunChar
      omega
    · have := readMark_length h
      omega

/-- The units of a text, blanks dropped; `none` when some part is no unit. -/
def lex (cs : List Char) : Option (List Token) :=
  match h : nextToken (Text.dropBlank cs) with
  | some (tok, rest) =>
    have : rest.length < cs.length :=
      Nat.lt_of_lt_of_le (nextToken_length h) (List.dropWhile_suffix _).length_le
    (lex rest).map (tok :: ·)
  | none => if (Text.dropBlank cs).isEmpty then some [] else none
termination_by cs.length

/-! ### Pieces of expressions -/

/-- The words that are never the name of a selector. -/
def keywords : List String :=
  ["and", "or", "unless", "atan2", "bool", "on", "ignoring", "group_left", "group_right",
    "offset", "by", "without", "nan", "inf"]

/-- Whether a word is a keyword, in any case. -/
def isKeyword (w : String) : Bool := keywords.contains w.toLower

/-- The number a word names: `NaN` or `Inf`, in any case. -/
def numberWord? (w : String) : Option Binary64 :=
  if w.toLower == "nan" then some Binary64.nan
  else if w.toLower == "inf" then some (Binary64.infinity false)
  else none

/-- The number a unit stands for, if it is one. -/
def Token.numberValue? : Token → Option Binary64
  | .number v => some v
  | .word w => numberWord? w
  | _ => none

/-- The operator written as a word, in any case. -/
def wordOp? (w : String) : Option BinOp :=
  if w.toLower == "and" then some .and
  else if w.toLower == "or" then some .or
  else if w.toLower == "unless" then some .unless
  else if w.toLower == "atan2" then some .atan2
  else none

/-- The operator a unit stands for, if it is one. -/
def Token.binOp? : Token → Option BinOp
  | .op o => some o
  | .word w => wordOp? w
  | _ => none

/-- The rest of a label list after its `(`, up to and including its `)`. -/
def readLabelsRest : List Token → Option (List String × List Token)
  | .mark .closeParen :: rest => some ([], rest)
  | .word w :: .mark .closeParen :: rest => some ([w], rest)
  | .word w :: .mark .comma :: rest => (readLabelsRest rest).map fun (ws, rest') => (w :: ws, rest')
  | _ => none

/-- A label list in brackets. -/
def readLabels : List Token → Option (List String × List Token)
  | .mark .openParen :: rest => readLabelsRest rest
  | _ => none

/-- The `bool` flag after an operator. -/
def readBool : List Token → Bool × List Token
  | .word w :: rest => if w.toLower == "bool" then (true, rest) else (false, .word w :: rest)
  | ts => (false, ts)

/-- A group clause, if one follows. -/
def readGroupClause : List Token → Option (Option GroupClause × List Token)
  | .word w :: rest =>
    if w.toLower == "group_left" then
      (readLabels rest).map fun (labels, rest') => (some ⟨.left, labels⟩, rest')
    else if w.toLower == "group_right" then
      (readLabels rest).map fun (labels, rest') => (some ⟨.right, labels⟩, rest')
    else some (none, .word w :: rest)
  | ts => some (none, ts)

/-- The kind of matching a word names, in any case. -/
def matchingKind? (w : String) : Option MatchingKind :=
  if w.toLower == "on" then some .on else if w.toLower == "ignoring" then some .ignoring else none

/-- A matching clause and its group clause, if one follows. -/
def readMatching : List Token → Option (Option Matching × List Token)
  | .word w :: rest =>
    match matchingKind? w with
    | some kind =>
      match readLabels rest with
      | some (labels, rest') =>
        (readGroupClause rest').map fun (group, rest'') => (some ⟨kind, labels, group⟩, rest'')
      | none => none
    | none => some (none, .word w :: rest)
  | ts => some (none, ts)

/-- The grouping clause of an aggregation, if one follows. -/
def readGrouping : List Token → Option (Option Grouping × List Token)
  | .word w :: rest =>
    if w.toLower == "by" then
      (readLabels rest).map fun (labels, rest') => (some ⟨.byLabels, labels⟩, rest')
    else if w.toLower == "without" then
      (readLabels rest).map fun (labels, rest') => (some ⟨.withoutLabels, labels⟩, rest')
    else some (none, .word w :: rest)
  | ts => some (none, ts)

/-- The rest of a matcher list after its `{`, up to and including its `}`. -/
def readMatchers : List Token → Option (List Matcher × List Token)
  | .mark .closeBrace :: rest => some ([], rest)
  | .word n :: .mark .equals :: .str v :: .mark .closeBrace :: rest => some ([⟨n, v⟩], rest)
  | .word n :: .mark .equals :: .str v :: .mark .comma :: rest =>
    (readMatchers rest).map fun (ms, rest') => (⟨n, v⟩ :: ms, rest')
  | _ => none

/-- A selector after its name: with its matchers when braces follow. -/
def readSelector (name : String) : List Token → Option (Expr × List Token)
  | .mark .openBrace :: rest => (readMatchers rest).map fun (ms, rest') => (.selector ⟨name, some ms⟩, rest')
  | ts => some (.selector ⟨name, none⟩, ts)

/-- A number with or without a `-` in front. -/
def readSignedNumber : List Token → Option (Binary64 × List Token)
  | .op .sub :: tok :: rest => tok.numberValue?.map fun v => (v.negate, rest)
  | tok :: rest => tok.numberValue?.map fun v => (v, rest)
  | [] => none

/-- The shift after `offset`: a duration with or without a `-` in front. -/
def readOffset : List Token → Option (Duration × List Token)
  | .op .sub :: .duration text :: rest =>
    (Duration.parse? (String.ofList ('-' :: text))).map (·, rest)
  | .duration text :: rest => (Duration.parse? (String.ofList text)).map (·, rest)
  | _ => none

/-- What a window does to the expression before it: `[d]` slices a selector, `[d:]` and
`[d:s]` make a subquery. -/
def applyWindow (e : Expr) (body : List Char) : Option Expr :=
  let widthText := body.takeWhile (· != ':')
  match Duration.parse? (String.ofList widthText), body.dropWhile (· != ':') with
  | some width, [] =>
    match e with
    | .selector sel => some (.range sel width)
    | _ => none
  | some width, _ :: [] => some (.subquery e width none)
  | some width, _ :: stepText => (Duration.parse? (String.ofList stepText)).map fun step =>
      .subquery e width (some step)
  | none, _ => none

theorem readLabelsRest_length {ts rest : List Token} {ws : List String}
    (h : readLabelsRest ts = some (ws, rest)) : rest.length < ts.length := by
  fun_induction readLabelsRest ts generalizing ws rest with
  | case1 rest' | case2 _ rest' =>
    simp only [Option.some.injEq, Prod.mk.injEq] at h
    obtain ⟨-, rfl⟩ := h
    simp only [List.length_cons]
    omega
  | case3 w rest' ih =>
    simp only [Option.map_eq_some_iff, Prod.exists, Prod.mk.injEq] at h
    obtain ⟨_, _, hread, -, rfl⟩ := h
    have := ih hread
    simp only [List.length_cons]
    omega
  | case4 => cases h

theorem readLabels_length {ts rest : List Token} {ws : List String}
    (h : readLabels ts = some (ws, rest)) : rest.length < ts.length := by
  match ts, h with
  | .mark .openParen :: ts', h =>
    have := readLabelsRest_length h
    simp only [List.length_cons]
    omega

theorem readBool_length (ts : List Token) : (readBool ts).2.length ≤ ts.length := by
  unfold readBool
  split
  · split <;> simp
  · exact Nat.le_refl _

theorem readGroupClause_length {ts rest : List Token} {g : Option GroupClause}
    (h : readGroupClause ts = some (g, rest)) : rest.length ≤ ts.length := by
  unfold readGroupClause at h
  split at h
  · -- `group_left` and `group_right` take a label list; another word starts no group clause
    simp only [List.length_cons]
    split at h
    · simp only [Option.map_eq_some_iff, Prod.exists, Prod.mk.injEq] at h
      obtain ⟨_, rest', hread, -, rfl⟩ := h
      have := readLabels_length hread
      omega
    split at h
    · simp only [Option.map_eq_some_iff, Prod.exists, Prod.mk.injEq] at h
      obtain ⟨_, rest', hread, -, rfl⟩ := h
      have := readLabels_length hread
      omega
    · simp only [Option.some.injEq, Prod.mk.injEq] at h
      obtain ⟨-, rfl⟩ := h
      simp
  · simp only [Option.some.injEq, Prod.mk.injEq] at h
    obtain ⟨-, rfl⟩ := h
    exact Nat.le_refl _

theorem readMatching_length {ts rest : List Token} {m : Option Matching}
    (h : readMatching ts = some (m, rest)) : rest.length ≤ ts.length := by
  unfold readMatching at h
  split at h
  · -- `on` and `ignoring` take a label list and a group clause; another word starts no clause
    simp only [List.length_cons]
    split at h
    · split at h
      · rename_i rest₁ _ hlabels
        simp only [Option.map_eq_some_iff, Prod.exists, Prod.mk.injEq] at h
        obtain ⟨_, rest₂, hgroup, -, rfl⟩ := h
        have h₁ := readLabels_length hlabels
        have h₂ := readGroupClause_length hgroup
        omega
      · cases h
    · simp only [Option.some.injEq, Prod.mk.injEq] at h
      obtain ⟨-, rfl⟩ := h
      simp
  · simp only [Option.some.injEq, Prod.mk.injEq] at h
    obtain ⟨-, rfl⟩ := h
    exact Nat.le_refl _

theorem readSignedNumber_length {ts rest : List Token} {v : Binary64}
    (h : readSignedNumber ts = some (v, rest)) : rest.length < ts.length := by
  unfold readSignedNumber at h
  split at h
  · simp only [Option.map_eq_some_iff, Prod.mk.injEq] at h
    obtain ⟨_, -, -, rfl⟩ := h
    simp only [List.length_cons]
    omega
  · simp only [Option.map_eq_some_iff, Prod.mk.injEq] at h
    obtain ⟨_, -, -, rfl⟩ := h
    simp
  · cases h

theorem readOffset_length {ts rest : List Token} {d : Duration}
    (h : readOffset ts = some (d, rest)) : rest.length < ts.length := by
  unfold readOffset at h
  split at h
  · simp only [Option.map_eq_some_iff, Prod.mk.injEq] at h
    obtain ⟨_, -, -, rfl⟩ := h
    simp only [List.length_cons]
    omega
  · simp only [Option.map_eq_some_iff, Prod.mk.injEq] at h
    obtain ⟨_, -, -, rfl⟩ := h
    simp
  · cases h

/-! ### Expressions -/

mutual

/-- An expression that binds at least as tightly as `level` (a rank of `Precedence`), and the
units after it. -/
def readExpr (level : Nat) (ts : List Token) : Option (Expr × List Token) :=
  match readOperand level ts with
  | some (lhs, rest) => if rest.length < ts.length then climb level lhs rest else none
  | none => none
termination_by 10 * ts.length + 4
decreasing_by all_goals omega

/-- Takes operators of rank `level` or more after `lhs`, each with its right operand. -/
def climb (level : Nat) (lhs : Expr) (ts : List Token) : Option (Expr × List Token) :=
  match ts with
  | [] => some (lhs, [])
  | tok :: afterOp =>
    match tok.binOp? with
    | none => some (lhs, tok :: afterOp)
    | some op =>
      if level ≤ op.precedence.rank then
        match hb : readBool afterOp with
        | (flag, afterBool) =>
          match hm : readMatching afterBool with
          | some (matching, afterClauses) =>
            have : afterClauses.length ≤ afterOp.length := by
              have h₁ : afterBool.length ≤ afterOp.length := by
                have := readBool_length afterOp
                rw [hb] at this
                exact this
              have h₂ := readMatching_length hm
              omega
            let rhsLevel := if op.rightAssociative then op.precedence.rank else op.precedence.rank + 1
            match readExpr rhsLevel afterClauses with
            | some (rhs, rest) =>
              if rest.length < (tok :: afterOp).length then
                climb level (.binary op lhs rhs flag matching) rest
              else none
            | none => none
          | none => none
      else some (lhs, tok :: afterOp)
termination_by 10 * ts.length + 0
-- some calls read a tail of a cons: its length is written out as one less, where there is one
decreasing_by all_goals ((try simp only [List.length_cons] at *); omega)

/-- An operand: a number with a `-` in front, or a primary and the windows and modifiers
behind it. -/
def readOperand (level : Nat) (ts : List Token) : Option (Expr × List Token) :=
  match _h : ts with
  | .op .sub :: rest =>
    if level ≤ Precedence.unary.rank then
      match readExpr Precedence.power.rank rest with
      | some (.literal v, rest') => some (.literal v.negate, rest')
      | _ => none
    else none
  | _ => readPostfixed ts
termination_by 10 * ts.length + 3
decreasing_by
  all_goals subst _h
  all_goals simp
  omega

/-- A primary and the windows and modifiers behind it. -/
def readPostfixed (ts : List Token) : Option (Expr × List Token) :=
  match readPrimary ts with
  | some (e, rest) => if rest.length < ts.length then readPostfix e rest else none
  | none => none
termination_by 10 * ts.length + 2
decreasing_by all_goals omega

/-- A number, an expression in brackets, a call or a selector. -/
def readPrimary (ts : List Token) : Option (Expr × List Token) :=
  match ts with
  | .number v :: rest => some (.literal v, rest)
  | .mark .openParen :: rest =>
    match readExpr 0 rest with
    | some (e, .mark .closeParen :: rest') => some (e, rest')
    | _ => none
  | .word w :: rest =>
    match numberWord? w with
    | some v => some (.literal v, rest)
    | none =>
      if isKeyword w then none
      else
        match rest with
        | .mark .openParen :: afterParen => readCall w afterParen
        | _ => readSelector w rest
  | _ => none
termination_by 10 * ts.length + 1
decreasing_by all_goals ((try simp only [List.length_cons] at *); omega)

/-- A call after its `(`: the arguments, then for an aggregation its grouping clause. -/
def readCall (name : String) (ts : List Token) : Option (Expr × List Token) :=
  match readArgs ts with
  | some (args, rest) =>
    match lookupFunction name with
    | some spec =>
      match spec.family with
      | .aggregate => (readGrouping rest).map fun (grouping, rest') => (.aggregate name args grouping, rest')
      | _ => some (.call name args spec.returns, rest)
    | none => none
  | none => none
termination_by 10 * ts.length + 8
decreasing_by all_goals omega

/-- The arguments of a call after its `(`, up to and including its `)`. -/
def readArgs (ts : List Token) : Option (List Arg × List Token) :=
  match _h : ts with
  | .mark .closeParen :: rest => some ([], rest)
  | _ => readArgList ts
termination_by 10 * ts.length + 7
decreasing_by
  subst _h
  omega

/-- One or more arguments separated by commas, up to and including the `)`. -/
def readArgList (ts : List Token) : Option (List Arg × List Token) :=
  match readArg ts with
  | some (a, .mark .closeParen :: rest) => some ([a], rest)
  | some (a, .mark .comma :: rest) =>
    if rest.length < ts.length then (readArgList rest).map fun (args, rest') => (a :: args, rest')
    else none
  | _ => none
termination_by 10 * ts.length + 6
decreasing_by all_goals omega

/-- One argument: a string or an expression. -/
def readArg (ts : List Token) : Option (Arg × List Token) :=
  match _h : ts with
  | .str s :: rest => some (.text s, rest)
  | _ => (readExpr 0 ts).map fun (e, rest) => (.expr e, rest)
termination_by 10 * ts.length + 5
decreasing_by
  subst _h
  omega

/-- The windows and modifiers behind an expression, from left to right. -/
def readPostfix (e : Expr) (ts : List Token) : Option (Expr × List Token) :=
  match ts with
  | .window body :: rest => (applyWindow e body).bind fun e' => readPostfix e' rest
  | .word w :: rest =>
    if w.toLower == "offset" then
      match h : readOffset rest with
      | some (shift, rest') =>
        have := readOffset_length h
        readPostfix (.derived e (.offset shift)) rest'
      | none => none
    else some (e, .word w :: rest)
  | .mark .at :: rest =>
    match h : readSignedNumber rest with
    | some (v, rest') =>
      have := readSignedNumber_length h
      readPostfix (.derived e (.atTime v)) rest'
    | none =>
      match readPrimary rest with
      | some (target, rest') =>
        if rest'.length < rest.length then readPostfix (.derived e (.atExpr target)) rest'
        else none
      | none => none
  | _ => some (e, ts)
termination_by 10 * ts.length + 0
decreasing_by all_goals ((try simp only [List.length_cons] at *); omega)

end

/-- Reads a query text: one expression and nothing after it. -/
def read (s : String) : Option Expr :=
  match lex s.toList with
  | some ts =>
    match readExpr 0 ts with
    | some (e, []) => some e
    | _ => none
  | none => none

/-! ### The reader, one step at a time

Each lemma below unfolds one reading function at a known first unit. The equation lemmas of the
block are made once, by the attribute on the first lemma, before the proofs below (which Lean
elaborates side by side) each ask for them. -/

attribute [local simp] readExpr climb readOperand readPostfixed readPrimary readCall readArgs
  readArgList readArg readPostfix in
theorem readExpr_of_readOperand {level : Nat} {ts rest : List Token} {e : Expr}
    (h : readOperand level ts = some (e, rest)) (hlen : rest.length < ts.length) :
    readExpr level ts = climb level e rest := by
  rw [readExpr, h]
  simp only [hlen, if_true]

theorem readOperand_of_ne_minus {level : Nat} {ts : List Token}
    (h : ∀ more, ts ≠ .op .sub :: more) : readOperand level ts = readPostfixed ts := by
  rw [readOperand]
  intro more heq
  exact h more heq

theorem readOperand_minus {level : Nat} (hlevel : level ≤ Precedence.unary.rank)
    {ts rest : List Token} {v : Binary64}
    (h : readExpr Precedence.power.rank ts = some (.literal v, rest)) :
    readOperand level (.op .sub :: ts) = some (.literal v.negate, rest) := by
  rw [readOperand]
  simp only [hlevel, if_true, h]

theorem readPostfixed_of_readPrimary {ts rest : List Token} {e : Expr}
    (h : readPrimary ts = some (e, rest)) (hlen : rest.length < ts.length) :
    readPostfixed ts = readPostfix e rest := by
  rw [readPostfixed, h]
  simp only [hlen, if_true]

theorem readPrimary_bracket {ts rest : List Token} {e : Expr}
    (h : readExpr 0 ts = some (e, .mark .closeParen :: rest)) :
    readPrimary (.mark .openParen :: ts) = some (e, rest) := by
  rw [readPrimary, h]

theorem readPrimary_of_numberValue {tok : Token} {v : Binary64} (h : tok.numberValue? = some v)
    (rest : List Token) : readPrimary (tok :: rest) = some (.literal v, rest) := by
  cases tok with
  | number w =>
    simp only [Token.numberValue?, Option.some.injEq] at h
    subst h
    rw [readPrimary]
  | word w =>
    simp only [Token.numberValue?] at h
    rw [readPrimary.eq_def]
    simp only [h]
  | duration _ | window _ | str _ | mark _ | op _ => cases h

theorem readPrimary_word_call {w : String} (hnum : numberWord? w = none)
    (hkw : isKeyword w = false) (ts : List Token) :
    readPrimary (.word w :: .mark .openParen :: ts) = readCall w ts := by
  rw [readPrimary]
  simp only [hnum, hkw, Bool.false_eq_true, if_false]

theorem readPrimary_word_selector {w : String} (hnum : numberWord? w = none)
    (hkw : isKeyword w = false) {ts : List Token} (hts : ∀ more, ts ≠ .mark .openParen :: more) :
    readPrimary (.word w :: ts) = readSelector w ts := by
  rw [readPrimary]
  · simp only [hnum, hkw, Bool.false_eq_true, if_false]
  · intro more heq
    exact hts more heq

theorem readCall_call {name : String} {ts rest : List Token} {args : List Arg}
    {spec : FunctionSpec} (hargs : readArgs ts = some (args, rest))
    (hspec : lookupFunction name = some spec) (hfamily : spec.family ≠ .aggregate) :
    readCall name ts = some (.call name args spec.returns, rest) := by
  rw [readCall, hargs]
  simp only [hspec]

theorem readCall_aggregate {name : String} {ts rest rest' : List Token} {args : List Arg}
    {spec : FunctionSpec} {grouping : Option Grouping} (hargs : readArgs ts = some (args, rest))
    (hspec : lookupFunction name = some spec) (hfamily : spec.family = .aggregate)
    (hgrouping : readGrouping rest = some (grouping, rest')) :
    readCall name ts = some (.aggregate name args grouping, rest') := by
  rw [readCall, hargs]
  simp only [hspec, hfamily, hgrouping, Option.map_some]

theorem readPostfix_window (e : Expr) (body : List Char) (rest : List Token) :
    readPostfix e (.window body :: rest) =
      (applyWindow e body).bind fun e' => readPostfix e' rest := by
  rw [readPostfix]

theorem readPostfix_offset (e : Expr) {ts rest : List Token} {shift : Duration}
    (h : readOffset ts = some (shift, rest)) :
    readPostfix e (.word "offset" :: ts) = readPostfix (.derived e (.offset shift)) rest := by
  have hword : ("offset".toLower == "offset") = true := by decide +kernel
  rw [readPostfix]
  simp only [hword, if_true]
  split
  · rename_i shift' rest' h'
    rw [h] at h'
    cases h'
    rfl
  · rename_i h'
    rw [h] at h'
    cases h'

theorem readPostfix_at_number (e : Expr) {ts rest : List Token} {v : Binary64}
    (h : readSignedNumber ts = some (v, rest)) :
    readPostfix e (.mark .at :: ts) = readPostfix (.derived e (.atTime v)) rest := by
  rw [readPostfix]
  split
  · rename_i v' rest' h'
    rw [h] at h'
    cases h'
    rfl
  · rename_i h'
    rw [h] at h'
    cases h'

theorem readPostfix_at_primary (e : Expr) {ts rest : List Token} {target : Expr}
    (hnumber : readSignedNumber ts = none) (h : readPrimary ts = some (target, rest))
    (hlen : rest.length < ts.length) :
    readPostfix e (.mark .at :: ts) = readPostfix (.derived e (.atExpr target)) rest := by
  rw [readPostfix]
  split
  · rename_i h'
    rw [hnumber] at h'
    cases h'
  · simp only [h, hlen, if_true]

theorem climb_nil (level : Nat) (e : Expr) : climb level e [] = some (e, []) := by
  rw [climb]

end PromRules.Query
