import PromRules.Query.Expr
import PromRules.Number.Positional
import PromRules.Duration.Text
import PromRules.Text.Blank

/-!
Query text.

One walk over the tree gives two texts. The raw text (`Expr.render`) brackets every binary
operation; the query text (`Expr.format`) brackets a child only when it binds looser than its
position needs, or equally on the side of an operator that does not group that way. Either way
a number with a `-` in front is bracketed on the left of `^`, so that `(-2.0) ^ 2.0` is not read
as `-(2.0 ^ 2.0)`. The query text then has its blank runs outside string literals folded into
single spaces and its ends trimmed.

Numbers are written as the query engine reads them back: `NaN`, `Inf`, `-Inf`, a whole number
below `10^16` in magnitude with one decimal (`42.0`, `-0.0`), and any other number with the
fewest digits that read back, positionally (`0.1`, `10000000000000000`). Strings are written
in double quotes with each backslash and double quote escaped by a backslash.
-/

namespace PromRules.Query

/-- The text of a number in a query. -/
def numberText (v : Binary64) : String :=
  match v.classify with
  | .nan => "NaN"
  | .infinite => if v.isNegative then "-Inf" else "Inf"
  | .finite m e =>
    let sign := if v.isNegative then "-" else ""
    if v.isIntegral && m * Nat.pow 2 e.toNat < Nat.pow 10 16 * Nat.pow 2 (-e).toNat then
      sign ++ toString (Binary64.roundHalfAway m e) ++ ".0"
    else sign ++ Number.shortestText m e

/-- Escapes the characters of a string literal's body. -/
def escapeChars : List Char → List Char
  | [] => []
  | c :: rest =>
    if c == '\\' then '\\' :: '\\' :: escapeChars rest
    else if c == '"' then '\\' :: '"' :: escapeChars rest
    else c :: escapeChars rest

/-- A string literal: the text in double quotes, backslashes and quotes escaped. -/
def quote (s : String) : String :=
  String.ofList ('"' :: escapeChars s.toList ++ ['"'])

/-- The two texts of an expression: every binary operation bracketed, or only what the binding
strengths require. -/
inductive Style where
  | raw
  | minimal
deriving DecidableEq

/-- The text of a selector: the bare name, or the name and its matchers in braces. -/
def Selector.render (sel : Selector) : String :=
  match sel.matchers with
  | none => sel.name
  | some ms =>
    sel.name ++ "\x7b" ++ ",".intercalate (ms.map fun m => m.name ++ "=" ++ quote m.value) ++
      "\x7d"

/-- A label list in brackets after its keyword. -/
def clause (keyword : String) (labels : List String) : String :=
  " " ++ keyword ++ "(" ++ ",".intercalate labels ++ ")"

/-- The operator of a binary operation with its `bool` flag and matching clauses. -/
def operatorText (op : BinOp) (returnBool : Bool) (matching : Option Matching) : String :=
  op.symbol ++ (if returnBool then " bool" else "") ++
    match matching with
    | none => ""
    | some m => clause m.kind.keyword m.labels ++
      match m.group with
      | none => ""
      | some g => clause g.side.keyword g.labels

/-- How tightly an expression binds in a style: in the raw text a binary operation carries its
own brackets and binds as an atom. -/
def Expr.bindingIn (style : Style) (e : Expr) : Precedence :=
  match style, e with
  | .raw, .binary .. => .atom
  | _, _ => e.precedence

/-- Whether a child needs brackets at a position that needs `required`, or more than that when
`strictly` is set. -/
def needsBrackets (style : Style) (child : Expr) (required : Precedence) (strictly : Bool) :
    Bool :=
  let binding := child.bindingIn style
  decide (binding < required) || (strictly && binding == required)

/-- The text in brackets when `bracket` holds. -/
def bracketIf (bracket : Bool) (text : String) : String :=
  if bracket then "(" ++ text ++ ")" else text

mutual

/-- The text of an expression in a style. -/
def Expr.renderIn (style : Style) : Expr → String
  | .literal v => numberText v
  | .selector sel => sel.render
  | .derived inner m =>
    let innerText := bracketIf (needsBrackets style inner .modifier false) (inner.renderIn style)
    innerText ++ Modifier.renderIn style m
  | .range sel width => sel.render ++ "[" ++ width.render ++ "]"
  | .subquery inner width step =>
    bracketIf (needsBrackets style inner .atom false) (inner.renderIn style) ++
      "[" ++ width.render ++ ":" ++ (match step with | some s => s.render | none => "") ++ "]"
  | .call name args _ => name ++ "(" ++ Arg.renderListIn style args ++ ")"
  | .aggregate name args grouping =>
    name ++ "(" ++ Arg.renderListIn style args ++ ")" ++
      match grouping with
      | none => ""
      | some g => clause g.kind.keyword g.labels
  | .binary op lhs rhs flag matching =>
    let tier := op.precedence
    let right := op.rightAssociative
    let body :=
      bracketIf (needsBrackets style lhs tier right) (lhs.renderIn style) ++ " " ++
        operatorText op flag matching ++ " " ++
        bracketIf (needsBrackets style rhs tier (!right)) (rhs.renderIn style)
    match style with
    | .raw => "(" ++ body ++ ")"
    | .minimal => body

/-- The text of a modifier after the expression it modifies. -/
def Modifier.renderIn (style : Style) : Modifier → String
  | .offset shift => " offset " ++ shift.render
  | .atTime seconds => " @ " ++ numberText seconds
  | .atExpr target =>
    " @ " ++ bracketIf (needsBrackets style target .atom false) (target.renderIn style)

/-- The text of call arguments, separated by a comma and a space. -/
def Arg.renderListIn (style : Style) : List Arg → String
  | [] => ""
  | [a] => a.renderIn style
  | a :: rest => a.renderIn style ++ ", " ++ Arg.renderListIn style rest

/-- The text of one call argument. -/
def Arg.renderIn (style : Style) : Arg → String
  | .expr e => bracketIf (needsBrackets style e .or false) (e.renderIn style)
  | .text s => quote s

end

/-- The state of the blank folder: inside a string literal, just after a backslash there, and
whether a blank run is waiting outside strings. -/
structure FoldState where
  inString : Bool
  escaped : Bool
  pendingSpace : Bool
deriving DecidableEq, Repr

/-- Folds blank runs outside string literals into one space and drops blanks at the ends; the
characters already written are given in reverse. -/
def foldBlanks : FoldState → List Char → List Char → List Char
  | _, out, [] => out.reverse
  | st, out, c :: rest =>
    if st.inString then
      let st' := if st.escaped then { st with escaped := false }
        else if c == '\\' then { st with escaped := true }
        else if c == '"' then { st with inString := false }
        else st
      foldBlanks st' (c :: out) rest
    else if Text.isBlank c then
      foldBlanks { st with pendingSpace := true } out rest
    else
      let out := if st.pendingSpace && !out.isEmpty then ' ' :: out else out
      foldBlanks { st with pendingSpace := false, inString := c == '"' } (c :: out) rest

/-- Query text with blank runs outside string literals folded and its ends trimmed. -/
def normalizeBlanks (s : String) : String :=
  String.ofList (foldBlanks ⟨false, false, false⟩ [] s.toList)

namespace Expr

/-- The raw text of an expression, every binary operation in brackets. -/
def render (e : Expr) : String := e.renderIn .raw

/-- The query text of an expression, with only the brackets its binding strengths need. -/
def format (e : Expr) : String := normalizeBlanks (e.renderIn .minimal)

end Expr

end PromRules.Query
