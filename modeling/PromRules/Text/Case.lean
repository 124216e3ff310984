import PromRules.Text.CaseData

/-!
Unicode case conversion, by the tables of Unicode 15.0 (`PromRules.Text.CaseData`).

`upperChars` and `lowerChars` give the full case mapping of one character, which may be several
characters (`ß` to `SS`, `İ` to `i̇`). `lowerText` lowers a whole text; its one rule that looks
at context is the final sigma: a capital sigma becomes `ς` when a cased character comes before
it and none comes after it, skipping case-ignorable characters on both sides, and `σ` otherwise.
-/

namespace PromRules.Text

/-- Whether a code point lies in one of a list of inclusive ranges. -/
def inRanges (ranges : List (Nat × Nat)) (n : Nat) : Bool :=
  ranges.any fun r => r.1 ≤ n && n ≤ r.2

/-- The `Cased` property. -/
def isCased (c : Char) : Bool := inRanges casedRanges c.toNat

/-- The `Case_Ignorable` property. -/
def isCaseIgnorable (c : Char) : Bool := inRanges caseIgnorableRanges c.toNat

/-- The mapping of a character by a special list and then runs; unmapped characters stay. -/
def mapCase (special : List (Nat × List Nat)) (runs : List CaseRun) (c : Char) : List Char :=
  match special.find? (fun p => p.1 == c.toNat) with
  | some (_, cs) => cs.map Char.ofNat
  | none =>
    match runs.find? (fun r => r.covers c.toNat) with
    | some r => [Char.ofNat (c.toNat + r.shift).toNat]
    | none => [c]

/-- The full uppercase mapping of a character. -/
def upperChars (c : Char) : List Char := mapCase upperSpecial upperRuns c

/-- The full lowercase mapping of a character, without context. -/
def lowerChars (c : Char) : List Char := mapCase lowerSpecial lowerRuns c

/-- Whether, after skipping case-ignorable characters, the next character is cased. -/
def casedAfterIgnorable (cs : List Char) : Bool :=
  match cs.dropWhile isCaseIgnorable with
  | c :: _ => isCased c
  | [] => false

/-- Lowers characters; `before` holds the characters already passed, nearest first. -/
def lowerFrom (before : List Char) : List Char → List Char
  | [] => []
  | c :: rest =>
    let lowered :=
      if c == 'Σ' then
        if casedAfterIgnorable before && !casedAfterIgnorable rest then ['ς'] else ['σ']
      else lowerChars c
    lowered ++ lowerFrom (c :: before) rest

/-- The full lowercase form of a text. -/
def lowerText (s : String) : String := String.ofList (lowerFrom [] s.toList)

end PromRules.Text
