/-!
Blank characters: the Unicode `White_Space` property, and trimming by it.

Duration text is read after its blanks at both ends are dropped, and a query text has its
blank runs outside string literals folded into single spaces. Both use this one class, which
holds the ASCII blanks (tab, line feed, vertical tab, form feed, carriage return, space) and the
wider ones such as the no-break space and the ideographic space.
-/

namespace PromRules.Text

/-- The code points of the Unicode `White_Space` property, as inclusive ranges. -/
def blankRanges : List (Nat × Nat) :=
  [(0x09, 0x0D), (0x20, 0x20), (0x85, 0x85), (0xA0, 0xA0), (0x1680, 0x1680),
   (0x2000, 0x200A), (0x2028, 0x2029), (0x202F, 0x202F), (0x205F, 0x205F),
   (0x3000, 0x3000)]

/-- A character is blank when its code point lies in one of `blankRanges`. -/
def isBlank (c : Char) : Bool :=
  blankRanges.any fun r => r.1 ≤ c.toNat && c.toNat ≤ r.2

/-- Drops blank characters from the front of a list. -/
def dropBlank (cs : List Char) : List Char :=
  cs.dropWhile isBlank

/-- Drops blank characters at both ends of a text. -/
def trimBlank (s : String) : String :=
  String.ofList (dropBlank (dropBlank s.toList).reverse).reverse

theorem isBlank_space : isBlank ' ' = true := by decide

theorem isBlank_of_isWhitespace (c : Char) (h : c.isWhitespace = true) : isBlank c = true := by
  simp only [Char.isWhitespace, Bool.or_eq_true, decide_eq_true_eq] at h
  rcases h with ((h | h) | h) | h <;> subst h <;> decide

end PromRules.Text
