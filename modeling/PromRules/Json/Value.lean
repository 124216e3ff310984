import PromRules.Number.Binary64

/-!
JSON documents.

A number keeps how it was written: its sign, its decimal digits as one integer, the power of ten
that scales them, and whether it was written as a bare integer (no point, no exponent). An
integer text is an unsigned 64-bit integer when it fits one, else a negative signed 64-bit
integer when it fits one and is not zero; every other number is a binary64 float, the nearest
one to the text. So `-0` and `5.0` are floats, and `18446744073709551616` is a float too.

An object keeps its members in the order written; looking a key up finds its last member, so a
repeated key means its last value.
-/

namespace PromRules

/-- A JSON number as written: `±mantissa * 10^exponent`, and whether it was a bare integer. -/
structure JsonNumber where
  negative : Bool
  mantissa : Nat
  exponent : Int
  integral : Bool
deriving DecidableEq, Repr

/-- A JSON document. -/
inductive Json where
  | null
  | bool (b : Bool)
  | number (n : JsonNumber)
  | string (s : String)
  | array (items : List Json)
  | object (members : List (String × Json))
deriving Inhabited

namespace JsonNumber

/-- The number from an integer, written as a bare integer. -/
def ofInt (n : Int) : JsonNumber := ⟨n < 0, n.natAbs, 0, true⟩

/-- The integer a bare integer text denotes, when it is one of the integers a 64-bit word holds:
an unsigned one, or a negative signed one other than zero. -/
def wholeValue? (n : JsonNumber) : Option Int :=
  if n.integral && n.exponent == 0 then
    if !n.negative then
      if n.mantissa < 18446744073709551616 then some n.mantissa else none
    else if 0 < n.mantissa && n.mantissa ≤ 9223372036854775808 then some (-(n.mantissa : Int))
    else none
  else none

/-- The integer value when it fits a signed 64-bit word. -/
def toInt64? (n : JsonNumber) : Option Int :=
  match n.wholeValue? with
  | some v => if v ≤ 9223372036854775807 then some v else none
  | none => none

/-- The integer value when it fits an unsigned 32-bit word. -/
def toUInt32? (n : JsonNumber) : Option Nat :=
  match n.wholeValue? with
  | some v => if 0 ≤ v && v < 4294967296 then some v.toNat else none
  | none => none

/-- The binary64 value: an integer is rounded to the nearest float, and so is any other text. -/
def toBinary64 (n : JsonNumber) : Binary64 :=
  match n.wholeValue? with
  | some v => Binary64.ofInt v
  | none => Binary64.ofDecimal n.negative n.mantissa n.exponent

end JsonNumber

namespace Json

/-- The value of the last member with this key, in an object. -/
def field? (j : Json) (key : String) : Option Json :=
  match j with
  | .object members => (members.reverse.find? (fun m => m.1 == key)).map (·.2)
  | _ => none

/-- Whether an object has a member with this key. -/
def has (j : Json) (key : String) : Bool := (j.field? key).isSome

/-- The text of a string. -/
def asString? : Json → Option String
  | .string s => some s
  | _ => none

/-- The items of an array. -/
def asArray? : Json → Option (List Json)
  | .array items => some items
  | _ => none

/-- The members of an object. -/
def asObject? : Json → Option (List (String × Json))
  | .object members => some members
  | _ => none

/-- The truth value of a boolean. -/
def asBool? : Json → Option Bool
  | .bool b => some b
  | _ => none

/-- The number. -/
def asNumber? : Json → Option JsonNumber
  | .number n => some n
  | _ => none

/-- Whether the document is `null`. -/
def isNull : Json → Bool
  | .null => true
  | _ => false

/-- A number from an integer. -/
def int (n : Int) : Json := .number (JsonNumber.ofInt n)

/-- A string, or `null` for none. -/
def optString : Option String → Json
  | some s => .string s
  | none => .null

end Json

end PromRules
