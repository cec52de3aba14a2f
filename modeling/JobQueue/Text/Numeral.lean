/-!
# Decimal integer numerals

Whole numbers written in text: an optional sign, then ASCII digits, nothing else, and the
value within a given range. A minus sign is accepted only where the range reaches below
zero. The digits are read from the left, and the first of two faults found that way is the
one reported: a non-digit, or a value that has already left the range.

* `NumeralError` — why a numeral was refused, with `NumeralError.message`.
* `parseInteger` — the value of a numeral within `lo..hi`.
* `parseNatural?` — the value of an unsigned numeral below a bound, or nothing.
-/

namespace JobQueue

/-- **Why a numeral was refused.** -/
inductive NumeralError where
  | empty
  | invalidDigit
  | tooLarge
  | tooSmall
  deriving DecidableEq, Repr

/-- The wording of each refusal. -/
def NumeralError.message : NumeralError → String
  | .empty => "cannot parse integer from empty string"
  | .invalidDigit => "invalid digit found in string"
  | .tooLarge => "number too large to fit in target type"
  | .tooSmall => "number too small to fit in target type"

namespace Numeral

/-- The digit value of an ASCII digit. -/
def digit (c : Char) : Nat := c.toNat - '0'.toNat

/-- Digits after the sign, accumulated from the left into `acc`; the value moves away from
zero in the direction of the sign and must stay within `lo..hi`. -/
def scan (positive : Bool) (lo hi acc : Int) : List Char → Except NumeralError Int
  | [] => .ok acc
  | c :: rest =>
    if c.isDigit then
      let next := if positive then acc * 10 + digit c else acc * 10 - digit c
      if next > hi then .error .tooLarge
      else if next < lo then .error .tooSmall
      else scan positive lo hi next rest
    else .error .invalidDigit

end Numeral

/-- **The value of a numeral within `lo..hi`** (`lo ≤ 0 ≤ hi`). -/
def parseInteger (s : String) (lo hi : Int) : Except NumeralError Int :=
  match s.toList with
  | [] => .error .empty
  | ['+'] => .error .invalidDigit
  | ['-'] => .error .invalidDigit
  | '+' :: rest => Numeral.scan true lo hi 0 rest
  | '-' :: rest => if lo < 0 then Numeral.scan false lo hi 0 rest else .error .invalidDigit
  | cs => Numeral.scan true lo hi 0 cs

/-- **The value of an unsigned numeral below `bound`**, if it is one. -/
def parseNatural? (s : String) (bound : Nat) : Option Nat :=
  match parseInteger s 0 (bound - 1 : Nat) with
  | .ok n => if bound == 0 then none else some n.toNat
  | .error _ => none

/-- The smallest signed 64-bit word. -/
def wordMin : Int := -9223372036854775808

/-- The largest signed 64-bit word. -/
def wordMax : Int := 9223372036854775807

/-- One more than the largest unsigned 64-bit word. -/
def wordBound : Nat := 18446744073709551616

theorem parseInteger_empty (lo hi : Int) : parseInteger "" lo hi = .error .empty := rfl

end JobQueue
