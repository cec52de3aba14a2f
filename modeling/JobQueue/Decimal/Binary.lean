/-!
# Doubles as sign, significand and binary exponent

A finite, nonzero double is `±m · 2^e` with a whole significand `m`. Decoding the 64 bits
gives that pair exactly, and the reverse direction builds the bits of the double that a
rounded significand and exponent stand for. Everything here is arithmetic on `Nat` and
`Int`; no floating-point operation is involved.

* `Binary.classifyBits`, `Binary.classify` — zero, infinity, NaN, or a finite `Binary` value.
* `Binary.toBits` — the bits of a normalised or subnormal value.
* `Binary.wholeBits?`, `Binary.wholeValue?` — the value of a double that is a whole number.
-/

namespace JobQueue.Decimal

/-- **A finite nonzero double**: `(-1)^negative · mant · 2^exp`. `lowerCloser` is set when the
significand is a power of two above the subnormal range, where the next smaller double is
twice as close as the next larger one. -/
structure Binary where
  negative : Bool
  mant : Nat
  exp : Int
  lowerCloser : Bool
  deriving Repr

/-- The kinds of double. -/
inductive Kind where
  | finite (b : Binary)
  | zero (negative : Bool)
  | infinite (negative : Bool)
  | nan
  deriving Repr

namespace Binary

/-- Read the 64 bits of a double. -/
def classifyBits (b : UInt64) : Kind :=
  let bits := b.toNat
  let negative := bits / 9223372036854775808 == 1
  let field := (bits / 4503599627370496) % 2048
  let frac := bits % 4503599627370496
  if field == 2047 then (if frac == 0 then .infinite negative else .nan)
  else if field == 0 then
    (if frac == 0 then .zero negative else .finite ⟨negative, frac, -1074, false⟩)
  else .finite ⟨negative, frac + 4503599627370496, Int.ofNat field - 1075, frac == 0 && field > 1⟩

/-- The kind of a double. -/
def classify (f : Float) : Kind := classifyBits f.toBits

/-- The bits of a positive value `q · 2^e` whose significand is already rounded: either
`2^52 ≤ q < 2^53` with `-1074 ≤ e ≤ 971`, or a subnormal `q < 2^52` with `e = -1074`. Values
past the largest double become infinity. -/
def toBits (q : Nat) (e : Int) : UInt64 :=
  if e > 971 then 0x7FF0000000000000
  else if q < 4503599627370496 then q.toUInt64
  else (((e + 1075).toNat * 4503599627370496) + (q - 4503599627370496)).toUInt64

/-- **The value of the double with these bits, if it is a whole number**; infinities and NaN
are not. -/
def wholeBits? (bits : UInt64) : Option Int :=
  match classifyBits bits with
  | .zero _ => some 0
  | .finite b =>
    let magnitude : Option Nat :=
      if b.exp ≥ 0 then some (b.mant * Nat.pow 2 b.exp.toNat)
      else if b.mant % Nat.pow 2 (-b.exp).toNat == 0 then some (b.mant / Nat.pow 2 (-b.exp).toNat)
      else none
    magnitude.map fun m => if b.negative then -(m : Int) else m
  | _ => none

/-- The value of a double that is a whole number, if it is one. -/
def wholeValue? (f : Float) : Option Int := wholeBits? f.toBits

end Binary

end JobQueue.Decimal
