import JobQueue.Decimal.Nearest

/-!
# Doubles as their 64 bits

A double is kept as its bit pattern, and the little arithmetic the number reader does is
defined on the pattern through exact values: the product or quotient of two finite doubles
is the double nearest to the exact product or quotient (`nearestBits`), and zeros,
infinities and NaN combine as IEEE 754 says. The sign of a result is the exclusive or of the
operands' signs, also when the result is zero or infinite.

Equality is the IEEE comparison, not equality of the bits: NaN equals nothing, not even
itself, and the two zeros are equal.

* `Double` — the bits, with `Double.kind` reading them.
* `Double.ofNat`, `Double.mul`, `Double.div`, negation — the operations.
* `Double.beq` — IEEE equality.
-/

namespace JobQueue.Decimal

/-- **A double**, by its 64 bits. -/
structure Double where
  bits : UInt64
  deriving DecidableEq, Repr

namespace Double

/-- The sign bit. -/
def signBit : UInt64 := 0x8000000000000000

/-- Positive zero. -/
def zero : Double := ⟨0⟩

/-- Negative zero. -/
def negZero : Double := ⟨signBit⟩

/-- The bits of positive infinity. -/
def infinityBits : UInt64 := 0x7FF0000000000000

/-- The quiet NaN that invalid operations give. -/
def nan : Double := ⟨0x7FF8000000000000⟩

/-- What the bits stand for. -/
def kind (x : Double) : Kind := Binary.classifyBits x.bits

/-- Whether the sign bit is set; zeros, infinities and NaN have one too. -/
def negative (x : Double) : Bool := x.bits.toNat / 9223372036854775808 == 1

/-- The bits with the sign bit set when `negative`. -/
def signed (negative : Bool) (bits : UInt64) : Double :=
  ⟨if negative then bits ^^^ signBit else bits⟩

instance : Neg Double := ⟨fun x => ⟨x.bits ^^^ signBit⟩⟩

/-- Whether the double is an infinity. -/
def isInf (x : Double) : Bool :=
  match x.kind with
  | .infinite _ => true
  | _ => false

/-- **The double nearest to a whole number.** -/
def ofNat (n : Nat) : Double := ⟨nearestBits n 1⟩

/-- **The product**, rounded to nearest. -/
def mul (x y : Double) : Double :=
  let negative := x.negative != y.negative
  match x.kind, y.kind with
  | .nan, _ | _, .nan => nan
  | .infinite _, .zero _ | .zero _, .infinite _ => nan
  | .infinite _, _ | _, .infinite _ => signed negative infinityBits
  | .zero _, _ | _, .zero _ => signed negative 0
  | .finite a, .finite b =>
    let e := a.exp + b.exp
    signed negative (nearestBits (a.mant * b.mant * Nat.pow 2 e.toNat) (Nat.pow 2 (-e).toNat))

/-- **The quotient**, rounded to nearest; a finite nonzero double over zero is infinite. -/
def div (x y : Double) : Double :=
  let negative := x.negative != y.negative
  match x.kind, y.kind with
  | .nan, _ | _, .nan => nan
  | .infinite _, .infinite _ | .zero _, .zero _ => nan
  | .infinite _, _ | _, .zero _ => signed negative infinityBits
  | _, .infinite _ | .zero _, _ => signed negative 0
  | .finite a, .finite b =>
    let e := a.exp - b.exp
    signed negative (nearestBits (a.mant * Nat.pow 2 e.toNat) (b.mant * Nat.pow 2 (-e).toNat))

instance : Mul Double := ⟨mul⟩

instance : Div Double := ⟨div⟩

/-- **IEEE equality**: NaN equals nothing, the two zeros are equal, and otherwise the bits
decide. -/
def beq (x y : Double) : Bool :=
  match x.kind, y.kind with
  | .nan, _ | _, .nan => false
  | .zero _, .zero _ => true
  | _, _ => x.bits == y.bits

instance : BEq Double := ⟨beq⟩

/-- The same bits as a `Float`. -/
def toFloat (x : Double) : Float := Float.ofBits x.bits

instance : Coe Double Float := ⟨toFloat⟩

end Double

end JobQueue.Decimal
