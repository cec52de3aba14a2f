import JobQueue.Decimal.Binary

/-!
# The double nearest to a rational

Reading a decimal text means finding the double nearest to an exact rational `num / den`.
The rational is scaled by a power of two until its whole part is a 53-bit significand (or
the exponent reaches the subnormal floor), and the remainder decides the rounding: above
one half rounds up, below rounds down, exactly one half goes to the even significand.
Values past the largest double become infinity.

* `nearestBits`, `nearest` — the double nearest to `num / den`, as bits and as a `Float`.
-/

namespace JobQueue.Decimal

/-- The largest `L` with `2^L ≤ num / den`, for `num, den > 0`. -/
def floorLog2 (num den : Nat) : Int :=
  let guess : Int := (num.log2 : Int) - (den.log2 : Int)
  if num * Nat.pow 2 (-guess).toNat ≥ den * Nat.pow 2 guess.toNat then guess else guess - 1

/-- **The bits of the double nearest to `num / den`**, ties to even; `den` must be
positive. -/
def nearestBits (num den : Nat) : UInt64 :=
  if num == 0 || den == 0 then 0
  else
    let e := max (-1074) (floorLog2 num den - 52)
    let scaledNum := num * Nat.pow 2 (-e).toNat
    let scaledDen := den * Nat.pow 2 e.toNat
    let q := scaledNum / scaledDen
    let r := scaledNum % scaledDen
    let up := 2 * r > scaledDen || (2 * r == scaledDen && q % 2 == 1)
    let q := if up then q + 1 else q
    let (q, e) := if q == 9007199254740992 then (4503599627370496, e + 1) else (q, e)
    Binary.toBits q e

/-- The double nearest to `num / den`. -/
def nearest (num den : Nat) : Float := Float.ofBits (nearestBits num den)

end JobQueue.Decimal
