import JobQueue.Decimal.Binary

/-!
# The shortest decimal that reads back

Every finite double `v = m · 2^e` is the rounding of an interval of reals: half the gap to
each neighbour on either side (a quarter on the lower side at a power of two), ends included
when `m` is even, since ties round to the even significand. The decimal written for `v` is
the one with the fewest significant digits inside that interval, and of two such, the one
nearer to `v` (an exact tie goes to the even last digit).

For `k = 1, 2, …, 17` digits the search looks only at the two `k`-digit neighbours of `v`:
if any `k`-digit decimal lies in the interval, one of those two does, because the interval
contains `v`. Seventeen digits always succeed for a double.

* `Digits` — a decimal `digits · 10^exp` with no trailing zero in `digits`.
* `shortest` — the decimal for a finite `Binary` value (its sign is kept apart).
-/

namespace JobQueue.Decimal

/-- **A decimal** `digits · 10^exp`. -/
structure Digits where
  digits : Nat
  exp : Int
  deriving DecidableEq, Repr

/-- Compare `a · 10^q` with `b · 2^e`, by cross-multiplying to whole numbers. -/
def compareScaled (a : Nat) (q : Int) (b : Nat) (e : Int) : Ordering :=
  compare (a * Nat.pow 10 q.toNat * Nat.pow 2 (-e).toNat) (b * Nat.pow 2 e.toNat * Nat.pow 10 (-q).toNat)

/-- Whether `10^p ≤ m · 2^e`. -/
def powTenLe (p : Int) (m : Nat) (e : Int) : Bool := compareScaled 1 p m e != .gt

/-- The largest `p` with `10^p ≤ m · 2^e`, for `m > 0`. The estimate from the bit length is
off by at most two, and the nearest candidate that passes is taken. -/
def floorLog10 (m : Nat) (e : Int) : Int :=
  let bits : Int := (m.log2 : Int) + e
  let guess := bits * 78913 / 262144
  let candidates := [guess + 2, guess + 1, guess, guess - 1, guess - 2]
  (candidates.find? fun p => powTenLe p m e).getD (guess - 3)

/-- Remove trailing zeros, moving them into the exponent. -/
def Digits.normalize (d : Digits) : Digits :=
  go d.digits d.exp d.digits
where
  /-- `fuel` bounds the number of zeros removed: never more than the digits present. -/
  go (n : Nat) (q : Int) : Nat → Digits
    | 0 => ⟨n, q⟩
    | fuel + 1 => if n != 0 && n % 10 == 0 then go (n / 10) (q + 1) fuel else ⟨n, q⟩

namespace Binary

/-- Whether `c · 10^q` rounds to this double: it lies between the two half-gap bounds, the
ends counting when the significand is even. -/
def accepts (b : Binary) (c : Nat) (q : Int) : Bool :=
  let low := 4 * b.mant - (if b.lowerCloser then 1 else 2)
  let high := 4 * b.mant + 2
  let inclusive := b.mant % 2 == 0
  let aboveLow := match compareScaled c q low (b.exp - 2) with
    | .gt => true
    | .eq => inclusive
    | .lt => false
  let belowHigh := match compareScaled c q high (b.exp - 2) with
    | .lt => true
    | .eq => inclusive
    | .gt => false
  aboveLow && belowHigh

/-- The `k`-digit decimal that reads back as this double and lies nearest to it, if any. -/
def candidate (b : Binary) (top : Int) (k : Nat) : Option Digits :=
  let q := top - (k : Int) + 1
  let num := b.mant * Nat.pow 2 b.exp.toNat * Nat.pow 10 (-q).toNat
  let den := Nat.pow 2 (-b.exp).toNat * Nat.pow 10 q.toNat
  let fl := num / den
  let exact := num % den == 0
  let lowOk := fl != 0 && b.accepts fl q
  let highOk := !exact && b.accepts (fl + 1) q
  if lowOk && highOk then
    -- compare the distances of the two neighbours: 2v against (2 fl + 1) · 10^q
    match compare (2 * num) ((2 * fl + 1) * den) with
    | .lt => some ⟨fl, q⟩
    | .gt => some ⟨fl + 1, q⟩
    | .eq => some (if fl % 2 == 0 then ⟨fl, q⟩ else ⟨fl + 1, q⟩)
  else if lowOk then some ⟨fl, q⟩
  else if highOk then some ⟨fl + 1, q⟩
  else none

/-- **The shortest decimal** for this double, nearest among the shortest. -/
def shortest (b : Binary) : Digits :=
  let top := floorLog10 b.mant b.exp
  let found := (List.range 17).findSome? fun i => b.candidate top (i + 1)
  (found.getD ⟨b.mant, 0⟩).normalize

end Binary

end JobQueue.Decimal
