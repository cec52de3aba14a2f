import JobQueue.Decimal.Shortest

/-!
# Laying out a decimal as text

The digits of a number are fixed by `Binary.shortest`; where the point goes, whether an
exponent is written and how is a separate decision, and two are used here.

* `Layout.json` — data text: positional while the point falls from 4 places after the first
  digit to 16 places before the end, exponent `e+`/`e-` otherwise, and a whole number keeps a
  `.0`, so that it still reads as a floating-point number.
* `Layout.plain` — message text: always positional, however many zeros that takes, and a
  whole number is written without a point.

`Layout.renderBits` writes a double, given by its bits, by a layout, including zero, infinity
and NaN; `Layout.render` does the same for a `Float`.
-/

namespace JobQueue.Decimal

/-- **Where a decimal is written positionally, and how.** With `point` the position of the
decimal point counted from the first digit (`1.5` has point 1, `0.015` has point -1), a
number is positional when `point` lies in `minPoint..maxPoint`. -/
structure Layout where
  /-- Largest point position still written positionally (`none`: no limit). -/
  maxPoint : Option Int
  /-- Smallest point position still written positionally (`none`: no limit). -/
  minPoint : Option Int
  /-- What follows a whole number written positionally. -/
  wholeMark : String
  /-- Whether a nonnegative exponent carries a plus sign. -/
  plusExponent : Bool
  infinity : String
  notANumber : String

namespace Layout

/-- Data text. -/
def json : Layout :=
  { maxPoint := some 16, minPoint := some (-4), wholeMark := ".0", plusExponent := true,
    infinity := "inf", notANumber := "NaN" }

/-- Message text. -/
def plain : Layout :=
  { maxPoint := none, minPoint := none, wholeMark := "", plusExponent := false,
    infinity := "inf", notANumber := "NaN" }

/-- `n` zeros. -/
def zeros (n : Nat) : String := String.ofList (List.replicate n '0')

/-- Write `digits · 10^exp` (digits without trailing zeros) by the layout. -/
def digitsText (l : Layout) (d : Digits) : String :=
  let ds := (Nat.repr d.digits).toList
  let n : Int := ds.length
  let point := n + d.exp
  let fits := (l.maxPoint.all fun m => point ≤ m) && (l.minPoint.all fun m => point ≥ m)
  if fits && d.exp ≥ 0 then
    String.ofList ds ++ zeros d.exp.toNat ++ l.wholeMark
  else if fits && point > 0 then
    String.ofList (ds.take point.toNat) ++ "." ++ String.ofList (ds.drop point.toNat)
  else if fits then
    "0." ++ zeros (-point).toNat ++ String.ofList ds
  else
    let e := point - 1
    let mantissa := match ds with
      | [c] => String.singleton c
      | c :: rest => String.singleton c ++ "." ++ String.ofList rest
      | [] => "0"
    mantissa ++ "e" ++ (if e < 0 then "-" else if l.plusExponent then "+" else "") ++
      Nat.repr e.natAbs

/-- **Write the double with these bits by the layout.** -/
def renderBits (l : Layout) (bits : UInt64) : String :=
  match Binary.classifyBits bits with
  | .nan => l.notANumber
  | .infinite neg => (if neg then "-" else "") ++ l.infinity
  | .zero neg => (if neg then "-" else "") ++ "0" ++ l.wholeMark
  | .finite b => (if b.negative then "-" else "") ++ l.digitsText b.shortest

/-- Write a double by the layout. -/
def render (l : Layout) (f : Float) : String := l.renderBits f.toBits

end Layout

end JobQueue.Decimal
