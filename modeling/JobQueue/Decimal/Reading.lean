import JobQueue.Decimal.Nearest

/-!
# Reading a decimal as a double

The text of a floating-point number: an optional sign, then either a decimal (digits with an
optional point and fraction, at least one digit in all, then an optional exponent `e` or
`E` with its own sign and at least one digit) or one of the words `inf`, `infinity` and
`nan`, in any case. The value is the double nearest to the exact decimal, ties to even.

Exponents far outside the range of doubles are decided without forming the power of ten:
a nonzero decimal below `10^-330` is zero, one above `10^310` is infinite.

* `parseBits?`, `parseFloat?` — the double a text stands for, if it is such a text, as bits
  and as a `Float`.
-/

namespace JobQueue.Decimal

/-- The value of a run of ASCII digits. -/
def digitsValue (cs : List Char) : Nat :=
  cs.foldl (fun acc c => acc * 10 + (c.toNat - '0'.toNat)) 0

/-- The bits of the double nearest to `m · 10^e`. -/
def scaledBits (m : Nat) (e : Int) : UInt64 :=
  let size : Int := (Nat.repr m).length
  if m == 0 then 0
  else if e + size > 310 then 0x7FF0000000000000
  else if e + size < -330 then 0
  else if e ≥ 0 then nearestBits (m * Nat.pow 10 e.toNat) 1
  else nearestBits m (Nat.pow 10 (-e).toNat)

/-- The exponent part, after `e` or `E`: a sign and at least one digit, then the end. -/
def exponentPart (cs : List Char) : Option Int :=
  let (negative, ds) := match cs with
    | '+' :: rest => (false, rest)
    | '-' :: rest => (true, rest)
    | rest => (false, rest)
  if ds.isEmpty || !ds.all Char.isDigit then none
  else
    let v : Int := digitsValue ds
    some (if negative then -v else v)

/-- The bits of the magnitude of an unsigned decimal. -/
def unsignedBits (cs : List Char) : Option UInt64 :=
  let whole := cs.takeWhile Char.isDigit
  let rest := cs.dropWhile Char.isDigit
  let (frac, rest) := match rest with
    | '.' :: more => (more.takeWhile Char.isDigit, more.dropWhile Char.isDigit)
    | _ => ([], rest)
  if whole.isEmpty && frac.isEmpty then none
  else
    let exp : Option Int := match rest with
      | [] => some 0
      | 'e' :: more => exponentPart more
      | 'E' :: more => exponentPart more
      | _ => none
    exp.map fun e => scaledBits (digitsValue (whole ++ frac)) (e - frac.length)

/-- **The bits of the double that a text stands for**, if it is the text of one; a `-` sets
the sign bit. -/
def parseBits? (s : String) : Option UInt64 :=
  let (negative, body) := match s.toList with
    | '+' :: rest => (false, rest)
    | '-' :: rest => (true, rest)
    | rest => (false, rest)
  let word := String.ofList (body.map Char.toLower)
  let magnitude : Option UInt64 :=
    if word == "inf" || word == "infinity" then some 0x7FF0000000000000
    else if word == "nan" then some 0x7FF8000000000000
    else unsignedBits body
  magnitude.map fun b => if negative then b ^^^ 0x8000000000000000 else b

/-- **The double that a text stands for**, if it is the text of one. -/
def parseFloat? (s : String) : Option Float := (parseBits? s).map Float.ofBits

end JobQueue.Decimal
