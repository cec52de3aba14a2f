import JobQueue.Toml.Strings
import JobQueue.Decimal.Reading
import JobQueue.Text.Numeral
import JobQueue.Time.Instant

/-!
# TOML numbers, booleans and date-times

* Integers are decimal (an optional sign, no leading zero), or hexadecimal, octal or binary
  after `0x`, `0o`, `0b`; single underscores may stand between digits. They must fit in a
  signed 64-bit word.
* Floats have a fraction, an exponent or both, or are `inf` or `nan` with an optional sign.
  A float too large for a double is refused, but only in the positive direction: a
  negative one reads as negative infinity.
* Date-times follow RFC 3339: a full date, an optional time after `T`, `t` or a space, and
  an optional offset; or a time alone. Months, days, hours, minutes and seconds are
  range-checked, days against the month.

* `Scan.integer`, `Scan.float`, `Scan.boolean`, `Scan.dateTime` — the scanners.
-/

namespace JobQueue.Toml

/-- The numbers' failure for a value outside a range. -/
def outOfRange : String := "value is out of range"

namespace Scan

/-- One decimal digit. -/
def digit : Scan Char := charIf Char.isDigit

/-- Digits of a kind, single underscores allowed between them, after a first digit. -/
def digitTail (isDigitOf : Char → Bool) : Scan Unit := do
  let step : Scan Unit :=
    first (skip (charIf isDigitOf)) do
      char '_'
      within (.expected "digit") (final (skip (charIf isDigitOf)))
  skip (many step (← fuel))

/-- Digits, leading zeros allowed. -/
def zeroPrefixable : Scan Unit := do
  skip digit
  digitTail Char.isDigit

/-- An optional sign. -/
def sign : Scan (Option Char) := optional (charIf fun c => c == '+' || c == '-')

/-- The text of a decimal integer. -/
def decimalText : Scan (List Char) :=
  within (.label "integer") do
    let (_, raw) ← spanned do
      skip sign
      first (do skip (charIf fun c => '1' ≤ c && c ≤ '9'); digitTail Char.isDigit) (skip digit)
    pure raw

/-- The digits after a radix prefix. -/
def radixText (pfx : String) (what : String) (isDigitOf : Char → Bool) : Scan (List Char) :=
  within (.label what) do
    text pfx
    let (_, raw) ← spanned (final do
      skip (charIf isDigitOf)
      digitTail isDigitOf)
    pure raw

/-- The value of digits in a radix, as a signed 64-bit word. -/
def wordOfDigits (radix : Nat) (cs : List Char) : Except String Int :=
  let value := cs.foldl (fun acc c => acc * radix + hexValue [c]) 0
  if value ≤ 9223372036854775807 then .ok value else .error "number too large to fit in target type"

/-- **An integer.** -/
def integer : Scan Int := do
  let without := fun (cs : List Char) => cs.filter (· != '_')
  match ← peekN 2 with
  | ['0', 'x'] => final (checked (radixText "0x" "hexadecimal integer" isHexDigit)
      fun cs => wordOfDigits 16 (without cs))
  | ['0', 'o'] => final (checked (radixText "0o" "octal integer" fun c => '0' ≤ c && c ≤ '7')
      fun cs => wordOfDigits 8 (without cs))
  | ['0', 'b'] => final (checked (radixText "0b" "binary integer" fun c => c == '0' || c == '1')
      fun cs => wordOfDigits 2 (without cs))
  | _ => do
    let start ← offset
    let raw ← decimalText
    match parseInteger (String.ofList (without raw)) wordMin wordMax with
    | .ok n => pure n
    | .error e => throw { offset := start, cause := some e.message, final := true }

/-- A fraction: a point and digits. -/
def fraction : Scan Unit := do
  char '.'
  within (.expected "digit") (final zeroPrefixable)

/-- An exponent. -/
def exponent : Scan Unit := do
  skip (charIf fun c => c == 'e' || c == 'E')
  skip sign
  final zeroPrefixable

/-- `inf` or `nan`, with an optional sign. -/
def specialFloat : Scan Float := do
  let s ← sign
  let f ← first (do text "inf"; pure (1.0 / 0.0)) (do text "nan"; pure (0.0 / 0.0))
  pure (if s == some '-' then -f else f)

/-- **A float.** -/
def float : Scan Float :=
  within (.label "floating-point number") <| first
    (do
      let start ← offset
      let (_, raw) ← spanned do
        skip decimalText
        first exponent (do fraction; skip (optional exponent))
      let f := (Decimal.parseFloat? (String.ofList (raw.filter (· != '_')))).getD 0.0
      if f == 1.0 / 0.0 then throw { offset := start, final := true } else pure f)
    specialFloat

/-- **A boolean**, spelled out entirely once its first letter is seen. -/
def boolean : Scan Bool := do
  match ← peek with
  | some 't' => do final (text "true"); pure true
  | some 'f' => do final (text "false"); pure false
  | _ => stop

/-- Exactly `n` digits, as a number. -/
def fixedDigits (n : Nat) : Scan Nat := do
  let ahead ← peekN n
  if ahead.length == n && ahead.all Char.isDigit then do
    skip (takeUpTo n Char.isDigit)
    pure (Decimal.digitsValue ahead)
  else stop

/-- Exactly `n` digits within `lo` to `hi`. -/
def rangedDigits (n lo hi : Nat) : Scan Nat :=
  checked (fixedDigits n) fun v => if lo ≤ v && v ≤ hi then .ok v else .error outOfRange

/-- A full date. -/
def fullDate : Scan Unit := do
  let year ← fixedDigits 4
  char '-'
  let month ← final (rangedDigits 2 1 12)
  final (char '-')
  let dayStart ← offset
  let day ← final (rangedDigits 2 1 31)
  if daysInMonth year month < day then
    throw { offset := dayStart, cause := some outOfRange, final := true }

/-- A time of day, with an optional fraction of a second. -/
def partialTime : Scan Unit := do
  skip (rangedDigits 2 0 23)
  char ':'
  final do
    skip (rangedDigits 2 0 59)
    char ':'
    skip (rangedDigits 2 0 60)
    skip (optional (do char '.'; skip (takeWhile1 Char.isDigit)))

/-- A time offset. -/
def timeOffset : Scan Unit :=
  within (.label "time offset") <| first (skip (charIf fun c => c == 'Z' || c == 'z')) do
    skip (charIf fun c => c == '+' || c == '-')
    final do
      skip (rangedDigits 2 0 23)
      char ':'
      skip (rangedDigits 2 0 59)

/-- **A date-time**, as written. -/
def dateTime : Scan String := do
  let (_, raw) ← spanned <| first
    (within (.label "date-time") do
      fullDate
      skip (optional do
        skip (charIf fun c => c == 'T' || c == 't' || c == ' ')
        partialTime
        skip (optional timeOffset)))
    (within (.label "time") partialTime)
  pure (String.ofList raw)

end Scan

end JobQueue.Toml
