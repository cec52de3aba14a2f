import JobQueue.Time.Instant
import JobQueue.Text.Blank

/-!
# RFC 3339 timestamps

Writing and reading instants as RFC 3339 text in UTC.

**Writing.** A timestamp is `YYYY-MM-DDTHH:MM:SS`, an optional fraction and `Z`; a leap
second is second `60`. Years from
0 to 9999 take four digits; other years take a sign and at least four digits
(`+10000`, `-0001`). Two fraction styles exist: `Fraction.automatic` writes 3, 6 or 9
digits, the fewest that show the nanoseconds exactly, and nothing for a whole second;
`Fraction.none` drops the fraction (the stored form, which therefore truncates).

**Reading** is lenient in the common way: blanks may stand before each number, the date and
time may be joined by `T`, `t` or a space, a year may carry an explicit sign and then any
number of digits, second `60` is the leap second after second 59 of its minute (whatever
the minute), the fraction may have any number of digits (the first nine count), and the
offset is `Z`, `UTC`, or `±HH:MM` with an optional colon. Each failure is one of the
`StampError` causes, checked in reading order.

* `Instant.format` — the written form.
* `Instant.parse` — the reader, `Except StampError Instant`.
-/

namespace JobQueue

/-- How a written timestamp shows the fraction of a second. -/
inductive Fraction where
  /-- 3, 6 or 9 digits, the fewest that are exact; none for a whole second. -/
  | automatic
  /-- No fraction at all. -/
  | none
  deriving DecidableEq, Repr

/-- Why a timestamp text could not be read. -/
inductive StampError where
  | outOfRange
  | impossible
  | notEnough
  | invalid
  | tooShort
  | tooLong
  deriving DecidableEq, Repr

/-- The wording of each reading failure. -/
def StampError.message : StampError → String
  | .outOfRange => "input is out of range"
  | .impossible => "no possible date and time matching input"
  | .notEnough => "input is not enough for unique date and time"
  | .invalid => "input contains invalid characters"
  | .tooShort => "premature end of input"
  | .tooLong => "trailing input"

/-- Decimal digits of `n`, left-padded with zeros to `width`. -/
def padNat (n width : Nat) : String :=
  let digits := (Nat.repr n).toList
  String.ofList (List.replicate (width - digits.length) '0' ++ digits)

/-- The year as written: four digits inside 0..9999, otherwise a sign and at least four. -/
def yearText (y : Int) : String :=
  if 0 ≤ y ∧ y ≤ 9999 then padNat y.toNat 4
  else (if y < 0 then "-" else "+") ++ padNat y.natAbs 4

/-- The fraction as written in the automatic style. -/
def fractionText (nanos : Nat) : String :=
  if nanos == 0 then ""
  else if nanos % 1000000 == 0 then "." ++ padNat (nanos / 1000000) 3
  else if nanos % 1000 == 0 then "." ++ padNat (nanos / 1000) 6
  else "." ++ padNat nanos 9

namespace Instant

/-- **The written form** of an instant in UTC. -/
def format (t : Instant) (f : Fraction) : String :=
  let c := Civil.ofSeconds t.secs
  yearText c.year ++ "-" ++ padNat c.month 2 ++ "-" ++ padNat c.day 2 ++ "T" ++
    padNat c.hour 2 ++ ":" ++ padNat c.minute 2 ++ ":" ++
    padNat (c.second + t.nanos / nanosPerSecond) 2 ++
    (match f with
     | .automatic => fractionText (t.nanos % nanosPerSecond)
     | .none => "") ++ "Z"

/-- The automatic written form, used wherever an instant is shown. -/
def text (t : Instant) : String := t.format .automatic

/-- The stored form: whole seconds. -/
def stamp (t : Instant) : String := t.format .none

end Instant

/-! ## Reading -/

namespace Timestamp

/-- Fields collected while reading. -/
structure Fields where
  year : Int := 0
  month : Nat := 1
  day : Nat := 1
  hour : Nat := 0
  minute : Nat := 0
  second : Nat := 0
  nanos : Nat := 0
  offset : Int := 0

/-- A reading step answers a value and the rest of the text, or the reason for failing. -/
abbrev Reading := Except StampError

/-- Read between `lo` and `hi` ASCII digits as a number. Fails as `tooShort` on empty text,
`invalid` when fewer than `lo` digits stand first, `outOfRange` past the 64-bit range. -/
def digits (cs : List Char) (lo hi : Nat) : Reading (Nat × List Char) :=
  let ds := (cs.take hi).takeWhile Char.isDigit
  if cs.isEmpty && lo > 0 then .error .tooShort
  else if ds.length < lo then .error .invalid
  else
    let n := ds.foldl (fun acc c => acc * 10 + (c.toNat - '0'.toNat)) 0
    if n > 9223372036854775807 then .error .outOfRange
    else .ok (n, cs.drop ds.length)

/-- Require the literal character `c`. -/
def literal (cs : List Char) (c : Char) : Except StampError (List Char) :=
  match cs with
  | [] => .error .tooShort
  | d :: rest => if d == c then .ok rest else .error .invalid

/-- A number field after optional blanks, checked to lie in `lo..hi`. -/
def field (cs : List Char) (width lo hi : Nat) : Reading (Nat × List Char) := do
  let (n, rest) ← digits (Text.dropBlank cs) 1 width
  if n < lo || n > hi then throw .outOfRange
  return (n, rest)

/-- The year: an explicit sign allows any number of digits, otherwise at most four. -/
def year (cs : List Char) : Reading (Int × List Char) :=
  match Text.dropBlank cs with
  | '-' :: rest => do
    let (n, r) ← digits rest 1 rest.length
    return (-(n : Int), r)
  | '+' :: rest => do
    let (n, r) ← digits rest 1 rest.length
    return ((n : Int), r)
  | other => do
    let (n, r) ← digits other 1 4
    return ((n : Int), r)

/-- The fraction after a point: the first nine digits count, the rest are skipped. -/
def fraction (cs : List Char) : Reading (Nat × List Char) :=
  match cs with
  | '.' :: rest => do
    let (n, r) ← digits rest 1 9
    let used := rest.length - r.length
    let scaled := n * Nat.pow 10 (9 - used)
    return (scaled, r.dropWhile Char.isDigit)
  | _ => .ok (0, cs)

/-- Two leading ASCII digits, as in the hours and minutes of an offset. -/
def twoDigits (cs : List Char) : Except StampError (Nat × Nat × List Char) :=
  match cs with
  | a :: b :: rest =>
    if a.isDigit && b.isDigit then .ok (a.toNat - '0'.toNat, b.toNat - '0'.toNat, rest)
    else .error .invalid
  | [a] => if a.toNat < 128 then .error .tooShort else .error .invalid
  | [] => .error .tooShort

/-- The offset from UTC in seconds: `Z`, `UTC` in any case, or a signed `HH:MM`, where colons
and blanks may separate hours and minutes. -/
def offset (cs : List Char) : Reading (Int × List Char) :=
  let cs := Text.dropBlank cs
  match cs with
  | u :: t :: c :: rest =>
    if u.toLower == 'u' && t.toLower == 't' && c.toLower == 'c' then .ok (0, rest)
    else signed cs
  | _ => signed cs
where
  signed (cs : List Char) : Reading (Int × List Char) :=
    match cs with
    | 'Z' :: rest => .ok (0, rest)
    | 'z' :: rest => .ok (0, rest)
    | '+' :: rest => clock false rest
    | '-' :: rest => clock true rest
    | '−' :: rest => clock true rest
    | _ :: _ => .error .invalid
    | [] => .error .tooShort
  clock (negative : Bool) (cs : List Char) : Reading (Int × List Char) := do
    let (h1, h2, rest) ← twoDigits cs
    let rest := rest.dropWhile fun c => c == ':' || Text.isBlank c
    let (m1, m2, rest) ← match rest with
      | a :: b :: r =>
        if a.isDigit && b.isDigit then
          if a.toNat - '0'.toNat ≥ 6 then .error .outOfRange
          else .ok (a.toNat - '0'.toNat, b.toNat - '0'.toNat, r)
        else .error .invalid
      | [a] => if a.toNat < 128 then .error .tooShort else .error .invalid
      | [] => .error .tooShort
    let secs : Int := ((h1 * 10 + h2) * 3600 + (m1 * 10 + m2) * 60 : Nat)
    return (if negative then -secs else secs, rest)

/-- Read all fields of a timestamp, in text order. -/
def fields (s : String) : Except StampError (Fields × List Char) := do
  let cs := s.toList
  let (y, cs) ← year cs
  let cs ← literal (Text.dropBlank cs) '-'
  let (mo, cs) ← field cs 2 1 12
  let cs ← literal (Text.dropBlank cs) '-'
  let (d, cs) ← field cs 2 1 31
  let cs ← match cs with
    | c :: rest => if c == 'T' || c == 't' || c == ' ' then pure rest else throw .invalid
    | [] => throw .tooShort
  let (h, cs) ← field cs 2 0 23
  let cs ← literal (Text.dropBlank cs) ':'
  let (mi, cs) ← field cs 2 0 59
  let cs ← literal (Text.dropBlank cs) ':'
  let (sec, cs) ← field cs 2 0 60
  let (ns, cs) ← fraction cs
  let (off, cs) ← offset (Text.dropBlank cs)
  return ({ year := y, month := mo, day := d, hour := h, minute := mi, second := sec,
            nanos := ns, offset := off }, cs)

end Timestamp

namespace Instant

/-- **Read a timestamp.** The date must exist, the offset must be under a day, and the
instant must be representable; second 60 reads as the leap second after second 59, moved to
UTC with the rest of the reading. -/
def parse (s : String) : Except StampError Instant := do
  let (f, rest) ← Timestamp.fields s
  unless (Text.dropBlank rest).isEmpty do throw .tooLong
  if f.year < -262143 || f.year > 262142 || f.day > daysInMonth f.year f.month then
    throw .outOfRange
  if f.offset ≥ 86400 || f.offset ≤ -86400 then throw .outOfRange
  let leap := if f.second == 60 then nanosPerSecond else 0
  let wall := Civil.toSeconds ⟨f.year, f.month, f.day, f.hour, f.minute, min f.second 59⟩
  let t := Instant.within (wall - f.offset) (f.nanos + leap)
  if t.inRange then return t else throw .outOfRange

end Instant

end JobQueue
