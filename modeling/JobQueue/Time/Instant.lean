/-!
# Instants on the UTC time line

An `Instant` counts whole seconds since 1970-01-01T00:00:00Z and the nanoseconds into the
current second. A nanosecond count from one second up marks an instant inside a leap second:
the extra second inserted after second `secs`, written `:60`. Instants are ordered by second,
then by nanosecond count, so a leap second sorts between its own minute and the next one.

The time line that the queue can represent is bounded: it starts at the first instant of the
year -262143 (`Instant.minimum`) and ends in the last second of the year 262142
(`Instant.maximum`). Every operation that could leave these bounds is checked and answers
`none` outside them.

**Arithmetic across a leap second.** A leap second has no place on the count of elapsed
seconds, so durations and shifts treat it specially:

* the time from one instant to another counts whole days, then the seconds within the day;
  a leap second met on the way counts once (`Instant.since`);
* shifting an instant inside a leap second forward by at least a second starts from the
  second it follows, and shifting it back starts from the second after it; a shift by less
  than a second that stays inside the leap second or the second before it keeps the
  reading (`Instant.shift`).

* `Instant.ofNanos?` — the instant with a given nanosecond count, if it is in range.
* `Instant.since`, `Instant.addNanos?`, `Instant.addSeconds?` — durations and shifts.
* `Civil` — a reading of the proleptic Gregorian calendar; `Civil.ofSeconds` and
  `Civil.toSeconds` convert between a count of seconds and a calendar reading.
-/

namespace JobQueue

/-- Nanoseconds in one second. -/
def nanosPerSecond : Nat := 1000000000

/-- **A point on the UTC time line**: whole seconds since the Unix epoch, and the
nanoseconds into that second; from `nanosPerSecond` on, the nanoseconds run through the leap
second that follows second `secs`. -/
structure Instant where
  /-- Whole seconds since 1970-01-01T00:00:00Z (negative before it). -/
  secs : Int
  /-- Nanoseconds into the second, or into the leap second after it from `10^9` on. -/
  nanos : Nat
  nanos_lt : nanos < 2 * nanosPerSecond
  deriving DecidableEq

namespace Instant

/-- Whether the instant lies inside a leap second. -/
def isLeap (t : Instant) : Bool := t.nanos ≥ nanosPerSecond

/-- The position of an instant in the order of instants: seconds first, then nanoseconds. -/
def key (t : Instant) : Int := t.secs * 2000000000 + t.nanos

/-- The instant as a count of nanoseconds since the epoch, a leap second counting as the
second after it. -/
def toNanos (t : Instant) : Int := t.secs * 1000000000 + t.nanos

instance : LT Instant := ⟨fun a b => a.key < b.key⟩
instance : LE Instant := ⟨fun a b => a.key ≤ b.key⟩

instance (a b : Instant) : Decidable (a < b) :=
  inferInstanceAs (Decidable (a.key < b.key))

instance (a b : Instant) : Decidable (a ≤ b) :=
  inferInstanceAs (Decidable (a.key ≤ b.key))

/-- Instants compare by their keys. -/
instance : Ord Instant := ⟨fun a b => compare a.key b.key⟩

/-- The instant that is `s` whole seconds after the epoch. -/
def ofSeconds (s : Int) : Instant := ⟨s, 0, by decide⟩

/-- The instant with nanosecond count `n`, outside any leap second, with no range check. -/
def ofNanos (n : Int) : Instant :=
  ⟨n / 1000000000, (n % 1000000000).toNat, by unfold nanosPerSecond; omega⟩

/-- The instant `frac` nanoseconds into second `secs`: inside its leap second when `frac`
is between one and two seconds, otherwise carried into the seconds around it. -/
def within (secs frac : Int) : Instant :=
  if h : 0 ≤ frac ∧ frac < 2000000000 then ⟨secs, frac.toNat, by unfold nanosPerSecond; omega⟩
  else ofNanos (secs * 1000000000 + frac)

/-- The first representable instant, -262143-01-01T00:00:00Z. -/
def minimum : Instant := ⟨-8334601228800, 0, by decide⟩

/-- The last representable instant outside a leap second,
+262142-12-31T23:59:59.999999999Z. -/
def maximum : Instant := ⟨8210266876799, 999999999, by decide⟩

/-- Whether an instant lies in a second from `minimum` to `maximum`. -/
def inRange (t : Instant) : Bool := decide (minimum.secs ≤ t.secs) && decide (t.secs ≤ maximum.secs)

/-- The instant with nanosecond count `n`, when that is inside the representable range. -/
def ofNanos? (n : Int) : Option Instant :=
  let t := ofNanos n
  if t.inRange then some t else none

/-- Whole seconds of `d` nanoseconds, rounded toward zero. -/
def wholeSeconds (d : Int) : Int :=
  if d < 0 then -((-d) / 1000000000) else d / 1000000000

/-- **The time from `b` to `a`** in nanoseconds: the whole days between their dates, then
the difference of their times of day, where a leap second that one of them is in counts only
when the other lies on its far side. -/
def since (a b : Instant) : Int :=
  let sa := a.secs % 86400
  let sb := b.secs % 86400
  let days := a.secs / 86400 - b.secs / 86400
  let leapSecond : Int :=
    if sa > sb && b.isLeap then 1 else if sa < sb && a.isLeap then -1 else 0
  (days * 86400 + (sa - sb) + leapSecond) * 1000000000 + ((a.nanos : Int) - b.nanos)

/-- **Shift by `d` nanoseconds**, with no range check. Outside a leap second this adds to
the count; inside one, see the module notes. -/
def shift (t : Instant) (d : Int) : Instant :=
  if t.isLeap then
    let s := wholeSeconds d
    let f := d - s * 1000000000
    if s > 0 || (f > 0 && t.nanos + f ≥ 2000000000) then ofNanos (t.toNanos - 1000000000 + d)
    else if s < 0 then ofNanos (t.toNanos + d)
    else within t.secs (t.nanos + f)
  else ofNanos (t.toNanos + d)

/-- Shift by `d` nanoseconds; `none` when the result leaves the range. -/
def addNanos? (t : Instant) (d : Int) : Option Instant :=
  let r := t.shift d
  if r.inRange then some r else none

/-- Shift by `s` whole seconds; `none` when the result leaves the range. -/
def addSeconds? (t : Instant) (s : Int) : Option Instant := t.addNanos? (s * 1000000000)

/-- Drop the fraction of a second; an instant in a leap second stays at its start. -/
def truncSeconds (t : Instant) : Instant :=
  if t.isLeap then ⟨t.secs, nanosPerSecond, by unfold nanosPerSecond; omega⟩
  else ⟨t.secs, 0, by decide⟩

/-- The later of two instants. -/
def later (a b : Instant) : Instant := if a < b then b else a

theorem toNanos_ofNanos (n : Int) : (ofNanos n).toNanos = n := by
  unfold ofNanos toNanos
  simp only
  omega

end Instant

/-! ## The proleptic Gregorian calendar -/

/-- Whether `y` is a leap year of the Gregorian calendar. -/
def isLeapYear (y : Int) : Bool := y % 4 == 0 && (y % 100 != 0 || y % 400 == 0)

/-- Days in month `m` (1 to 12) of year `y`. -/
def daysInMonth (y : Int) (m : Nat) : Nat :=
  if m == 4 || m == 6 || m == 9 || m == 11 then 30
  else if m == 2 then (if isLeapYear y then 29 else 28)
  else 31

/-- Days from 1970-01-01 to the date `y-m-d`. Counting in 400-year eras, each of 146097
days, with years starting in March so that the leap day comes last. -/
def daysFromCivil (y : Int) (m d : Nat) : Int :=
  let y' := if m ≤ 2 then y - 1 else y
  let era := y' / 400
  let yoe := y' % 400
  let mp : Int := if m > 2 then (m : Int) - 3 else (m : Int) + 9
  let doy := (153 * mp + 2) / 5 + (d : Int) - 1
  let doe := yoe * 365 + yoe / 4 - yoe / 100 + doy
  era * 146097 + doe - 719468

/-- The date `(year, month, day)` that lies `z` days after 1970-01-01. -/
def civilFromDays (z : Int) : Int × Nat × Nat :=
  let z' := z + 719468
  let era := z' / 146097
  let doe := z' % 146097
  let yoe := (doe - doe / 1460 + doe / 36524 - doe / 146096) / 365
  let doy := doe - (365 * yoe + yoe / 4 - yoe / 100)
  let mp := (5 * doy + 2) / 153
  let d := doy - (153 * mp + 2) / 5 + 1
  let m := if mp < 10 then mp + 3 else mp - 9
  let y := yoe + era * 400
  (if m ≤ 2 then y + 1 else y, m.toNat, d.toNat)

/-- Day of the week of the date `z` days after 1970-01-01, counted from Sunday as 0.
The epoch fell on a Thursday. -/
def weekdayOfDays (z : Int) : Nat := ((z + 4) % 7).toNat

/-- **A calendar reading**: a date of the proleptic Gregorian calendar and a time of day,
to the second. -/
structure Civil where
  year : Int
  month : Nat
  day : Nat
  hour : Nat
  minute : Nat
  second : Nat
  deriving DecidableEq, Repr

namespace Civil

/-- The calendar reading of the second that is `s` seconds after the epoch. -/
def ofSeconds (s : Int) : Civil :=
  let days := s / 86400
  let rest := (s % 86400).toNat
  let (y, m, d) := civilFromDays days
  ⟨y, m, d, rest / 3600, rest % 3600 / 60, rest % 60⟩

/-- Seconds from the epoch to a calendar reading. -/
def toSeconds (c : Civil) : Int :=
  daysFromCivil c.year c.month c.day * 86400 + (c.hour * 3600 + c.minute * 60 + c.second : Nat)

/-- Day of the week, Sunday as 0. -/
def weekday (c : Civil) : Nat := weekdayOfDays (daysFromCivil c.year c.month c.day)

end Civil

end JobQueue
