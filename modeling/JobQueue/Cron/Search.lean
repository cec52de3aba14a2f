import JobQueue.Cron.Pattern
import JobQueue.Time.Zone
import JobQueue.Time.Fault

/-!
# The next firing of a pattern

The search walks the calendar of a zone field by field: years, then months, days, hours,
minutes and seconds, each in increasing order over the pattern's values. It starts from a
local reading, the *start*: in the first year tried, months begin at the start's month, and
so on down, each field beginning at the start's value only the first time it is entered.

* A field whose start value is not one of its pattern values gives up the start for all
  finer fields, but still skips the values below its own start.
* Days run up to the length of the month; a start day past that length begins at the last
  day instead.
* Years run over the pattern's years from the start's year on; a start before year 0 finds
  nothing.
* A local time the zone skipped, or one it repeated, is passed over. A calendar day that the
  zone skipped entirely aborts the search.
* The day of the week is checked last; a wrong one moves on to the next day.

* `Pattern.firstFrom` — the first firing at or after a local start.
* `Pattern.nextAfter` — the first firing strictly after an instant, to the whole second.
-/

namespace JobQueue.Cron

/-- **Where a search stands**: the local start, and for each field whether it still begins
at the start's value. -/
structure Query where
  start : Civil
  month : Bool := true
  day : Bool := true
  hour : Bool := true
  minute : Bool := true
  second : Bool := true
  deriving Repr

namespace Query

/-- Give up the start for months and finer fields. -/
def resetMonth (q : Query) : Query :=
  { q with month := false, day := false, hour := false, minute := false, second := false }

/-- Give up the start for days and finer fields. -/
def resetDay (q : Query) : Query :=
  { q with day := false, hour := false, minute := false, second := false }

/-- Give up the start for hours and finer fields. -/
def resetHour (q : Query) : Query := { q with hour := false, minute := false, second := false }

/-- Give up the start for minutes and seconds. -/
def resetMinute (q : Query) : Query := { q with minute := false, second := false }

/-- Give up the start for seconds. -/
def resetSecond (q : Query) : Query := { q with second := false }

/-- Where months begin: the start's month the first time, then January. -/
def monthFrom (q : Query) : Nat × Query :=
  if q.month then (q.start.month, { q with month := false }) else (1, q)

/-- Where days begin. -/
def dayFrom (q : Query) : Nat × Query :=
  if q.day then (q.start.day, { q with day := false }) else (1, q)

/-- Where hours begin. -/
def hourFrom (q : Query) : Nat × Query :=
  if q.hour then (q.start.hour, { q with hour := false }) else (0, q)

/-- Where minutes begin. -/
def minuteFrom (q : Query) : Nat × Query :=
  if q.minute then (q.start.minute, { q with minute := false }) else (0, q)

/-- Where seconds begin. -/
def secondFrom (q : Query) : Nat × Query :=
  if q.second then (q.start.second, { q with second := false }) else (0, q)

end Query

/-- What a stretch of the calendar held. -/
inductive Scan where
  /-- A firing, at this UTC second. -/
  | hit (utc : Int)
  /-- A calendar day the zone skipped entirely. -/
  | missingDay
  /-- A time of the right day but the wrong day of the week. -/
  | wrongWeekday
  /-- Nothing. -/
  | exhausted
  deriving DecidableEq, Repr

namespace Scan

/-- The seconds of one minute. -/
def seconds (p : Pattern) (tl : Timeline) (y : Int) (m d h mi : Nat) : List Nat → Scan
  | [] => .exhausted
  | s :: rest =>
    if !tl.dateExists y m d then .missingDay
    else
      match tl.resolve (Civil.toSeconds ⟨y, m, d, h, mi, s⟩) with
      | .single u =>
        if p.weekdays.contains (weekdayOfDays (daysFromCivil y m d) + 1) then .hit u
        else .wrongWeekday
      | _ => seconds p tl y m d h mi rest

/-- The minutes of one hour. -/
def minutes (p : Pattern) (tl : Timeline) (y : Int) (m d h : Nat) :
    Query → List Nat → Scan × Query
  | q, [] => (.exhausted, q)
  | q, mi :: rest =>
    let (lo, q) := q.secondFrom
    let q := if p.seconds.contains lo then q else q.resetSecond
    match seconds p tl y m d h mi (p.seconds.filter (lo ≤ ·)) with
    | .exhausted => minutes p tl y m d h q.resetMinute rest
    | r => (r, q)

/-- The hours of one day. -/
def hours (p : Pattern) (tl : Timeline) (y : Int) (m d : Nat) :
    Query → List Nat → Scan × Query
  | q, [] => (.exhausted, q)
  | q, h :: rest =>
    let (lo, q) := q.minuteFrom
    let q := if p.minutes.contains lo then q else q.resetMinute
    match minutes p tl y m d h q (p.minutes.filter (lo ≤ ·)) with
    | (.exhausted, q) => hours p tl y m d q.resetHour rest
    | r => r

/-- The days of one month; a wrong day of the week moves on to the next day. -/
def days (p : Pattern) (tl : Timeline) (y : Int) (m : Nat) :
    Query → List Nat → Scan × Query
  | q, [] => (.exhausted, q)
  | q, d :: rest =>
    let (lo, q) := q.hourFrom
    let q := if p.hours.contains lo then q else q.resetHour
    match hours p tl y m d q (p.hours.filter (lo ≤ ·)) with
    | (.exhausted, q) => days p tl y m q.resetDay rest
    | (.wrongWeekday, q) => days p tl y m q rest
    | r => r

/-- The months of one year. -/
def months (p : Pattern) (tl : Timeline) (y : Int) : Query → List Nat → Scan × Query
  | q, [] => (.exhausted, q)
  | q, m :: rest =>
    let (lo, q) := q.dayFrom
    let q := if p.days.contains lo then q else q.resetDay
    let last := daysInMonth y m
    match days p tl y m q (p.days.filter fun d => min lo last ≤ d && d ≤ last) with
    | (.exhausted, q) => months p tl y q.resetMonth rest
    | r => r

/-- The years. -/
def years (p : Pattern) (tl : Timeline) : Query → List Nat → Scan
  | _, [] => .exhausted
  | q, y :: rest =>
    let (lo, q) := q.monthFrom
    let q := if p.months.contains lo then q else q.resetMonth
    match months p tl y q (p.months.filter (lo ≤ ·)) with
    | (.exhausted, q) => years p tl q rest
    | (r, _) => r

end Scan

namespace Pattern

/-- **The first firing at or after the local reading `start`**, as a UTC second. -/
def firstFrom (p : Pattern) (tl : Timeline) (start : Civil) : Except TimeFault (Option Int) :=
  if start.year < 0 then .ok none
  else
    match Scan.years p tl { start } (p.years.filter fun y => start.year ≤ (y : Int)) with
    | .hit u => .ok (some u)
    | .missingDay => .error .noSuchLocalTime
    | _ => .ok none

/-- **The first firing strictly after `after`**, counting whole seconds: the search starts
at the local reading of the next whole second. Stepping past the end of the time line
aborts. -/
def nextAfter (p : Pattern) (tl : Timeline) (after : Instant) : Except TimeFault (Option Instant) :=
  match after.addSeconds? 1 with
  | none => .error .sumOverflow
  | some next =>
    let wall := next.secs + tl.offsetAt next.secs
    (p.firstFrom tl (Civil.ofSeconds wall)).map (Option.map Instant.ofSeconds)

end Pattern

end JobQueue.Cron
