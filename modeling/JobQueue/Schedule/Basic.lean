import JobQueue.Cron.Spec
import JobQueue.Decimal.Reading
import JobQueue.Decimal.Layout

/-!
# Schedules

A schedule says when an action runs and whether it comes back:

* `immediate` — due as soon as it is stored, once;
* `once t` — due at `t`, once;
* `interval start p` — due at `start`, then at every `p` seconds after it;
* `cron start c` — due at each firing of the cron expression `c` from `start` on.

`Schedule.next` answers the run after a given instant, or the first run when none is given.
Interval runs land on the grid `start + k·p`: the next run after `a ≥ start` is the first
grid point past the whole seconds elapsed. A grid point too far out for a duration (more than
`9223372036854775` seconds) or past the time line is no run at all. Cron runs count `start`
itself: the search begins one second before `start`, cut to the whole second, or after `a`
when that is later.

* `Period` — a positive number of seconds that fits an unsigned 64-bit word.
* `ScheduleError` — why a schedule could not be built, with its wording.
* `Schedule.interval?`, `Schedule.intervalOfBits`, `Schedule.intervalOfFloat`,
  `Schedule.intervalOfText`, `Schedule.cron?` — the checked constructors.
* `Schedule.cronOrigin`, `Schedule.cronNext` — where a cron search begins, and a cron run
  given the search.
* `Schedule.next`, `Schedule.firstRun` — the runs.
-/

namespace JobQueue

/-- **A period of whole seconds**, positive and below `2^64`. -/
structure Period where
  secs : Nat
  pos : 0 < secs
  small : secs < 18446744073709551616

/-- **When an action runs.** -/
inductive Schedule where
  /-- Due when stored, once. -/
  | immediate
  /-- Due at one instant, once. -/
  | once (moment : Instant)
  /-- Due at `start` and every `period` seconds after it. -/
  | interval (start : Instant) (period : Period)
  /-- Due at each firing of `spec` from `start` on. -/
  | cron (start : Instant) (spec : CronSpec)

/-- **Why a schedule could not be built.** -/
inductive ScheduleError where
  /-- An interval of zero or fewer seconds. -/
  | notPositive (n : Int)
  /-- An interval given as a double that is not a whole number within range. -/
  | notWhole (x : Float)
  /-- An interval text that is no number at all. -/
  | notNumber (text : String)
  /-- A cron expression or zone that was refused. -/
  | cron (e : Cron.SpecError)

/-- The wording of each cause. -/
def ScheduleError.message : ScheduleError → String
  | .notPositive n => s!"interval must be a positive number of seconds, got {n}"
  | .notWhole x =>
    "interval must be a whole number of seconds, got " ++ Decimal.Layout.plain.render x
  | .notNumber text => s!"interval is not a number: '{text}'"
  | .cron e => e.message

/-- The most whole seconds a duration holds. -/
def maxDurationSecs : Int := 9223372036854775

namespace Schedule

/-- **An interval schedule** from a signed count of seconds, which must be positive. -/
def interval? (start : Instant) (n : Int) : Except ScheduleError Schedule :=
  if h : 0 < n ∧ n < 18446744073709551616 then .ok (.interval start ⟨n.toNat, by omega, by omega⟩)
  else .error (.notPositive n)

/-- **An interval schedule from the bits of a double**: it must be a whole number no larger
than `2^63`; values beyond the signed 64-bit range are brought to its nearest end. -/
def intervalOfBits (start : Instant) (bits : UInt64) : Except ScheduleError Schedule :=
  match Decimal.Binary.wholeBits? bits with
  | some v =>
    if v > 9223372036854775808 then .error (.notWhole (Float.ofBits bits))
    else interval? start (max wordMin (min wordMax v))
  | none => .error (.notWhole (Float.ofBits bits))

/-- **An interval schedule from a double.** -/
def intervalOfFloat (start : Instant) (x : Float) : Except ScheduleError Schedule :=
  intervalOfBits start x.toBits

/-- **An interval schedule from text**: blanks around it are dropped, then it is read as a
signed 64-bit numeral, failing that as a double. -/
def intervalOfText (start : Instant) (text : String) : Except ScheduleError Schedule :=
  let trimmed := Text.trimBlank text
  match parseInteger trimmed wordMin wordMax with
  | .ok n => interval? start n
  | .error _ =>
    match Decimal.parseBits? trimmed with
    | some bits => intervalOfBits start bits
    | none => .error (.notNumber trimmed)

/-- **A cron schedule** from an expression and a zone name. -/
def cron? (start : Instant) (expression zoneName : String) : Except ScheduleError Schedule :=
  match CronSpec.make expression zoneName with
  | .ok spec => .ok (.cron start spec)
  | .error e => .error (.cron e)

/-- Whether the schedule comes back after a run. -/
def isRecurring : Schedule → Bool
  | .interval .. | .cron .. => true
  | _ => false

/-- The first grid point `start + k·every` past `after ≥ start`, if it can be reached: `k`
is one more than the whole seconds elapsed from `start` to `after` divided by `every`, which
across a leap second may land on `after` itself. -/
def gridAfter (start : Instant) (every : Nat) (after : Instant) : Option Instant :=
  if every ≥ 9223372036854775808 then none
  else
    let elapsed := Instant.wholeSeconds (after.since start)
    let offset := (elapsed.tdiv every + 1) * every
    if offset > maxDurationSecs then none else start.addSeconds? offset

/-- Where a cron search begins: one second before `start`, cut to the whole second, so that a
firing at `start` itself counts, or `after` when that is later. `none` when the second before
is off the time line. -/
def cronOrigin (start : Instant) (after : Option Instant) : Option Instant :=
  (start.truncSeconds.addSeconds? (-1)).map fun floor =>
    match after with
    | some a => if floor < a then a else floor
    | none => floor

/-- **A cron run**, given the search for the first firing strictly after an instant: the
search from the origin, or an overflow when there is no origin. -/
def cronNext (search : Instant → Except TimeFault (Option Instant)) (start : Instant)
    (after : Option Instant) : Except TimeFault (Option Instant) :=
  match cronOrigin start after with
  | none => .error .differenceOverflow
  | some origin => search origin

/-- **The run after `after`**, or the first run when `after` is absent; `none` when there is
none. A cron search may abort. -/
def next (s : Schedule) (after : Option Instant) : Except TimeFault (Option Instant) :=
  match s, after with
  | .immediate, _ => .ok none
  | .once t, none => .ok (some t)
  | .once t, some a => .ok (if a < t then some t else none)
  | .interval start _, none => .ok (some start)
  | .interval start p, some a => .ok (if start ≤ a then gridAfter start p.secs a else some start)
  | .cron start spec, after => cronNext spec.nextAfter start after

/-- **The first run**: none for an immediate schedule, which is due when stored. -/
def firstRun (s : Schedule) : Except TimeFault (Option Instant) :=
  match s with
  | .immediate => .ok none
  | _ => s.next none

/-- Schedules are equal when they are of one kind with equal parts; instants compare as
instants, cron expressions by text and zone name. -/
def beq : Schedule → Schedule → Bool
  | .immediate, .immediate => true
  | .once a, .once b => a == b
  | .interval s p, .interval t q => s == t && p.secs == q.secs
  | .cron s c, .cron t d => s == t && c == d
  | _, _ => false

instance : BEq Schedule := ⟨beq⟩

end Schedule

end JobQueue
