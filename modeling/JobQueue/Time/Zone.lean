import JobQueue.Time.Instant

/-!
# Time zones

A zone is a history of offsets from UTC: an initial offset, a list of recorded transitions,
and for most zones a recurring daylight-saving rule that takes over after the last recorded
transition. The rule is applied year by year up to and including 2099; after the last
transition of 2099 the offset then in force holds for good.

Local (wall-clock) times map back to UTC through the zone's *spans*: span `s` holds offset
`o_s` on the UTC interval `[T_(s-1), T_s)` and so covers the local interval
`[T_(s-1) + o_s, T_s + o_s)`. A local time in no span fell into a gap when clocks moved
forward; one in two spans is ambiguous, repeated when clocks moved back.

* `Switch`, `Recurrence` — the recurring rule, in the usual "the n-th weekday of a month"
  form.
* `Zone.timeline` — all transitions as an array, history and rule together.
* `Timeline.offsetAt` — the offset in force at a UTC second.
* `Timeline.resolve` — the UTC readings of a local second: none, one, or two.
-/

namespace JobQueue

/-- **A yearly switch**: the `week`-th `weekday` (Sunday is 0) of `month`, where week 5 means
the last one, at `time` seconds after local midnight as the clocks showed before it. -/
structure Switch where
  month : Nat
  week : Nat
  weekday : Nat
  time : Int
  deriving Repr

/-- **A recurring daylight-saving rule**: standard and daylight offsets, and the two yearly
switches between them. -/
structure Recurrence where
  standard : Int
  daylight : Int
  toDaylight : Switch
  toStandard : Switch
  deriving Repr

/-- Last year in which a recurring rule still switches. -/
def lastRuleYear : Int := 2099

namespace Switch

/-- The day of the month on which the switch falls in year `y`. -/
def day (w : Switch) (y : Int) : Nat :=
  let firstWeekday := weekdayOfDays (daysFromCivil y w.month 1)
  let first := 1 + (w.weekday + 7 - firstWeekday) % 7
  let candidate := first + (w.week - 1) * 7
  let dim := daysInMonth y w.month
  if w.week ≥ 5 && candidate > dim then candidate - 7 else candidate

/-- The UTC second of the switch in year `y`, when the offset before it is `before`. -/
def instant (w : Switch) (y : Int) (before : Int) : Int :=
  daysFromCivil y w.month (w.day y) * 86400 + w.time - before

end Switch

/-- The two transitions of year `y`, in time order: into daylight time and back. -/
def Recurrence.transitionsIn (r : Recurrence) (y : Int) : List (Int × Int) :=
  let a := (r.toDaylight.instant y r.standard, r.daylight)
  let b := (r.toStandard.instant y r.daylight, r.standard)
  if a.1 ≤ b.1 then [a, b] else [b, a]

/-- **A zone**: its name as given, its initial offset, the recorded transitions (UTC second,
offset from then on) in increasing order, and the rule that follows them, if any. -/
structure Zone where
  name : String
  initial : Int
  history : List (Int × Int)
  rule : Option Recurrence
  deriving Repr

/-- Drop transitions that do not change the offset in force. -/
def collapse (current : Int) : List (Int × Int) → List (Int × Int)
  | [] => []
  | (t, o) :: rest =>
    if o == current then collapse current rest else (t, o) :: collapse o rest

/-- All transitions of a zone, in a form fit for searching. -/
structure Timeline where
  initial : Int
  transitions : Array (Int × Int)

namespace Zone

/-- The offset in force after the recorded history. -/
def lastOffset (z : Zone) : Int := (z.history.getLast?.map Prod.snd).getD z.initial

/-- **All transitions**: the history, then the rule's transitions after it up to the end of
2099, leaving out those that change nothing. -/
def timeline (z : Zone) : Timeline :=
  let fromRule := match z.rule, z.history.getLast? with
    | some r, some (last, _) =>
      let startYear := (Civil.ofSeconds last).year
      let years := (List.range (lastRuleYear - startYear + 1).toNat).map
        fun (i : Nat) => startYear + Int.ofNat i
      let all := years.flatMap r.transitionsIn
      collapse z.lastOffset (all.filter fun p => p.1 > last)
    | _, _ => []
  ⟨z.initial, (z.history ++ fromRule).toArray⟩

end Zone

/-- The result of reading a local time in a zone. -/
inductive LocalResult where
  /-- The local time was skipped. -/
  | none
  /-- The local time happened once, at this UTC second. -/
  | single (utc : Int)
  /-- The local time happened twice. -/
  | ambiguous (first second : Int)
  deriving DecidableEq, Repr

namespace Timeline

/-- Number of transitions at or before UTC second `t`: binary search on the sorted array. -/
def countUpTo (tl : Timeline) (t : Int) : Nat :=
  go 0 tl.transitions.size
where
  go (lo hi : Nat) : Nat :=
    if _h : lo < hi then
      let mid := (lo + hi) / 2
      match tl.transitions[mid]? with
      | some (tm, _) => if tm ≤ t then go (mid + 1) hi else go lo mid
      | none => lo
    else lo
  termination_by hi - lo

/-- The offset of span `s`: the initial offset, then each transition's. -/
def spanOffset (tl : Timeline) (s : Nat) : Int :=
  if s == 0 then tl.initial else ((tl.transitions[s - 1]?.map Prod.snd).getD tl.initial)

/-- **The offset in force at UTC second `t`.** -/
def offsetAt (tl : Timeline) (t : Int) : Int := tl.spanOffset (tl.countUpTo t)

/-- Whether local second `w` lies in span `s`. -/
def inSpan (tl : Timeline) (w : Int) (s : Nat) : Bool :=
  let o := tl.spanOffset s
  let startsBefore := if s == 0 then true
    else match tl.transitions[s - 1]? with
      | some (t, _) => t + o ≤ w
      | none => true
  let endsAfter := match tl.transitions[s]? with
    | some (t, _) => w < t + o
    | none => true
  startsBefore && endsAfter

/-- **The UTC readings of local second `w`.** Offsets stay under a day, so only spans near
`w` can hold it: from the first transition after `w - 1 day` to the last before
`w + 1 day`. -/
def resolve (tl : Timeline) (w : Int) : LocalResult :=
  let lo := tl.countUpTo (w - 86400)
  let hi := tl.countUpTo (w + 86400)
  let spans := (List.range (hi + 1 - lo)).map (· + lo)
  match (spans.filter (tl.inSpan w)).map fun s => w - tl.spanOffset s with
  | [] => .none
  | [u] => .single u
  | u :: v :: _ => .ambiguous u v

/-- Whether a local calendar date happened at all: its first or its last second can be read. -/
def dateExists (tl : Timeline) (y : Int) (m d : Nat) : Bool :=
  let midnight := daysFromCivil y m d * 86400
  tl.resolve midnight != .none || tl.resolve (midnight + 86399) != .none

end Timeline

end JobQueue
