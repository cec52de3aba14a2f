import JobQueue.Cron.Search
import JobQueue.Time.Zone.Catalog
import JobQueue.Text.Blank
import JobQueue.Text.Numeral

/-!
# Five-field cron expressions in a zone

The expressions users write have five fields, `minute hour day-of-month month day-of-week`,
or are one of the `@` shorthands. Such an expression is read as a seven-field pattern
(`Pattern`) whose second is 0 and whose day-of-week field is spelled out as day names:

* in the day-of-week field, days are numbers 0 to 7 (both 0 and 7 are Sunday) or the names
  `SUN` … `SAT` in any case; a part is `*`, a day, or a range `a-b`, each optionally followed
  by `/k` with `k > 0`; a single day with a step greater than one runs up to 7;
* `*` and `?` stay as they are; every other field is handed over unchanged.

An expression keeps its text without surrounding blanks, and two expressions are the same
when their texts and zone names are.

* `SpecError` — why an expression was refused, with `SpecError.message`.
* `weekdayField`, `sixFields` — the day-of-week rewriting and the seven-field text.
* `CronSpec` — an expression bound to a zone; `CronSpec.make` and `CronSpec.nextAfter`.
-/

namespace JobQueue.Cron

/-- **Why a cron expression was refused.** -/
inductive SpecError where
  | unknownZone (name : String)
  | fieldCount (text : String) (found : Nat)
  | badWeekday (token : String)
  | badPattern (expression : String)
  deriving DecidableEq, Repr

/-- The wording of each refusal. -/
def SpecError.message : SpecError → String
  | .unknownZone name => s!"unknown timezone '{name}'"
  | .fieldCount text found => s!"cron expression '{text}' must have 5 fields, found {found}"
  | .badWeekday token => s!"invalid day-of-week '{token}'"
  | .badPattern expression =>
    s!"invalid cron expression '{expression}': Invalid expression: Invalid cron expression."

/-- Day names, Sunday first. -/
def dayNames : List String := ["SUN", "MON", "TUE", "WED", "THU", "FRI", "SAT"]

/-- ASCII letters in lower case, everything else unchanged. -/
def asciiLower (s : String) : String := String.ofList (s.toList.map Char.toLower)

/-- The text before and after the first `c`, if there is one. -/
def splitOnce (s : String) (c : Char) : Option (String × String) :=
  let cs := s.toList
  if cs.contains c then
    some (String.ofList (cs.takeWhile (· ≠ c)), String.ofList ((cs.dropWhile (· ≠ c)).drop 1))
  else none

/-- A day as a number 0–7, from a numeral or a day name. -/
def dayNumber (token : String) : Except SpecError Nat :=
  match parseNatural? token wordBound with
  | some n => if n ≤ 7 then .ok n else .error (.badWeekday token)
  | none =>
    match dayNames.findIdx? (fun name => asciiLower name == asciiLower token) with
    | some i => .ok i
    | none => .error (.badWeekday token)

/-- The range text of a part and its step, 1 when none is written. -/
def partStep (part : String) : Except SpecError (String × Nat) :=
  match splitOnce part '/' with
  | some (range, step) =>
    match parseNatural? step wordBound with
    | some k => if k > 0 then pure (range, k) else throw (.badWeekday part)
    | none => throw (.badWeekday part)
  | none => pure (part, 1)

/-- The first and last day of a range; a single day with a step greater than one runs to 7. -/
def rangeBounds (range : String) (step : Nat) : Except SpecError (Nat × Nat) :=
  if range == "*" then pure (0, 6)
  else match splitOnce range '-' with
    | some (a, b) => do
      let lo ← dayNumber a
      let hi ← dayNumber b
      pure (lo, hi)
    | none => do
      let d ← dayNumber range
      pure (d, if step > 1 then 7 else d)

/-- The days, as numbers 0–7, of one comma-separated part of a day-of-week field. -/
def partDays (part : String) : Except SpecError (List Nat) := do
  let (range, step) ← partStep part
  let (lo, hi) ← rangeBounds range step
  if lo > hi then throw (.badWeekday part)
  pure (Field.everyNth step (List.range' lo (hi + 1 - lo)))

/-- **The day-of-week field spelled out**: the names of the days it selects, Sunday first. -/
def weekdayField (field : String) : Except SpecError String :=
  if field == "*" || field == "?" then .ok field
  else do
    let days ← (field.splitOn ",").mapM partDays
    let marked := days.flatten.map (· % 7)
    pure (String.intercalate "," (((List.range 7).filter marked.contains).map
      fun i => dayNames.getD i ""))

/-- **The seven-field text of an expression**; shorthands pass unchanged. -/
def sixFields (expression : String) : Except SpecError String :=
  let trimmed := Text.trimBlank expression
  if trimmed.startsWith "@" then .ok trimmed
  else
    match Text.splitBlank trimmed with
    | [minute, hour, day, month, weekday] => do
      let w ← weekdayField weekday
      pure s!"0 {minute} {hour} {day} {month} {w}"
    | fields => .error (.fieldCount trimmed fields.length)

end JobQueue.Cron

namespace JobQueue

/-- **A cron expression bound to a zone**: the trimmed text, the zone, its timeline, and the
pattern the text stands for. -/
structure CronSpec where
  expression : String
  zone : Zone
  timeline : Timeline
  pattern : Cron.Pattern

namespace CronSpec

/-- An expression in a given zone. -/
def withZone (expression : String) (zone : Zone) : Except Cron.SpecError CronSpec := do
  let six ← Cron.sixFields expression
  match Cron.Pattern.parse? six with
  | some p => pure ⟨Text.trimBlank expression, zone, zone.timeline, p⟩
  | none => throw (.badPattern expression)

/-- **An expression in the zone of a name**; the zone is looked up first. -/
def make (expression zoneName : String) : Except Cron.SpecError CronSpec :=
  match Zone.find? zoneName with
  | some z => withZone expression z
  | none => .error (.unknownZone zoneName)

/-- The name of the zone. -/
def zoneName (c : CronSpec) : String := c.zone.name

/-- **The first firing strictly after `after`**, to the whole second. -/
def nextAfter (c : CronSpec) (after : Instant) : Except TimeFault (Option Instant) :=
  c.pattern.nextAfter c.timeline after

/-- Expressions are the same when their texts and zone names are. -/
instance : BEq CronSpec := ⟨fun a b => a.expression == b.expression && a.zoneName == b.zoneName⟩

end CronSpec

end JobQueue
