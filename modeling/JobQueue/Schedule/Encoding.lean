import JobQueue.Schedule.Basic
import JobQueue.Json.Tagged
import JobQueue.Json.Writer
import JobQueue.Time.Rfc3339

/-!
# Schedules as JSON

A schedule is stored as a tagged JSON object whose tag `kind` names the variant:

* `{"kind":"null"}`
* `{"kind":"single","at":T}`
* `{"kind":"interval","start":T,"every_secs":N}`
* `{"kind":"cron","start":T,"cron":{"expression":E,"timezone":Z}}`

where `T` is an RFC 3339 timestamp and `N` a positive whole number below `2^64`.

**Reading** takes the tagged document first (see `Json.Reader.tagged`), then the variant's
fields from the rest, then checks that nothing but blanks follows. The fields:

* are looked up by name; other members are ignored, and the null variant ignores all;
* are read in the order they appear, so the first bad one is reported, and a repeated field is
  reported when it is met again;
* are reported missing in declaration order once all members have been seen;
* may also come as an array, in declaration order, which must then have exactly as many
  elements (the zone of a cron expression may be left out and is then `UTC`).

A cron expression and its zone are checked as when built directly, and their refusal is
reported in the words of a refused schedule.

* `Schedule.toValue`, `Schedule.toJson` — the stored form.
* `Schedule.ofJson` — read the stored form.
-/

namespace JobQueue

namespace Schedule

open Json in
/-- **The stored form of a schedule** as a JSON value. -/
def toValue : Schedule → Value
  | .immediate => .object [("kind", .string "null")]
  | .once t => .object [("kind", .string "single"), ("at", .string t.text)]
  | .interval start p =>
    .object [("kind", .string "interval"), ("start", .string start.text),
      ("every_secs", .number (.natural p.secs))]
  | .cron start spec =>
    .object [("kind", .string "cron"), ("start", .string start.text),
      ("cron", .object [("expression", .string spec.expression),
        ("timezone", .string spec.zoneName)])]

/-- **The stored text of a schedule.** -/
def toJson (s : Schedule) : String := s.toValue.compact

/-- The names of the variants, as the tag writes them. -/
def variantNames : List String := ["null", "single", "interval", "cron"]

end Schedule

namespace ScheduleField

open Json

/-- An instant field: an RFC 3339 string. -/
def instant (v : Value) : Except Error Instant :=
  match v with
  | .string s =>
    match Instant.parse s with
    | .ok t => .ok t
    | .error e => .error (Mismatch.custom e.message).error
  | v => .error (Mismatch.invalidType v.unexpected
      "an RFC 3339 formatted date and time string").error

/-- A period field: a positive whole number below `2^64`. -/
def period (v : Value) : Except Error Period :=
  match v with
  | .number (.natural n) =>
    if h : 0 < n ∧ n < 18446744073709551616 then .ok ⟨n, h.1, h.2⟩
    else .error (Mismatch.invalidValue (Number.natural n).unexpected "a nonzero u64").error
  | .number (.negative n) =>
    .error (Mismatch.invalidValue (Number.negative n).unexpected "a nonzero u64").error
  | v => .error (Mismatch.invalidType v.unexpected "a nonzero u64").error

/-- A text field. -/
def text (v : Value) : Except Error String :=
  match v with
  | .string s => .ok s
  | v => .error (Mismatch.invalidType v.unexpected "a string").error

/-- The named fields of an object, checked in the order they appear: the first value to fail
its check, or a field met twice, is reported. -/
def collect (check : String → Value → Except Error Unit) (names : List String) :
    List (String × Value) → List (String × Value) → Except Error (List (String × Value))
  | [], found => .ok found
  | (k, v) :: rest, found =>
    if names.contains k then
      if found.any (·.1 == k) then .error (Mismatch.duplicateField k).error
      else do
        check k v
        collect check names rest (found ++ [(k, v)])
    else collect check names rest found

/-- The value of a field that was found, or the report that it is missing. -/
def require (found : List (String × Value)) (name : String) : Except Error Value :=
  match found.lookup name with
  | some v => .ok v
  | none => .error (Mismatch.missingField name).error

/-- An array of fields: exactly `count` elements, the first `needed` of them required. -/
def positional (expecting : String) (count needed : Nat) (items : List Value) :
    Except Error (List Value) :=
  if items.length < needed then
    let plural := if count == 1 then "" else "s"
    .error (Mismatch.invalidLength items.length
      s!"{expecting} with {count} element{plural}").error
  else if items.length > count then
    .error (Mismatch.invalidLength items.length (elementsInSequence count)).error
  else .ok items

/-- The two fields of a cron expression, as an object or an array. -/
def cronParts (v : Value) : Except Error (String × String) :=
  let expecting := "struct RawCronSpec"
  match v with
  | .object ms => do
    let found ← collect (fun _ v => (text v).map fun _ => ()) ["expression", "timezone"] ms []
    let expression ← text (← require found "expression")
    let zone ← match found.lookup "timezone" with
      | some z => text z
      | none => pure "UTC"
    pure (expression, zone)
  | .array items =>
    match items with
    | [] => .error (Mismatch.invalidLength 0 (expecting ++ " with 2 elements")).error
    | e :: rest => do
      let expression ← text e
      match rest with
      | [] => pure (expression, "UTC")
      | z :: more =>
        let zone ← text z
        if more.isEmpty then pure (expression, zone)
        else .error (Mismatch.invalidLength items.length (elementsInSequence 2)).error
  | v => .error (Mismatch.invalidType v.unexpected expecting).error

/-- A cron field: an expression and its zone, checked as when built directly. -/
def cronSpec (v : Value) : Except Error CronSpec := do
  let (expression, zone) ← cronParts v
  match CronSpec.make expression zone with
  | .ok spec => .ok spec
  | .error e => .error (Mismatch.custom ("Invalid schedule: " ++ e.message)).error

end ScheduleField

namespace Schedule

open Json ScheduleField

/-- Check one field of a variant by its name. -/
def checkField (name : String) (v : Value) : Except Error Unit :=
  match name with
  | "at" | "start" => (instant v).map fun _ => ()
  | "every_secs" => (period v).map fun _ => ()
  | "cron" => (cronSpec v).map fun _ => ()
  | _ => .ok ()

/-- A variant's fields, by name from an object or by position from an array. -/
def fieldValues (variant : String) (names : List String) (body : TaggedBody) :
    Except Error (List Value) :=
  match body with
  | .members ms => do
    let found ← collect checkField names ms []
    names.mapM (require found)
  | .elements items => do
    let expecting := "struct variant Schedule::" ++ variant
    -- each element is checked before the next is looked at
    let checked ← (names.zip items).mapM fun (n, v) => do checkField n v; pure v
    let _ ← positional expecting names.length names.length items
    pure checked

/-- **A schedule from its variant name and the rest of its stored form.** -/
def ofBody (tag : String) (body : TaggedBody) : Except Error Schedule :=
  match tag with
  | "single" => do
    match ← fieldValues "Single" ["at"] body with
    | [moment] => pure (.once (← instant moment))
    | _ => .error (Mismatch.missingField "at").error
  | "interval" => do
    match ← fieldValues "Interval" ["start", "every_secs"] body with
    | [s, e] => pure (.interval (← instant s) (← period e))
    | _ => .error (Mismatch.missingField "start").error
  | "cron" => do
    match ← fieldValues "Cron" ["start", "cron"] body with
    | [s, c] => pure (.cron (← instant s) (← cronSpec c))
    | _ => .error (Mismatch.missingField "start").error
  | _ =>
    match body with
    | .elements items =>
      if items.isEmpty then .ok .immediate
      else .error (Mismatch.invalidLength items.length (elementsInSequence 0)).error
    | .members _ => .ok .immediate

/-- **Read a stored schedule.** -/
def ofJson (text : String) : Except Error Schedule := do
  let ((tag, body), c) ← Reader.tagged "kind" variantNames "internally tagged enum Schedule" text
  let s ← ofBody tag body
  Reader.finish c
  pure s

end Schedule

end JobQueue
