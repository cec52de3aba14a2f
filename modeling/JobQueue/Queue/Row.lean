import JobQueue.Queue.Action
import JobQueue.Queue.Stamp
import JobQueue.Queue.Error
import JobQueue.Schedule.Encoding

/-!
# Stored rows

An action is stored as a row of columns: its arguments as JSON text in insertion order and
in canonical form (the key that equality lookups match on), its schedule in stored JSON form,
and every instant as a `Stamp`. Reading a row back decodes these columns, one after the
other: the arguments (column 5), the schedule (6), the scheduled time (3), the last attempt
(9), and the creation and update times (11, 12). The first column that does not decode makes
the whole read fail with a conversion error naming that column.

* `Row` — the stored columns; `Row.ofAction` makes the row of a new action.
* `Row.decode` — the stored action a row holds.
-/

namespace JobQueue

/-- **A stored row.** -/
structure Row where
  id : ActionId
  hook : String
  status : Status
  scheduledAt : Stamp
  priority : UInt8
  /-- Arguments as JSON text, in insertion order. -/
  args : String
  /-- Arguments in canonical text, for equality lookups. -/
  argsKey : String
  /-- The schedule in stored JSON form. -/
  schedule : String
  group : String
  attempts : Nat
  lastAttempt : Option Stamp
  claim : Option ClaimId
  createdAt : Stamp
  updatedAt : Stamp

namespace Row

/-- The row of a new pending action due at `due`, stored at `now`. -/
def ofAction (id : ActionId) (a : Action) (due now : Instant) : Row :=
  { id, hook := a.hook, status := .pending, scheduledAt := .ofInstant due,
    priority := a.priority, args := a.args.toJson, argsKey := a.args.canonical,
    schedule := a.schedule.toJson, group := a.group, attempts := 0, lastAttempt := none,
    claim := none, createdAt := .ofInstant now, updatedAt := .ofInstant now }

/-- The failure to decode column `index`. -/
def conversion (index : Nat) (detail : String) : QueueError :=
  QueueError.database (s!"Conversion error from type Text at index: {index}, " ++ detail)

/-- Read a timestamp column. -/
def time (index : Nat) (s : Stamp) : Except QueueError Instant :=
  (s.read).mapError fun e => conversion index e.message

/-- **The stored action a row holds**, decoding its columns in order. -/
def decode (r : Row) : Except QueueError StoredAction := do
  let args ← (Args.ofJson r.args).mapError fun e => conversion 5 e.text
  let schedule ← (Schedule.ofJson r.schedule).mapError fun e => conversion 6 e.text
  let scheduledAt ← time 3 r.scheduledAt
  let lastAttempt ← match r.lastAttempt with
    | some s => some <$> time 9 s
    | none => pure none
  let createdAt ← time 11 r.createdAt
  let updatedAt ← time 12 r.updatedAt
  pure { id := r.id, action := { hook := r.hook, args, schedule, group := r.group,
                                 priority := r.priority },
         status := r.status, claim := r.claim, attempts := r.attempts, scheduledAt,
         lastAttempt, createdAt, updatedAt }

/-- Whether the row's status is one of `ss`. -/
def statusIn (r : Row) (ss : List Status) : Bool := ss.contains r.status

end Row

end JobQueue
