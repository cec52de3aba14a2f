import JobQueue.Queue.Status

/-!
# Queue errors

Every failure of a queue operation has a cause and a stable code:

| cause | code |
|---|---|
| the database refused or failed | `DATABASE_ERROR` |
| a stored column could not be decoded | `SERIALIZATION_ERROR` |
| an interval, cron expression or zone was refused | `INVALID_SCHEDULE` |
| no action with the id exists | `ACTION_NOT_FOUND` |
| the action exists but may not make the change | `INVALID_TRANSITION` |
| the request itself is malformed | `INVALID_ACTION` |

* `QueueError` — the causes, with `QueueError.code` and `QueueError.message`.
-/

namespace JobQueue

/-- **Why a queue operation failed.** -/
inductive QueueError where
  | database (detail : String)
  | serialization (detail : String)
  | invalidSchedule (detail : String)
  | actionNotFound (id : Int)
  | invalidTransition (id : Int) (source target : Status)
  | invalidAction (detail : String)
  deriving DecidableEq, Repr

namespace QueueError

/-- The stable code of each cause. -/
def code : QueueError → String
  | .database _ => "DATABASE_ERROR"
  | .serialization _ => "SERIALIZATION_ERROR"
  | .invalidSchedule _ => "INVALID_SCHEDULE"
  | .actionNotFound _ => "ACTION_NOT_FOUND"
  | .invalidTransition .. => "INVALID_TRANSITION"
  | .invalidAction _ => "INVALID_ACTION"

/-- The wording of each cause. -/
def message : QueueError → String
  | .database d => "Database error: " ++ d
  | .serialization d => "Serialization error: " ++ d
  | .invalidSchedule d => "Invalid schedule: " ++ d
  | .actionNotFound id => s!"Action not found: {id}"
  | .invalidTransition id source target =>
    s!"Action {id} cannot move from " ++ source.text ++ " to " ++ target.text
  | .invalidAction d => "Invalid action: " ++ d

end QueueError

end JobQueue
