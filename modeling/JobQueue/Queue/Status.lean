/-!
# Action statuses

A stored action is in one of five states. It starts `pending`, the only state from which it
can be claimed and run; running makes it `inProgress`; it ends `complete`, `failed` or
`canceled`, the finished states, which take no further transition but deletion.

* `Status` — the states, written `pending`, `in-progress`, `complete`, `failed`,
  `canceled`.
* `Status.text`, `Status.ofText?` — the written form and its reading.
-/

namespace JobQueue

/-- **The state of a stored action.** -/
inductive Status where
  | pending
  | inProgress
  | complete
  | failed
  | canceled
  deriving DecidableEq, Repr, Inhabited

namespace Status

/-- All states, in the order reports list them. -/
def all : List Status := [.pending, .inProgress, .complete, .failed, .canceled]

/-- The written form of a state. -/
def text : Status → String
  | .pending => "pending"
  | .inProgress => "in-progress"
  | .complete => "complete"
  | .failed => "failed"
  | .canceled => "canceled"

/-- The state a written form names, if any. -/
def ofText? (s : String) : Option Status := all.find? (·.text == s)

/-- Whether the state is final. -/
def isFinished : Status → Bool
  | .complete | .failed | .canceled => true
  | _ => false

theorem ofText?_text (s : Status) : ofText? s.text = some s := by
  cases s <;> rfl

end Status

end JobQueue
