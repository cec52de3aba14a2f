import JobQueue.Args
import JobQueue.Schedule.Basic
import JobQueue.Queue.Status

/-!
# Actions

An action is one schedulable unit of work: a hook name, the arguments for its handlers, a
schedule, a group (empty for none) and a priority from 0 to 255, lower running first. Once
stored it gets an id, a status, a claim marker, an attempt count and its timestamps.

A *claim* is a lease over a batch of pending actions, identified by a fresh `ClaimId`; a
runner executes the claimed ids in claim order.

* `Action`, `StoredAction` — the unit of work, before and after storing.
* `ClaimId`, `Claim`, `ClaimFilter` — claims and what they may capture.
* `ActionQuery`, `SortOrder` — listing queries.
-/

namespace JobQueue

/-- Priority of actions enqueued without one. -/
def defaultPriority : UInt8 := 10

/-- **A store-assigned action id.** -/
structure ActionId where
  val : Int
  deriving DecidableEq, Repr, Inhabited

instance : ToString ActionId := ⟨fun i => toString i.val⟩

/-- **An action**: what to run, with what, when, in which group, how urgently. -/
structure Action where
  hook : String
  args : Args
  schedule : Schedule
  group : String := ""
  priority : UInt8 := defaultPriority

namespace Action

/-- Whether the action comes back after each run. -/
def isRecurring (a : Action) : Bool := a.schedule.isRecurring

/-- Actions are equal when their parts are; arguments compare as maps. -/
def beq (a b : Action) : Bool :=
  a.hook == b.hook && a.args == b.args && a.schedule == b.schedule && a.group == b.group &&
    a.priority == b.priority

instance : BEq Action := ⟨beq⟩

end Action

/-- **A claim id**, fresh for every claim. -/
structure ClaimId where
  serial : Nat
  deriving DecidableEq, Repr, Inhabited

/-- **An action as stored**, with its bookkeeping. -/
structure StoredAction where
  id : ActionId
  action : Action
  status : Status
  claim : Option ClaimId
  /-- How many times execution has begun. -/
  attempts : Nat
  scheduledAt : Instant
  /-- The last claim or execution start, whichever came later. -/
  lastAttempt : Option Instant
  createdAt : Instant
  updatedAt : Instant

namespace StoredAction

/-- The hook of the stored action. -/
def hook (s : StoredAction) : String := s.action.hook

/-- Only pending actions may be executed. -/
def isExecutable (s : StoredAction) : Bool := s.status == .pending

/-- Whether the action has reached a final state. -/
def isFinished (s : StoredAction) : Bool := s.status.isFinished

end StoredAction

/-- **A claim**: its id and the claimed action ids in execution order. -/
structure Claim where
  id : ClaimId
  actionIds : List ActionId

/-- **What a claim may capture.** Empty lists match everything. -/
structure ClaimFilter where
  hooks : List String := []
  groups : List String := []
  excludeGroups : List String := []

/-- Listing order by scheduled time, then id. -/
inductive SortOrder where
  | asc
  | desc
  deriving DecidableEq, Repr

/-- **A listing query.** Unset parts do not constrain the result. `limit` and `offset` are
machine words: the database reads them as signed, so a value of 2^63 or more counts as
negative, and a negative limit means none, a negative offset zero. -/
structure ActionQuery where
  hook : Option String := none
  args : Option Args := none
  group : Option String := none
  /-- Any of these statuses; empty matches all. -/
  statuses : List Status := []
  claimed : Option Bool := none
  scheduledBefore : Option Instant := none
  scheduledAfter : Option Instant := none
  order : SortOrder := .asc
  limit : Option Nat := none
  offset : Nat := 0

end JobQueue
