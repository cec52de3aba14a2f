import JobQueue.Store.Locks
import JobQueue.Store.Upkeep

/-!
# Work over the store

Handlers, runners and housekeeping act on a `World`: the store, the current time, and a
journal in which handlers may note what they did. Their steps run in `Work`, which may
*panic*: stop with a message, leaving behind every change made so far. A step that may also
fail with a queue error runs in `Job`.

The clock does not move while work runs: every reading of it gives the world's `clock`.

* `World`, `Work`, `Job` — the state and the two monads of work.
* `Work.store`, `Job.store` — run a store operation, with its error as a value or as a
  failure of the job.
* `Work.ofFault` — panic on a fault of time arithmetic.
-/

namespace JobQueue

/-- A panic: work stopped with a message. -/
structure Panic where
  message : String

/-- One invocation of a handler, as noted in the journal. -/
structure Invocation where
  handler : String
  hook : String
  args : Args

/-- **What work acts on.** -/
structure World where
  store : Store
  /-- The current time. -/
  clock : Instant
  /-- Invocations noted by handlers, oldest first. -/
  journal : List Invocation := []

/-- **Work**: changes the world, may panic. -/
abbrev Work := EStateM Panic World

/-- **A job**: work that may also fail with a queue error. -/
abbrev Job := ExceptT QueueError Work

namespace Work

/-- The current time. -/
def now : Work Instant := do return (← get).clock

/-- Stop with a message. -/
def panic {α : Type} (message : String) : Work α := throw ⟨message⟩

/-- Panic on a fault of time arithmetic. -/
def ofFault {α : Type} : Except TimeFault α → Work α
  | .ok a => pure a
  | .error f => panic f.message

/-- **Run a store operation**; its error comes back as a value. -/
def store {α : Type} (m : StoreM α) : Work (Except QueueError α) := fun w =>
  match m.run w.store with
  | .ok a s => .ok (.ok a) { w with store := s }
  | .error e s => .ok (.error e) { w with store := s }

/-- Note an invocation in the journal. -/
def note (i : Invocation) : Work Unit :=
  modify fun w => { w with journal := w.journal ++ [i] }

/-- Run `w`; if it panics, run `cleanup` and panic again with the same message. -/
def onPanic {α : Type} (w : Work α) (cleanup : Work Unit) : Work α :=
  tryCatch w fun p => do cleanup; throw p

end Work

namespace Job

/-- **Run a store operation** as part of a job. -/
def store {α : Type} (m : StoreM α) : Job α := ExceptT.mk (Work.store m)

/-- Run work that cannot fail with a queue error. -/
def work {α : Type} (w : Work α) : Job α := ExceptT.lift w

/-- Run work whose queue errors come back as values. -/
def attempt {α : Type} (j : Job α) : Work (Except QueueError α) := j.run

end Job

end JobQueue
