import JobQueue.Work

/-!
# Enqueueing and unscheduling

The queue's front door: put work on the queue to run now, once at a time, every so many
seconds, or by a cron expression; ask when a hook runs next; take queued work off again.
Cron expressions given without a time zone use the queue's zone.

Enqueueing may ask for *unique* work: then nothing is enqueued (and no id returned) while an
action with the same hook, arguments and group is pending or in progress.

* `ActionQueue` — the queue's time zone; `enqueue` and its forms `enqueueAsync`,
  `scheduleSingle`, `scheduleRecurring`, `scheduleCron`.
* `ActionQueue.nextScheduled`, `hasScheduled` — what is queued for a hook.
* `ActionQueue.unschedule`, `unscheduleAll` — cancel queued work.
-/

namespace JobQueue

/-- How to enqueue: group, priority, and whether to skip work already queued. -/
structure EnqueueOptions where
  group : String := ""
  priority : UInt8 := defaultPriority
  unique : Bool := false

/-- **When a hook runs next.** -/
inductive NextRun where
  /-- A pending action is due then. -/
  | due (t : Instant)
  /-- Nothing is pending, but an action is executing. -/
  | running
  | notScheduled

/-- **A queue front**: the time zone for cron expressions given without one. -/
structure ActionQueue where
  zone : Zone

namespace ActionQueue

/-- A queue in the named zone. -/
def ofZoneName (name : String) : Except QueueError ActionQueue :=
  match Zone.find? name with
  | some z => .ok ⟨z⟩
  | none => .error (.invalidSchedule s!"unknown timezone '{name}'")

/-- Save an action for the queue, at once or unless equal work is queued. -/
def saveAction (a : Action) (unique : Bool) : Job (Option ActionId) := do
  let now ← Job.work Work.now
  if unique then
    let save ← Job.work (Work.ofFault (Store.saveUnique a now))
    Job.store save
  else
    let save ← Job.work (Work.ofFault (Store.save a now))
    some <$> Job.store save

/-- **Enqueue** a hook with arguments on a schedule. -/
def enqueue (hook : String) (args : Args) (schedule : Schedule) (o : EnqueueOptions) :
    Job (Option ActionId) :=
  saveAction { hook, args, schedule, group := o.group, priority := o.priority } o.unique

/-- Enqueue to run as soon as possible. -/
def enqueueAsync (hook : String) (args : Args) (o : EnqueueOptions) : Job (Option ActionId) :=
  enqueue hook args .immediate o

/-- Enqueue to run once at `t`. -/
def scheduleSingle (t : Instant) (hook : String) (args : Args) (o : EnqueueOptions) :
    Job (Option ActionId) :=
  enqueue hook args (.once t) o

/-- Enqueue to run every `every` seconds from `first`. -/
def scheduleRecurring (first : Instant) (every : Int) (hook : String) (args : Args)
    (o : EnqueueOptions) : Job (Option ActionId) :=
  match Schedule.interval? first every with
  | .ok s => enqueue hook args s o
  | .error e => throw (.invalidSchedule e.message)

/-- Enqueue by a cron expression from `first`, in `zoneName` or else the queue's zone. -/
def scheduleCron (q : ActionQueue) (first : Instant) (expression : String)
    (zoneName : Option String) (hook : String) (args : Args) (o : EnqueueOptions) :
    Job (Option ActionId) :=
  let spec := match zoneName with
    | some z => CronSpec.make expression z
    | none => CronSpec.withZone expression q.zone
  match spec with
  | .ok c => enqueue hook args (.cron first c) o
  | .error e => throw (.invalidSchedule e.message)

/-- **When a hook runs next**, for the given arguments and group. -/
def nextScheduled (hook : String) (args : Option Args) (group : Option String) :
    Job NextRun := do
  let pending ← Job.store (Store.find hook { args, status := some .pending, group })
  match pending with
  | some id => return .due (← Job.store (Store.date id))
  | none =>
    let running ← Job.store (Store.find hook { args, status := some .inProgress, group })
    return if running.isSome then .running else .notScheduled

/-- **Whether a hook has work queued**, pending or in progress. -/
def hasScheduled (hook : String) (args : Option Args) (group : Option String) : Job Bool := do
  let n ← Job.store (Store.count
    { hook := some hook, args, group, statuses := [.pending, .inProgress] })
  return n > 0

/-- **Cancel a hook's next pending action**; its id, if there was one. -/
def unschedule (hook : String) (args : Option Args) (group : Option String) :
    Job (Option ActionId) := do
  let now ← Job.work Work.now
  match ← Job.store (Store.find hook { args, status := some .pending, group }) with
  | none => return none
  | some id =>
    Job.store (Store.cancel id now)
    return some id

/-- **Cancel all of a hook's pending actions**; how many. -/
def unscheduleAll (hook : String) (args : Option Args) (group : Option String) : Job Nat := do
  let now ← Job.work Work.now
  Job.store (Store.cancelPending (some hook) args group now)

end ActionQueue

end JobQueue
