import JobQueue.Hooks
import JobQueue.Config.Basic

/-!
# Running the queue

A runner works the queue in batches. Each batch stakes a claim on due actions and processes
them in claim order, then releases the claim. A run goes on batch after batch until a batch
finds nothing, the time limit passes, or the number of outstanding claims (of all runners
sharing the store) reaches the runner's share of concurrent batches; it reports how many
actions it processed.

**Processing one action.** The action is fetched; if it is no longer pending it is
*skipped*. Otherwise it starts (one more attempt), its hook is dispatched with panics caught
as handler failures, and the result is recorded: complete on success, failed otherwise. If
that record is refused because something else moved the action meanwhile (a handler canceled
it, say), the action was *interrupted* and nothing more happens. A recurring action that ran
gets a *successor*: the same action due at its schedule's next time after both now and its
own slot, unless the failure policy suppresses it because the hook keeps failing. A successor
that cannot be scheduled is left out; the run goes on.

**Panics.** A panic that escapes processing (in the failure policy, or in the schedule's
arithmetic) stops the run. On its way out the execution monitor fails the action being
executed, if any, and releases the claim; failures of either are ignored. Processing records
an action's result before anything that can panic, so no action is being executed then.

**Time.** A run asks whether its time limit has passed after each action and after each batch;
the loops take that test as a parameter. The clock of a world does not move, so the runner's
own test (`deadlinePassed`) passes at once for a limit of zero and never for any other;
`batchLimit` bounds the batches of one run.

* `FailurePolicy` — whether to suppress a successor; `standard`, `exempt`.
* `Outcome`, `ProcessReport` — what processing one action did.
* `Runner.execute`, `Runner.process`, `Runner.run`, `Runner.countDue` — the runner's work.
* `ExecutionMonitor` — what a runner does to its claim when a panic unwinds through it.
-/

namespace JobQueue

/-- **A failure policy**: given whether the hook is consistently failing, whether to
suppress the successor of a recurring action that just ran. -/
abbrev FailurePolicy := Bool → StoredAction → Work Bool

namespace FailurePolicy

/-- Suppress exactly when the hook is consistently failing. -/
def standard : FailurePolicy := fun failing _ => pure failing

/-- Like `standard`, but never for the given hooks. -/
def exempt (hooks : List String) : FailurePolicy := fun failing a =>
  pure (failing && !hooks.contains a.hook)

end FailurePolicy

/-- **Whether a hook is consistently failing**: its latest `threshold` finished runs all
failed. A threshold of zero never counts as failing. -/
def Store.consistentlyFailing (hook : String) (threshold : Nat) : StoreM Bool :=
  if threshold == 0 then pure false
  else do
    let outcomes ← recentOutcomes hook threshold
    pure (outcomes.length == threshold && outcomes.all (· == .failed))

/-- **What processing an action came to.** -/
inductive Outcome where
  | completed
  | failed (e : HandlerError)
  /-- It was not pending, or another runner started it first. -/
  | skipped (status : Status)
  /-- Its result could not be recorded: it had moved to this status meanwhile. -/
  | interrupted (status : Status)

/-- **The report of processing one action.** -/
structure ProcessReport where
  id : ActionId
  outcome : Outcome
  successor : Option ActionId := none

/-- **The execution monitor of a claim**: which action is executing. -/
structure ExecutionMonitor where
  claim : ClaimId
  current : Option ActionId := none

namespace ExecutionMonitor

/-- Mark an action as executing. -/
def track (m : ExecutionMonitor) (id : ActionId) : ExecutionMonitor := { m with current := some id }

/-- Mark that no action is executing. -/
def untrack (m : ExecutionMonitor) : ExecutionMonitor := { m with current := none }

/-- **What a panic unwinding through the monitor does**: fail the executing action, if any,
and release the claim, ignoring failures of either. -/
def unwind (m : ExecutionMonitor) : Work Unit := do
  let now ← Work.now
  if let some id := m.current then
    let _ ← Work.store (Store.markFailure id now)
  let _ ← Work.store (Store.releaseClaim m.claim)

end ExecutionMonitor

/-- **A runner**: its handlers, settings and failure policy. -/
structure Runner where
  registry : Registry
  config : RunnerConfig := {}
  /-- Failures in a row after which a recurring hook counts as failing (0: never). -/
  failureThreshold : Nat := 5
  policy : FailurePolicy := FailurePolicy.standard
  /-- The most batches one run takes. -/
  batchLimit : Nat := 100000

namespace Runner

/-- The successor of a recurring action that ran, if the policy allows one. -/
def successor (r : Runner) (stored : StoredAction) : Job (Option ActionId) := do
  let failing ← Job.store (Store.consistentlyFailing stored.hook r.failureThreshold)
  if ← Job.work (r.policy failing stored) then return none
  let now ← Job.work Work.now
  let ran := (stored.scheduledAt.addSeconds? 1).getD stored.scheduledAt
  match ← Job.work (Work.ofFault (stored.action.schedule.next (some (now.later ran)))) with
  | none => return none
  | some t => some <$> Job.store (Store.saveAt stored.action t now)

/-- Schedule the successor; one that cannot be scheduled is left out. -/
def scheduleSuccessor (r : Runner) (stored : StoredAction) : Work (Option ActionId) := do
  match ← Job.attempt (r.successor stored) with
  | .ok next => pure next
  | .error _ => pure none

/-- **What executing an action came to**: a report that is already final, or the action with
the outcome recorded for it, whose successor is still to be scheduled. -/
inductive Execution where
  /-- Skipped, or interrupted: nothing follows. -/
  | final (report : ProcessReport)
  /-- Its result was recorded. -/
  | recorded (stored : StoredAction) (outcome : Outcome)

/-- **Execute one action**: start it, dispatch its hook, and record the result. -/
def execute (r : Runner) (id : ActionId) : Job Execution := do
  let now ← Job.work Work.now
  let stored ← Job.store (Store.fetch id)
  if stored.status != .pending then return .final { id, outcome := .skipped stored.status }
  match ← Job.work (Work.store (Store.logExecution id now)) with
  | .error (.invalidTransition _ current _) => return .final { id, outcome := .skipped current }
  | .error e => throw e
  | .ok () => pure ()
  let result ← Job.work (r.registry.dispatchGuarded stored.hook stored.action.args)
  let record := match result with
    | .ok () => Store.markComplete id now
    | .error _ => Store.markFailure id now
  match ← Job.work (Work.store record) with
  | .error (.invalidTransition _ current _) => return .final { id, outcome := .interrupted current }
  | .error e => throw e
  | .ok () => pure ()
  return .recorded stored (match result with
    | .ok () => .completed
    | .error e => .failed e)

/-- **Process one action**: execute it, then schedule the successor of a recurring action
whose result was recorded. -/
def process (r : Runner) (id : ActionId) : Job ProcessReport := do
  match ← r.execute id with
  | .final report => return report
  | .recorded stored outcome =>
    let successor ← if stored.action.isRecurring then Job.work (r.scheduleSuccessor stored)
      else pure none
    return { id, outcome, successor }

/-- **Whether the time limit has passed.** The clock of a world does not move, so a limit of
zero has passed as soon as it is asked about, and any other limit never does. -/
def deadlinePassed (r : Runner) (_ : World) : Bool := r.config.timeLimitSecs == 0

/-- Process claimed ids in order, asking `passed` after each whether the time limit has passed;
how many were processed. -/
def processAll (r : Runner) (passed : World → Bool) : List ActionId → Nat → Job Nat
  | [], n => pure n
  | id :: rest, n => do
    let _ ← r.process id
    if passed (← Job.work get) then pure (n + 1) else r.processAll passed rest (n + 1)

/-- Execute a claim under its monitor. -/
def executeClaim (r : Runner) (passed : World → Bool) (c : Claim) : Job Nat :=
  ExceptT.mk (Work.onPanic (r.processAll passed c.actionIds 0).run
    ({ claim := c.id } : ExecutionMonitor).unwind)

/-- **One batch**: claim, execute, release; how many actions it processed. A batch that
fails leaves its claim in place. -/
def runBatch (r : Runner) (passed : World → Bool) : Job Nat := do
  let now ← Job.work Work.now
  let c ← Job.store (Store.stake r.config.batchSize none r.config.filter now)
  if c.actionIds.isEmpty then return 0
  let n ← r.executeClaim passed c
  let _ ← Job.store (Store.releaseClaim c.id)
  return n

/-- Batches until one finds nothing, the time limit passes, the outstanding claims reach the
limit, or the batches run out. -/
def runBatches (r : Runner) (passed : World → Bool) : Nat → Nat → Job Nat
  | 0, done => pure done
  | fuel + 1, done => do
    let outstanding ← Job.store Store.claimCount
    if outstanding ≥ max 1 r.config.concurrentBatches then return done
    let n ← r.runBatch passed
    if n == 0 then return done
    if passed (← Job.work get) then return done + n
    r.runBatches passed fuel (done + n)

/-- **Run the queue**: batch after batch; how many actions were processed. -/
def run (r : Runner) : Job Nat := r.runBatches r.deadlinePassed r.batchLimit 0

/-- **How many actions the runner could claim now.** -/
def countDue (r : Runner) : Job Nat := do
  let now ← Job.work Work.now
  Job.store (Store.countDue none r.config.filter now)

end Runner

end JobQueue
