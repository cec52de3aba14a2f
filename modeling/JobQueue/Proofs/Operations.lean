import JobQueue.Proofs.Lifecycle
import JobQueue.Proofs.Stepwise
import JobQueue.Runner
import JobQueue.Queue.Enqueue
import JobQueue.Worker.Session

/-!
# Every public operation moves statuses forward

The public operations of the queue come in four layers: the store's API, the queue front
(enqueueing and unscheduling), the runner (processing actions, batch after batch) and the
housekeeper. `Operation` lists them with their arguments and `Operation.perform` runs one
against a world. Every one of them acts on the table only by atomic statements
(`Operation.stepwise`), so what `Stmt.shape` says of one statement holds of any sequence of
operations: an action's status moves only from pending, to in progress or to a finished
status, and from in progress to a finished status; no action goes back to pending, a finished
one keeps its status until it is deleted, and a deleted one never comes back.

A runner runs code it is given: its handlers and its failure policy. They may use the queue as
they like, through its operations; `Runner.Tame` asks exactly that, and nothing more.

**Main statements**

* `Stepwise.store`, `Stepwise.jbind`, … — work and jobs act by statements when their parts do.
* `Runner.process_stepwise`, `Runner.run_stepwise` — processing and running, for a tame runner.
* `Operation.stepwise` — every public operation.
* `Operation.statuses_move_forward` — statuses along any sequence of operations, and what a
  refused move leaves behind.
-/

namespace JobQueue

instance : HasStore World := ⟨World.store⟩

namespace Stepwise

variable {α β γ : Type}

lemma store {m : StoreM α} (h : Stepwise m) : Stepwise (Work.store m) := by
  intro W
  have hafter : after (Work.store m) W = { W with store := after m W.store } := by
    unfold after Work.store
    simp only [EStateM.run]
    cases m W.store <;> rfl
  rw [hafter]
  exact h W.store

lemma now : Stepwise Work.now := Stepwise.get.bind fun _ => .pure _

lemma note (i : Invocation) : Stepwise (Work.note i) := of_after fun _ => rfl

lemma ofFault (x : Except TimeFault α) : Stepwise (Work.ofFault x) := by
  cases x with
  | ok a => exact .pure a
  | error f => exact .throw _

lemma onPanic {w : Work α} {cleanup : Work Unit} (hw : Stepwise w) (hc : Stepwise cleanup) :
    Stepwise (w.onPanic cleanup) :=
  hw.tryCatch fun _ => hc.bind fun _ => .throw _

/-! Jobs: a job acts by statements when its run does. -/

lemma jbind {j : Job α} {f : α → Job β} (hj : Stepwise j.run) (hf : ∀ a, Stepwise (f a).run) :
    Stepwise (j >>= f).run := by
  rw [ExceptT.run_bind]
  refine hj.bind fun x => ?_
  cases x with
  | ok a => exact hf a
  | error e => exact .pure _

lemma jpure (a : α) : Stepwise (Pure.pure a : Job α).run := .pure _

lemma jthrow (e : QueueError) : Stepwise (MonadExcept.throw e : Job α).run := .pure _

lemma jstore {m : StoreM α} (h : Stepwise m) : Stepwise (Job.store m).run := store h

lemma jwork {w : Work α} (h : Stepwise w) : Stepwise (Job.work w).run := h.map _

lemma jmap {j : Job α} (g : α → β) (hj : Stepwise j.run) : Stepwise (g <$> j).run := by
  rw [ExceptT.run_map]
  exact hj.map _

end Stepwise

/-- **A runner whose own code acts by statements**: its handlers and its failure policy reach
the store only through its operations. -/
structure Runner.Tame (r : Runner) : Prop where
  handlers : ∀ h ∈ r.registry.handlers, ∀ args, Stepwise (h.run args)
  policy : ∀ failing a, Stepwise (r.policy failing a)

namespace Registry

lemma runAll_stepwise (args : Args) :
    ∀ hs : List Handler, (∀ h ∈ hs, Stepwise (h.run args)) → Stepwise (runAll args hs)
  | [], _ => .pure _
  | h :: rest, hh => by
    refine (hh h (List.mem_cons_self ..)).bind fun x => ?_
    split
    · exact runAll_stepwise args rest fun h' hh' => hh h' (List.mem_cons_of_mem _ hh')
    · exact .pure _

lemma dispatchGuarded_stepwise {reg : Registry} (hreg : ∀ h ∈ reg.handlers, ∀ args, Stepwise (h.run args))
    (hook : String) (args : Args) : Stepwise (reg.dispatchGuarded hook args) :=
  Stepwise.tryCatch (runAll_stepwise args _ fun h hh => hreg h ((List.mem_filter.1 hh).1) args)
    fun _ => .pure _

/-- Registering a handler that acts by statements keeps every handler acting by statements. -/
lemma register_stepwise {reg : Registry} {h : Handler}
    (hreg : ∀ g ∈ reg.handlers, ∀ args, Stepwise (g.run args)) (hh : ∀ args, Stepwise (h.run args)) :
    ∀ g ∈ (reg.register h).handlers, ∀ args, Stepwise (g.run args) := by
  intro g hg args
  rcases List.mem_append.1 (List.mem_mergeSort.1 hg) with hg | hg
  · exact hreg g hg args
  · rw [List.mem_singleton.1 hg]
    exact hh args

/-- The built-in handlers touch nothing. -/
lemma withBuiltins_stepwise {reg : Registry}
    (hreg : ∀ g ∈ reg.handlers, ∀ args, Stepwise (g.run args)) :
    ∀ g ∈ reg.withBuiltins.handlers, ∀ args, Stepwise (g.run args) :=
  register_stepwise (register_stepwise hreg fun _ => .pure _) fun _ => .pure _

end Registry

lemma ExecutionMonitor.unwind_stepwise (m : ExecutionMonitor) : Stepwise m.unwind := by
  have release : Stepwise (do let _ ← Work.store (Store.releaseClaim m.claim); pure () : Work Unit) :=
    (Stepwise.store (Store.releaseClaim_stepwise _)).bind fun _ => .pure _
  refine Stepwise.now.bind fun now => ?_
  dsimp only
  split
  · exact (Stepwise.store (Store.markFailure_stepwise _ now)).bind fun _ => release
  · exact release

namespace Runner

variable {r : Runner}

lemma consistentlyFailing_stepwise (hook : String) (threshold : Nat) :
    Stepwise (Store.consistentlyFailing hook threshold) :=
  .ite (.pure _) ((Store.recentOutcomes_stepwise hook threshold).bind fun _ => .pure _)

lemma successor_stepwise (hr : r.Tame) (stored : StoredAction) :
    Stepwise (r.successor stored).run := by
  refine (Stepwise.jstore (consistentlyFailing_stepwise _ _)).jbind fun failing => ?_
  refine (Stepwise.jwork (hr.policy failing stored)).jbind fun suppress => ?_
  split
  · exact .jpure _
  · refine (Stepwise.jwork .now).jbind fun now => ?_
    refine (Stepwise.jwork (.ofFault _)).jbind fun next => ?_
    split
    · exact .jpure _
    · exact .jmap _ (.jstore (Store.saveAt_stepwise _ _ _))

lemma scheduleSuccessor_stepwise (hr : r.Tame) (stored : StoredAction) :
    Stepwise (r.scheduleSuccessor stored) :=
  (successor_stepwise hr stored).bind fun x => by
    split
    · exact .pure _
    · exact .pure _

lemma execute_stepwise (hr : r.Tame) (id : ActionId) : Stepwise (r.execute id).run := by
  refine (Stepwise.jwork .now).jbind fun now => ?_
  refine (Stepwise.jstore (Store.fetch_stepwise id)).jbind fun stored => ?_
  split
  · exact .jpure _
  · refine (Stepwise.jwork (.store (Store.logExecution_stepwise id now))).jbind fun started => ?_
    extract_lets jp
    -- What follows a successful start: dispatch, then record.
    have hjp : ∀ u, Stepwise (jp u).run := by
      intro u
      simp -zeta only [jp]
      refine (Stepwise.jwork (Registry.dispatchGuarded_stepwise hr.handlers _ _)).jbind
        fun result => ?_
      refine (Stepwise.jwork (.store ?_)).jbind fun recorded => ?_
      · split
        · exact Store.markComplete_stepwise id now
        · exact Store.markFailure_stepwise id now
      extract_lets finish
      split
      · exact .jpure _
      · exact (Stepwise.jthrow _).jbind fun _ => .jpure _
      · exact .jpure _
    split
    · exact .jpure _
    · exact (Stepwise.jthrow _).jbind fun u => hjp u
    · exact hjp ()

lemma process_stepwise (hr : r.Tame) (id : ActionId) : Stepwise (r.process id).run := by
  refine (execute_stepwise hr id).jbind fun e => ?_
  split
  · exact .jpure _
  · split
    · exact (Stepwise.jwork (scheduleSuccessor_stepwise hr _)).jbind fun _ => .jpure _
    · exact (Stepwise.jpure _).jbind fun _ => .jpure _

lemma processAll_stepwise (hr : r.Tame) (passed : World → Bool) :
    ∀ (ids : List ActionId) (n : Nat), Stepwise (r.processAll passed ids n).run
  | [], _ => .jpure _
  | id :: rest, n => by
    rw [processAll]
    refine (process_stepwise hr id).jbind fun _ => ?_
    refine (Stepwise.jwork .get).jbind fun _ => ?_
    split
    · exact .jpure _
    · exact processAll_stepwise hr passed rest (n + 1)

lemma executeClaim_stepwise (hr : r.Tame) (passed : World → Bool) (c : Claim) :
    Stepwise (r.executeClaim passed c).run :=
  Stepwise.onPanic (processAll_stepwise hr passed _ 0) (ExecutionMonitor.unwind_stepwise _)

lemma runBatch_stepwise (hr : r.Tame) (passed : World → Bool) :
    Stepwise (r.runBatch passed).run := by
  refine (Stepwise.jwork .now).jbind fun now => ?_
  refine (Stepwise.jstore (Store.stake_stepwise _ _ _ now)).jbind fun c => ?_
  split
  · exact .jpure _
  · exact (executeClaim_stepwise hr passed c).jbind fun _ =>
      (Stepwise.jstore (Store.releaseClaim_stepwise _)).jbind fun _ => .jpure _

lemma runBatches_stepwise (hr : r.Tame) (passed : World → Bool) :
    ∀ fuel done, Stepwise (r.runBatches passed fuel done).run
  | 0, _ => .jpure _
  | fuel + 1, done => by
    rw [runBatches]
    refine (Stepwise.jstore Store.claimCount_stepwise).jbind fun _ => ?_
    split
    · exact .jpure _
    · refine (runBatch_stepwise hr passed).jbind fun _ => ?_
      split
      · exact .jpure _
      · refine (Stepwise.jwork .get).jbind fun _ => ?_
        split
        · exact .jpure _
        · exact runBatches_stepwise hr passed fuel _

lemma run_stepwise (hr : r.Tame) : Stepwise r.run.run := runBatches_stepwise hr _ _ 0

lemma countDue_stepwise : Stepwise r.countDue.run :=
  (Stepwise.jwork .now).jbind fun _ => .jstore (Store.countDue_stepwise _ _ _)

end Runner

/-- **The worker's runner is tame**: the built-in handlers and the standard failure policy. -/
lemma Worker.runnerOf_tame (c : QueueConfig) : (Worker.runnerOf c).Tame :=
  ⟨Registry.withBuiltins_stepwise fun _ hg _ => (by cases hg), fun _ _ => .pure _⟩

namespace ActionQueue

/-- A fault of time arithmetic stops the job before its continuation runs. -/
lemma ofFault_bind_stepwise {α β : Type} {x : Except TimeFault α} {f : α → Job β}
    (hf : ∀ v, x = .ok v → Stepwise (f v).run) :
    Stepwise (Job.work (Work.ofFault x) >>= f).run := by
  cases x with
  | ok v =>
    simp only [Work.ofFault, Job.work, ExceptT.run_bind, ExceptT.run_lift, map_pure, pure_bind]
    exact hf v rfl
  | error e => exact .of_after fun _ => rfl

lemma saveAction_stepwise (a : Action) (unique : Bool) : Stepwise (saveAction a unique).run := by
  refine (Stepwise.jwork .now).jbind fun now => ?_
  split
  · exact ofFault_bind_stepwise fun _ h => .jstore (Store.saveUnique_stepwise h)
  · exact ofFault_bind_stepwise fun _ h => .jmap _ (.jstore (Store.save_stepwise h))

lemma enqueue_stepwise (hook : String) (args : Args) (schedule : Schedule) (o : EnqueueOptions) :
    Stepwise (enqueue hook args schedule o).run :=
  saveAction_stepwise _ _

lemma scheduleRecurring_stepwise (first : Instant) (every : Int) (hook : String) (args : Args)
    (o : EnqueueOptions) : Stepwise (scheduleRecurring first every hook args o).run := by
  unfold scheduleRecurring
  split
  · exact enqueue_stepwise _ _ _ _
  · exact .jthrow _

lemma scheduleCron_stepwise (q : ActionQueue) (first : Instant) (expression : String)
    (zoneName : Option String) (hook : String) (args : Args) (o : EnqueueOptions) :
    Stepwise (q.scheduleCron first expression zoneName hook args o).run := by
  unfold scheduleCron
  extract_lets spec
  clear_value spec
  cases spec with
  | ok c => exact enqueue_stepwise _ _ _ _
  | error e => exact .jthrow _

lemma nextScheduled_stepwise (hook : String) (args : Option Args) (group : Option String) :
    Stepwise (nextScheduled hook args group).run := by
  refine (Stepwise.jstore (Store.find_stepwise _ _)).jbind fun pending => ?_
  split
  · exact (Stepwise.jstore (Store.date_stepwise _)).jbind fun _ => .jpure _
  · exact (Stepwise.jstore (Store.find_stepwise _ _)).jbind fun _ => .jpure _

lemma hasScheduled_stepwise (hook : String) (args : Option Args) (group : Option String) :
    Stepwise (hasScheduled hook args group).run :=
  (Stepwise.jstore (Store.count_stepwise _)).jbind fun _ => .jpure _

lemma unschedule_stepwise (hook : String) (args : Option Args) (group : Option String) :
    Stepwise (unschedule hook args group).run := by
  refine (Stepwise.jwork .now).jbind fun now => ?_
  refine (Stepwise.jstore (Store.find_stepwise _ _)).jbind fun found => ?_
  split
  · exact .jpure _
  · exact (Stepwise.jstore (Store.cancel_stepwise _ now)).jbind fun _ => .jpure _

lemma unscheduleAll_stepwise (hook : String) (args : Option Args) (group : Option String) :
    Stepwise (unscheduleAll hook args group).run :=
  (Stepwise.jwork .now).jbind fun _ => .jstore (Store.cancelPending_stepwise _ _ _ _)

end ActionQueue

/-! ## The public operations -/

/-- **A public operation** of the queue, with its arguments. `enqueueAsync` and
`scheduleSingle` are `enqueue` with their schedules. -/
inductive Operation where
  -- The store's writes.
  | save (a : Action) (now : Instant)
  | saveUnique (a : Action) (now : Instant)
  | delete (id : ActionId)
  | logExecution (id : ActionId) (now : Instant)
  | markComplete (id : ActionId) (now : Instant)
  | markFailure (id : ActionId) (now : Instant)
  | cancel (id : ActionId) (now : Instant)
  | cancelPending (hook : Option String) (args : Option Args) (group : Option String)
      (now : Instant)
  | stake (limit : Nat) (before : Option Instant) (f : ClaimFilter) (now : Instant)
  | findByClaim (c : ClaimId) (now : Instant)
  | releaseClaim (c : ClaimId)
  | unclaim (id : ActionId)
  | releaseStaleClaims (cutoff : Instant)
  | failStaleInProgress (cutoff now : Instant)
  | deleteFinished (cutoff : Instant) (limit : Nat)
  | setLock (kind : String) (ttl : Nat) (now : Instant)
  | releaseLock (kind : String)
  -- The store's reads.
  | status (id : ActionId)
  | fetch (id : ActionId)
  | claimOf (id : ActionId)
  | date (id : ActionId)
  | query (q : ActionQuery)
  | count (q : ActionQuery)
  | find (hook : String) (p : FindParams)
  | statusCounts
  | claimCount
  | countDue (before : Option Instant) (f : ClaimFilter) (now : Instant)
  | lockExpiry (kind : String)
  | isLocked (kind : String) (now : Instant)
  | recentOutcomes (hook : String) (limit : Nat)
  | pastDue (cutoff : Instant)
  -- The queue front.
  | enqueue (hook : String) (args : Args) (schedule : Schedule) (o : EnqueueOptions)
  | scheduleRecurring (first : Instant) (every : Int) (hook : String) (args : Args)
      (o : EnqueueOptions)
  | scheduleCron (q : ActionQueue) (first : Instant) (expression : String)
      (zoneName : Option String) (hook : String) (args : Args) (o : EnqueueOptions)
  | nextScheduled (hook : String) (args : Option Args) (group : Option String)
  | hasScheduled (hook : String) (args : Option Args) (group : Option String)
  | unschedule (hook : String) (args : Option Args) (group : Option String)
  | unscheduleAll (hook : String) (args : Option Args) (group : Option String)
  -- The runner.
  | process (r : Runner) (id : ActionId)
  | run (r : Runner)
  | runnerCountDue (r : Runner)
  -- Housekeeping.
  | clean (c : CleanupConfig) (now : Instant)
  | pastDueCheck (m : MonitorConfig) (now : Instant)
  | housekeep (cfg : QueueConfig) (now : Instant)

/-- Run a store operation, keeping only what it did to the world. -/
def Work.exec {α : Type} (m : StoreM α) : Work Unit := do
  let _ ← Work.store m

/-- Run a job, keeping only what it did to the world. -/
def Job.exec {α : Type} (j : Job α) : Work Unit := do
  let _ ← j.attempt

namespace Operation

/-- **Perform an operation** on the world. Saving an action whose first run cannot be found
leaves the world alone. -/
def perform : Operation → Work Unit
  | .save a now => match Store.save a now with
    | .ok m => Work.exec m
    | .error _ => pure ()
  | .saveUnique a now => match Store.saveUnique a now with
    | .ok m => Work.exec m
    | .error _ => pure ()
  | .delete id => Work.exec (Store.delete id)
  | .logExecution id now => Work.exec (Store.logExecution id now)
  | .markComplete id now => Work.exec (Store.markComplete id now)
  | .markFailure id now => Work.exec (Store.markFailure id now)
  | .cancel id now => Work.exec (Store.cancel id now)
  | .cancelPending hook args group now => Work.exec (Store.cancelPending hook args group now)
  | .stake limit before f now => Work.exec (Store.stake limit before f now)
  | .findByClaim c now => Work.exec (Store.findByClaim c now)
  | .releaseClaim c => Work.exec (Store.releaseClaim c)
  | .unclaim id => Work.exec (Store.unclaim id)
  | .releaseStaleClaims cutoff => Work.exec (Store.releaseStaleClaims cutoff)
  | .failStaleInProgress cutoff now => Work.exec (Store.failStaleInProgress cutoff now)
  | .deleteFinished cutoff limit => Work.exec (Store.deleteFinished cutoff limit)
  | .setLock kind ttl now => Work.exec (Store.setLock kind ttl now)
  | .releaseLock kind => Work.exec (Store.releaseLock kind)
  | .status id => Work.exec (Store.status id)
  | .fetch id => Work.exec (Store.fetch id)
  | .claimOf id => Work.exec (Store.claimOf id)
  | .date id => Work.exec (Store.date id)
  | .query q => Work.exec (Store.query q)
  | .count q => Work.exec (Store.count q)
  | .find hook p => Work.exec (Store.find hook p)
  | .statusCounts => Work.exec Store.statusCounts
  | .claimCount => Work.exec Store.claimCount
  | .countDue before f now => Work.exec (Store.countDue before f now)
  | .lockExpiry kind => Work.exec (Store.lockExpiry kind)
  | .isLocked kind now => Work.exec (Store.isLocked kind now)
  | .recentOutcomes hook limit => Work.exec (Store.recentOutcomes hook limit)
  | .pastDue cutoff => Work.exec (Store.pastDue cutoff)
  | .enqueue hook args schedule o => Job.exec (ActionQueue.enqueue hook args schedule o)
  | .scheduleRecurring first every hook args o =>
    Job.exec (ActionQueue.scheduleRecurring first every hook args o)
  | .scheduleCron q first expression zoneName hook args o =>
    Job.exec (q.scheduleCron first expression zoneName hook args o)
  | .nextScheduled hook args group => Job.exec (ActionQueue.nextScheduled hook args group)
  | .hasScheduled hook args group => Job.exec (ActionQueue.hasScheduled hook args group)
  | .unschedule hook args group => Job.exec (ActionQueue.unschedule hook args group)
  | .unscheduleAll hook args group => Job.exec (ActionQueue.unscheduleAll hook args group)
  | .process r id => Job.exec (r.process id)
  | .run r => Job.exec r.run
  | .runnerCountDue r => Job.exec r.countDue
  | .clean c now => Work.exec (Store.clean c now)
  | .pastDueCheck m now => Work.exec (Store.pastDueCheck m now)
  | .housekeep cfg now => Work.exec (Store.housekeep cfg now)

/-- The operations that run a runner need it tame; the others ask nothing. -/
def Tame : Operation → Prop
  | .process r _ | .run r => r.Tame
  | _ => True

end Operation

namespace Stepwise

lemma exec {α : Type} {m : StoreM α} (h : Stepwise m) : Stepwise (Work.exec m) :=
  (store h).bind fun _ => .pure _

lemma jexec {α : Type} {j : Job α} (h : Stepwise j.run) : Stepwise (Job.exec j) :=
  h.bind fun _ => .pure _

lemma forM {γ : Type} {f : γ → Work Unit} :
    ∀ xs : List γ, (∀ x ∈ xs, Stepwise (f x)) → Stepwise (xs.forM f)
  | [], _ => .pure _
  | x :: xs, h => by
    unfold List.forM
    exact (h x (List.mem_cons_self ..)).bind fun _ =>
      forM xs fun y hy => h y (List.mem_cons_of_mem _ hy)

end Stepwise

namespace Operation

open Stepwise

/-- **Every public operation acts on the table only by statements.** -/
theorem stepwise (op : Operation) (h : op.Tame) : Stepwise op.perform := by
  cases op with
  | save a now =>
    rw [perform]
    split
    · next m hm => exact .exec (Store.save_stepwise hm)
    · exact .pure _
  | saveUnique a now =>
    rw [perform]
    split
    · next m hm => exact .exec (Store.saveUnique_stepwise hm)
    · exact .pure _
  | delete id => exact .exec (Store.delete_stepwise id)
  | logExecution id now => exact .exec (Store.logExecution_stepwise id now)
  | markComplete id now => exact .exec (Store.markComplete_stepwise id now)
  | markFailure id now => exact .exec (Store.markFailure_stepwise id now)
  | cancel id now => exact .exec (Store.cancel_stepwise id now)
  | cancelPending hook args group now =>
    exact .exec (Store.cancelPending_stepwise hook args group now)
  | stake limit before f now => exact .exec (Store.stake_stepwise limit before f now)
  | findByClaim c now => exact .exec (Store.findByClaim_stepwise c now)
  | releaseClaim c => exact .exec (Store.releaseClaim_stepwise c)
  | unclaim id => exact .exec (Store.unclaim_stepwise id)
  | releaseStaleClaims cutoff => exact .exec (Store.releaseStaleClaims_stepwise cutoff)
  | failStaleInProgress cutoff now => exact .exec (Store.failStaleInProgress_stepwise cutoff now)
  | deleteFinished cutoff limit => exact .exec (Store.deleteFinished_stepwise cutoff limit)
  | setLock kind ttl now => exact .exec (Store.setLock_stepwise kind ttl now)
  | releaseLock kind => exact .exec (Store.releaseLock_stepwise kind)
  | status id => exact .exec (Store.status_stepwise id)
  | fetch id => exact .exec (Store.fetch_stepwise id)
  | claimOf id => exact .exec (Store.claimOf_stepwise id)
  | date id => exact .exec (Store.date_stepwise id)
  | query q => exact .exec (Store.query_stepwise q)
  | count q => exact .exec (Store.count_stepwise q)
  | find hook p => exact .exec (Store.find_stepwise hook p)
  | statusCounts => exact .exec Store.statusCounts_stepwise
  | claimCount => exact .exec Store.claimCount_stepwise
  | countDue before f now => exact .exec (Store.countDue_stepwise before f now)
  | lockExpiry kind => exact .exec (Store.lockExpiry_stepwise kind)
  | isLocked kind now => exact .exec (Store.isLocked_stepwise kind now)
  | recentOutcomes hook limit => exact .exec (Store.recentOutcomes_stepwise hook limit)
  | pastDue cutoff => exact .exec (Store.pastDue_stepwise cutoff)
  | enqueue hook args schedule o => exact .jexec (ActionQueue.enqueue_stepwise hook args schedule o)
  | scheduleRecurring first every hook args o =>
    exact .jexec (ActionQueue.scheduleRecurring_stepwise first every hook args o)
  | scheduleCron q first expression zoneName hook args o =>
    exact .jexec (ActionQueue.scheduleCron_stepwise q first expression zoneName hook args o)
  | nextScheduled hook args group => exact .jexec (ActionQueue.nextScheduled_stepwise hook args group)
  | hasScheduled hook args group => exact .jexec (ActionQueue.hasScheduled_stepwise hook args group)
  | unschedule hook args group => exact .jexec (ActionQueue.unschedule_stepwise hook args group)
  | unscheduleAll hook args group => exact .jexec (ActionQueue.unscheduleAll_stepwise hook args group)
  | process r id => exact .jexec (Runner.process_stepwise h id)
  | run r => exact .jexec (Runner.run_stepwise h)
  | runnerCountDue r => exact .jexec Runner.countDue_stepwise
  | clean c now => exact .exec (Store.clean_stepwise c now)
  | pastDueCheck m now => exact .exec (Store.pastDueCheck_stepwise m now)
  | housekeep cfg now => exact .exec (Store.housekeep_stepwise cfg now)

/-- The moves that may be refused. -/
def refusable : List (ActionId → Instant → StoreM Unit) :=
  [Store.logExecution, Store.markComplete, Store.markFailure, Store.cancel]

/-- **Statuses move forward, whatever the operations.** Along any sequence of public
operations, with tame runners, the table moves forward: every row present at the end with an
id handed out at the start continues a row present at the start, whose status led to its own
(`Status.Leads`: from pending anywhere, from in progress to a finished status, and otherwise
nowhere). And a move that fails, of starting, completing, failing or canceling an action,
leaves the store exactly as it was; refused as not allowed it names the status the action
has, and refused for a missing action there is none. -/
theorem statuses_move_forward (ops : List Operation) (hops : ∀ op ∈ ops, op.Tame) (w : World) :
    Store.Evolves w.store (after (ops.forM perform) w).store ∧
    ∀ move ∈ refusable, ∀ (id : ActionId) (now : Instant) (s s' : Store) (e : QueueError),
      (move id now).run s = .error e s' → s' = s ∧
        (∀ i source target, e = .invalidTransition i source target →
          (s.row? id).map (·.status) = some source) ∧
        (∀ i, e = .actionNotFound i → s.row? id = none) := by
  refine ⟨((Stepwise.forM ops fun op hop => stepwise op (hops op hop)) w).evolves, ?_⟩
  intro move hmove id now s s' e h
  -- Each of the four is a transition.
  obtain ⟨target, sources, extra, rfl⟩ : ∃ (target : Status) (sources : List Status)
      (extra : Instant → Row → Row),
      move = fun id now => Store.transition id target sources (extra now) now := by
    simp only [refusable, List.mem_cons, List.not_mem_nil, or_false] at hmove
    rcases hmove with rfl | rfl | rfl | rfl
    · exact ⟨.inProgress, [.pending], Row.started, rfl⟩
    · exact ⟨.complete, [.pending, .inProgress], Row.attempted, rfl⟩
    · exact ⟨.failed, [.pending, .inProgress], Row.attempted, rfl⟩
    · exact ⟨.canceled, [.pending, .inProgress], fun _ r => r, rfl⟩
  exact Store.transition_refused h

/-- The worker's runner, after an action is enqueued and before housekeeping. -/
theorem statuses_move_forward_worker :
    (∀ op ∈ [Operation.enqueue logHook ⟨[]⟩ .immediate {},
        .run (Worker.runnerOf { database := { path := "queue.db" } }),
        .clean {} Instant.minimum], op.Tame) ∧
    Store.Evolves ({ store := {}, clock := Instant.minimum } : World).store
      (after ([Operation.enqueue logHook ⟨[]⟩ .immediate {},
          .run (Worker.runnerOf { database := { path := "queue.db" } }),
          .clean {} Instant.minimum].forM perform)
        { store := {}, clock := Instant.minimum }).store := by
  refine ⟨?tame, (statuses_move_forward _ ?tame _).1⟩
  intro op hop
  simp only [List.mem_cons, List.not_mem_nil, or_false] at hop
  rcases hop with rfl | rfl | rfl
  · trivial
  · exact Worker.runnerOf_tame _
  · trivial

end Operation
end JobQueue
