import JobQueue.Config.Basic
import JobQueue.Store.Locks
import JobQueue.Store.Upkeep

/-!
# Housekeeping

Periodic care of a queue, in three parts.

* **Cleaning** (`Store.clean`): release claims on pending actions claimed longer ago than
  the claim timeout, fail in-progress actions started longer ago than the failure timeout,
  and delete a batch of complete or canceled actions older than the retention.
* **Past-due monitoring** (`Store.pastDueCheck`): count the pending actions scheduled longer
  ago than the past-due age; the count is alarming from the configured minimum on (at least
  one).
* **The housekeeper's tick** (`Store.housekeep`): at most once per interval over all
  processes sharing the store, as ensured by the `cleanup` named lock, clean and then check
  for past-due work.

An age is measured back from now; an age reaching before the calendar's start gives its
start.
-/

namespace JobQueue

/-- What a cleaning did. -/
structure CleanupReport where
  claimsReleased : Nat
  actionsFailed : Nat
  actionsDeleted : Nat

/-- What a past-due check found. -/
structure PastDueReport where
  count : Nat
  oldest : Option Instant
  alarming : Bool

/-- The name of the housekeeping lock. -/
def cleanupLock : String := "cleanup"

/-- **The instant `age` seconds before `now`**, or the calendar's start. -/
def cutoff (now : Instant) (age : Nat) : Instant :=
  (now.addSeconds? (-(age : Int))).getD Instant.minimum

namespace Store

/-- Release claims older than the claim timeout. -/
def resetTimeouts (c : CleanupConfig) (now : Instant) : StoreM Nat :=
  releaseStaleClaims (cutoff now c.claimTimeoutSecs)

/-- Fail executions older than the failure timeout. -/
def markFailures (c : CleanupConfig) (now : Instant) : StoreM Nat :=
  failStaleInProgress (cutoff now c.failureTimeoutSecs) now

/-- Delete one batch of finished actions older than the retention. -/
def deleteOld (c : CleanupConfig) (now : Instant) : StoreM Nat :=
  deleteFinished (cutoff now c.retentionSecs) c.batchSize

/-- **Clean the store**: stale claims, stale executions, old finished actions, in order. -/
def clean (c : CleanupConfig) (now : Instant) : StoreM CleanupReport := do
  let claimsReleased ← resetTimeouts c now
  let actionsFailed ← markFailures c now
  let actionsDeleted ← deleteOld c now
  pure { claimsReleased, actionsFailed, actionsDeleted }

/-- **Check for past-due work.** -/
def pastDueCheck (m : MonitorConfig) (now : Instant) : StoreM PastDueReport := do
  let (count, oldest) ← pastDue (cutoff now m.pastDueSecs)
  pure { count, oldest, alarming := decide (max 1 m.pastDueMin ≤ count) }

/-- **The housekeeper's tick**: if the housekeeping lock can be taken for one interval
(at least a second), clean and check for past-due work; otherwise nothing. -/
def housekeep (cfg : QueueConfig) (now : Instant) : StoreM (Option CleanupReport) := do
  if !(← setLock cleanupLock (max 1 cfg.cleanup.intervalSecs) now) then return none
  let report ← clean cfg.cleanup now
  let _ ← pastDueCheck cfg.monitor now
  return some report

end Store

end JobQueue
