import JobQueue.Store.Claims

/-!
# Upkeep of the store

Statements that keep the store healthy over time, all taking a cutoff instant compared as
stored text:

* `Store.releaseStaleClaims` — unclaim pending actions claimed at or before the cutoff;
* `Store.failStaleInProgress` — fail actions that began executing at or before the cutoff;
* `Store.deleteFinished` — delete up to `limit` complete or canceled actions last updated at
  or before the cutoff, oldest first;
* `Store.pastDue` — how many pending actions were due at or before the cutoff, and the
  earliest such time;
* `Store.recentOutcomes` — the latest complete-or-failed statuses of a hook.
-/

namespace JobQueue

namespace Store

/-- Whether an optional stamp is at or before `cutoff`; a missing one never is. -/
def stampedBy (cutoff : Stamp) : Option Stamp → Bool
  | some s => decide (s ≤ cutoff)
  | none => false

/-- **The statuses of a hook's latest finished runs**, complete or failed, newest scheduled
first, at most `limit`. -/
def recentOutcomes (hook : String) (limit : Nat) : StoreM (List Status) := do
  let rows := ((← get).rows.filter fun r => r.hook == hook && r.statusIn [.complete, .failed])
  pure ((window (signedWord limit) 0 (sortBy timeOrder rows).reverse).map (·.status))

/-- **Unclaim pending actions claimed at or before `cutoff`**; how many. -/
def releaseStaleClaims (cutoff : Instant) : StoreM Nat := do
  beginWrite
  rewrite
    (fun r => r.status == .pending && r.claim.isSome &&
      stampedBy (.ofInstant cutoff) r.lastAttempt)
    fun r => { r with claim := none }

/-- **Fail in-progress actions begun at or before `cutoff`**, dropping their claims; how
many. -/
def failStaleInProgress (cutoff now : Instant) : StoreM Nat := do
  beginWrite
  rewrite (fun r => r.status == .inProgress && stampedBy (.ofInstant cutoff) r.lastAttempt)
    fun r => { r with status := .failed, claim := none, updatedAt := .ofInstant now }

/-- **Delete up to `limit` complete or canceled actions** last updated at or before
`cutoff`, oldest update first; how many. -/
def deleteFinished (cutoff : Instant) (limit : Nat) : StoreM Nat := do
  beginWrite
  let old := (← get).rows.filter fun r =>
    r.statusIn [.complete, .canceled] && decide (r.updatedAt ≤ .ofInstant cutoff)
  let byUpdate := old.mergeSort fun a b =>
    ((compare a.updatedAt.text b.updatedAt.text).then (compare a.id.val b.id.val)) != .gt
  let doomed := (window (signedWord limit) 0 byUpdate).map (·.id)
  discard fun r => doomed.contains r.id

/-- The least stamp of a list, as text. -/
def earliest : List Stamp → Option Stamp
  | [] => none
  | s :: rest => match earliest rest with
    | some m => if m < s then some m else some s
    | none => some s

/-- **How many pending actions were due at or before `cutoff`**, and the earliest of their
scheduled times. -/
def pastDue (cutoff : Instant) : StoreM (Nat × Option Instant) := do
  let due := (← get).rows.filter fun r =>
    r.status == .pending && decide (r.scheduledAt ≤ .ofInstant cutoff)
  match earliest (due.map (·.scheduledAt)) with
  | none => pure (due.length, none)
  | some s => match Row.time 1 s with
    | .ok t => pure (due.length, some t)
    | .error e => throw e

end Store

end JobQueue
