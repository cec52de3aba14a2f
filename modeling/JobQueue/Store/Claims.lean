import JobQueue.Store.Lifecycle

/-!
# Claims

A runner takes work by *staking a claim*: one conditional write marks up to `limit` due
actions with a fresh claim id and stamps their last attempt and update time. An action is
due for a filter when it is pending, unclaimed, scheduled at or before the horizon (compared
as stored text), and its hook and group pass the filter. The claim takes actions in
execution order: priority, attempts, scheduled time, id.

The ids of a claim are then read back in execution order. Reading back checks each
scheduled time as an instant: an action not yet due by the horizon is unclaimed again and
left out, so a claim never runs anything ahead of its time. A scheduled time that cannot be
read back fails the read (after the staking has been written).

* `Store.stake` — stake a claim; `Store.claimed` — a claim's due ids.
* `Store.releaseClaim`, `Store.unclaim` — drop a claim's marks, or one action's.
* `Store.claimCount`, `Store.countDue` — outstanding claims, claimable actions.
-/

namespace JobQueue

/-- **Whether a filter lets a row's hook and group through.** Empty lists pass everything. -/
def ClaimFilter.passes (f : ClaimFilter) (r : Row) : Bool :=
  (f.hooks.isEmpty || f.hooks.contains r.hook) &&
    (f.groups.isEmpty || f.groups.contains r.group) &&
    (f.excludeGroups.isEmpty || !f.excludeGroups.contains r.group)

namespace Store

/-- **Whether a row is due** for a claim with filter `f` and horizon `horizon`. -/
def isDue (horizon : Stamp) (f : ClaimFilter) (r : Row) : Bool :=
  r.status == .pending && r.claim.isNone && decide (r.scheduledAt ≤ horizon) && f.passes r

/-- The ids of the rows a claim of `limit` would take, in execution order. -/
def dueIds (limit : Int) (horizon : Stamp) (f : ClaimFilter) (s : Store) : List ActionId :=
  (window limit 0 (sortBy claimOrder (s.rows.filter (isDue horizon f)))).map (·.id)

/-- Issue a fresh claim id. -/
def freshClaim : StoreM ClaimId :=
  modifyGet fun s => (⟨s.claimsIssued + 1⟩, { s with claimsIssued := s.claimsIssued + 1 })

/-- Unclaim one action of claim `c`. -/
def unclaimFrom (c : ClaimId) (id : ActionId) : StoreM Unit := do
  beginWrite
  let _ ← rewrite (fun r => r.id == id && r.claim == some c) fun r => { r with claim := none }

/-- Keep the ids due by `horizon`, unclaiming the others. -/
def keepDue (c : ClaimId) (horizon : Instant) : List (ActionId × Instant) → StoreM (List ActionId)
  | [] => pure []
  | (id, t) :: rest => do
    if t ≤ horizon then
      return id :: (← keepDue c horizon rest)
    else
      unclaimFrom c id
      keepDue c horizon rest

/-- The rows of claim `c` in execution order, each with its scheduled time read back. -/
def claimedRows (c : ClaimId) : StoreM (List (ActionId × Instant)) := do
  let rows := sortBy claimOrder ((← get).rows.filter (·.claim == some c))
  rows.mapM fun r => match Row.time 1 r.scheduledAt with
    | .ok t => pure (r.id, t)
    | .error e => throw e

/-- **The ids of claim `c` due by `horizon`**, in execution order; the others are unclaimed. -/
def claimed (c : ClaimId) (horizon : Instant) : StoreM (List ActionId) := do
  keepDue c horizon (← claimedRows c)

/-- **The claim write**: mark with `c` the rows a claim of `limit` takes by `horizon`, stamping
their last attempt and update time; the number of rows marked. -/
def stakeWrite (c : ClaimId) (limit : Nat) (horizon : Instant) (f : ClaimFilter) (now : Instant) :
    StoreM Nat := do
  beginWrite
  let chosen := dueIds (signedWord limit) (.ofInstant horizon) f (← get)
  rewrite (fun r => chosen.contains r.id && r.claim.isNone && r.status == .pending)
    fun r => { r with claim := some c, lastAttempt := some (.ofInstant now),
                      updatedAt := .ofInstant now }

/-- **Stake a claim** on up to `limit` actions due by `before` (now if unset), cut to the
whole second. A limit of zero issues an empty claim without writing. -/
def stake (limit : Nat) (before : Option Instant) (f : ClaimFilter) (now : Instant) :
    StoreM Claim := do
  let c ← freshClaim
  let horizon := (before.getD now).truncSeconds
  if limit == 0 then return ⟨c, []⟩
  let _ ← stakeWrite c limit horizon f now
  return ⟨c, ← claimed c horizon⟩

/-- The ids still held by claim `c` and due now. -/
def findByClaim (c : ClaimId) (now : Instant) : StoreM (List ActionId) :=
  claimed c now.truncSeconds

/-- **Release a claim**: unmark every action it still holds; how many there were. -/
def releaseClaim (c : ClaimId) : StoreM Nat := do
  beginWrite
  rewrite (·.claim == some c) fun r => { r with claim := none }

/-- **Unclaim one action**, whatever claim holds it. -/
def unclaim (id : ActionId) : StoreM Unit := do
  beginWrite
  if (← rewrite (·.id == id) fun r => { r with claim := none }) == 0 then
    throw (.actionNotFound id.val)

/-- **The number of outstanding claims**: distinct claims on pending or in-progress actions. -/
def claimCount : StoreM Nat := do
  let held := ((← get).rows.filter (·.statusIn [.pending, .inProgress])).filterMap (·.claim)
  pure held.eraseDups.length

/-- **How many actions a claim with filter `f` could take** by `before` (now if unset). -/
def countDue (before : Option Instant) (f : ClaimFilter) (now : Instant) : StoreM Nat := do
  let horizon : Stamp := .ofInstant (before.getD now).truncSeconds
  pure ((← get).rows.filter (isDue horizon f)).length

end Store

end JobQueue
