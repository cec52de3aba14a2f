import JobQueue.Store.Basic

/-!
# Reading the store

Lookups by id, listing queries and per-status counts. None of them writes.

* `Store.fetch` — the stored action with an id, decoded; `Store.date` — when it is or was due.
* `Store.query`, `Store.count` — the ids a listing query selects, and how many it matches.
* `Store.find` — the best single match for a hook: the earliest pending action, or the most
  recent one in another status.
* `Store.statusCounts` — how many actions are in each status.
-/

namespace JobQueue

/-- **Whether a row satisfies a query's conditions**; limit, offset and order aside. -/
def ActionQuery.admits (q : ActionQuery) (r : Row) : Bool :=
  q.hook.all (· == r.hook) && q.args.all (·.canonical == r.argsKey) &&
    q.group.all (· == r.group) && (q.statuses.isEmpty || q.statuses.contains r.status) &&
    q.claimed.all (· == r.claim.isSome) &&
    q.scheduledBefore.all (fun t => decide (r.scheduledAt ≤ Stamp.ofInstant t)) &&
    q.scheduledAfter.all fun t => decide (Stamp.ofInstant t < r.scheduledAt)

/-- What to look for with `Store.find`: arguments, a status (pending if unset) and a group. -/
structure FindParams where
  args : Option Args := none
  status : Option Status := none
  group : Option String := none

namespace Store

/-- The status of the action with an id. -/
def status (id : ActionId) : StoreM Status := do
  match (← get).row? id with
  | some r => pure r.status
  | none => throw (.actionNotFound id.val)

/-- **The stored action with an id**, decoded. -/
def fetch (id : ActionId) : StoreM StoredAction := do
  match (← get).row? id with
  | some r => match r.decode with
    | .ok a => pure a
    | .error e => throw e
  | none => throw (.actionNotFound id.val)

/-- The claim on the action with an id. -/
def claimOf (id : ActionId) : StoreM (Option ClaimId) := do
  match (← get).row? id with
  | some r => pure r.claim
  | none => throw (.actionNotFound id.val)

/-- **When an action is due**: its scheduled time while pending, its last attempt (if any)
once execution has begun. -/
def date (id : ActionId) : StoreM Instant := do
  let a ← fetch id
  pure <| match a.status with
    | .pending => a.scheduledAt
    | _ => a.lastAttempt.getD a.scheduledAt

/-- The rows a query selects, in its order, within its window. -/
def selected (q : ActionQuery) (s : Store) : List Row :=
  let asc := sortBy timeOrder (s.rows.filter q.admits)
  let ordered := match q.order with
    | .asc => asc
    | .desc => asc.reverse
  let limit := match q.limit with
    | some l => signedWord l
    | none => -1
  window limit (signedWord q.offset) ordered

/-- **The ids a listing query selects.** -/
def query (q : ActionQuery) : StoreM (List ActionId) := do
  pure ((selected q (← get)).map (·.id))

/-- **How many actions a query's conditions admit**; order, limit and offset aside. -/
def count (q : ActionQuery) : StoreM Nat := do
  pure ((← get).rows.filter q.admits).length

/-- **The best single match for a hook**: with status pending (the default) the earliest
scheduled, with any other status the latest. -/
def find (hook : String) (p : FindParams) : StoreM (Option ActionId) := do
  let status := p.status.getD .pending
  let q : ActionQuery :=
    { hook := some hook, args := p.args, group := p.group, statuses := [status],
      order := if status == .pending then .asc else .desc, limit := some 1 }
  pure (← query q).head?

/-- **How many actions are in each status**, in status order; absent statuses are left out. -/
def statusCounts : StoreM (List (Status × Nat)) := do
  let rows := (← get).rows
  pure <| (Status.all.map fun st => (st, (rows.filter (·.status == st)).length)).filter
    fun (_, n) => n != 0

end Store

end JobQueue
