import JobQueue.Queue.Row

/-!
# The action store

The store holds the rows of all actions in id order, the last id it handed out (ids are
never reused, not even after a delete), how many claims it has issued, and its named locks.
Operations run in `StoreM`: they read and change the store and may fail with a
`QueueError`. Changes made before a failure stay, as they do in a database whose statements
each commit on their own.

**The write lock.** Every statement that writes first needs the database's write lock.
On a connection that may only read (`readOnly`) such a statement fails with "attempt to
write a readonly database"; while another connection holds the lock (`writeLocked`), it
fails with "database is locked". Either way it fails whether or not it would have changed a
row, and reads go on as before.

**Stored order.** Instants are compared and ordered as their stored text (see `Stamp`).
Listings order rows by scheduled time, then id; claims order them by priority, attempts,
scheduled time, then id.

* `Store`, `StoreM` — the state and its operations' monad.
* `Store.beginWrite` — take the write lock for one statement.
* `Store.window` — what a signed `LIMIT`/`OFFSET` pair keeps.
-/

namespace JobQueue

/-- A named lock: its kind and the stamp at which it lapses. -/
structure NamedLock where
  kind : String
  expiresAt : Stamp

/-- **The store's state.** -/
structure Store where
  /-- The rows, in increasing id order. -/
  rows : List Row := []
  /-- The largest id ever handed out. -/
  lastId : Int := 0
  /-- How many claims have been issued. -/
  claimsIssued : Nat := 0
  locks : List NamedLock := []
  /-- Whether another connection holds the write lock. -/
  writeLocked : Bool := false
  /-- Whether this connection may only read. -/
  readOnly : Bool := false

/-- Store operations: they may change the store and fail with a queue error. -/
abbrev StoreM := EStateM QueueError Store

namespace Store

/-- The failure of a write while another connection holds the write lock. -/
def lockedOut : QueueError := .database "database is locked"

/-- The failure of a write on a connection that may only read. -/
def readOnlyRefusal : QueueError := .database "attempt to write a readonly database"

/-- **Take the write lock** for one statement; fails on a connection that may only read, and
while another connection holds the lock. -/
def beginWrite : StoreM Unit := do
  if (← get).readOnly then throw readOnlyRefusal
  if (← get).writeLocked then throw lockedOut

/-- The row with id `id`. -/
def row? (s : Store) (id : ActionId) : Option Row := s.rows.find? (·.id == id)

/-- Rewrite the rows that satisfy `p` with `f`; the number of rows rewritten. -/
def rewrite (p : Row → Bool) (f : Row → Row) : StoreM Nat :=
  modifyGet fun s =>
    ((s.rows.filter p).length, { s with rows := s.rows.map fun r => if p r then f r else r })

/-- Delete the rows that satisfy `p`; the number of rows deleted. -/
def discard (p : Row → Bool) : StoreM Nat :=
  modifyGet fun s => ((s.rows.filter p).length, { s with rows := s.rows.filter fun r => !p r })

/-- A machine word as the database reads it: signed, so 2^63 and above count as negative. -/
def signedWord (n : Nat) : Int :=
  if n < 9223372036854775808 then n else (n : Int) - 18446744073709551616

/-- **What a `LIMIT`/`OFFSET` pair keeps**: a negative limit keeps all, a negative offset
skips none. -/
def window {α : Type} (limit offset : Int) (xs : List α) : List α :=
  let rest := xs.drop offset.toNat
  if limit < 0 then rest else rest.take limit.toNat

/-- Scheduled time, then id: the listing order. -/
def timeOrder (a b : Row) : Ordering :=
  (compare a.scheduledAt.text b.scheduledAt.text).then (compare a.id.val b.id.val)

/-- Priority, attempts, scheduled time, then id: the order of execution inside a claim. -/
def claimOrder (a b : Row) : Ordering :=
  (compare a.priority b.priority).then <|
    (compare a.attempts b.attempts).then <|
      (compare a.scheduledAt.text b.scheduledAt.text).then (compare a.id.val b.id.val)

/-- Sort rows by an order, stably. -/
def sortBy (o : Row → Row → Ordering) (rows : List Row) : List Row :=
  rows.mergeSort fun a b => o a b != .gt

end Store

end JobQueue
