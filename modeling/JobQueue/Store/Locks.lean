import JobQueue.Store.Basic

/-!
# Named locks

A named lock keeps one kind of periodic work (housekeeping, say) to one holder at a time
across processes sharing a database. Setting a lock of a kind succeeds when no lock of that
kind is recorded or the recorded one has lapsed (its stored expiry at or before now, as
text); it then records a new expiry, now plus the time to live. A lock counts as held while
its expiry is after now.

A time to live longer than the longest span of time there is, or one that carries the
expiry past the calendar, is refused.

* `Store.setLock`, `Store.releaseLock` — take and drop a lock.
* `Store.lockExpiry`, `Store.isLocked` — inspect one.
-/

namespace JobQueue

namespace Store

/-- The recorded expiry of a lock kind. -/
def lockStamp? (kind : String) (s : Store) : Option Stamp :=
  (s.locks.find? (·.kind == kind)).map (·.expiresAt)

/-- **Take the lock of `kind` for `ttl` seconds** if it is free or has lapsed; whether it was
taken. -/
def setLock (kind : String) (ttl : Nat) (now : Instant) : StoreM Bool := do
  if ttl > 9223372036854775 then
    throw (.invalidAction
      "lock ttl out of range: Source duration value is out of range for the target type")
  let some expires := now.addSeconds? ttl
    | throw (.invalidAction "lock ttl out of range")
  beginWrite
  let s ← get
  let entry : NamedLock := ⟨kind, .ofInstant expires⟩
  match lockStamp? kind s with
  | none =>
    set { s with locks := s.locks ++ [entry] }
    pure true
  | some old =>
    if old ≤ .ofInstant now then
      set { s with locks := s.locks.map fun (l : NamedLock) => if l.kind == kind then entry else l }
      pure true
    else pure false

/-- **When the lock of `kind` lapses**, if one is recorded. -/
def lockExpiry (kind : String) : StoreM (Option Instant) := do
  match lockStamp? kind (← get) with
  | none => pure none
  | some st => match st.read with
    | .ok t => pure (some t)
    | .error e =>
      throw (.database ("Conversion error from type Text at index: 0, " ++ e.message))

/-- **Whether the lock of `kind` is held**: its expiry is after now. -/
def isLocked (kind : String) (now : Instant) : StoreM Bool := do
  pure <| match ← lockExpiry kind with
    | some t => decide (now < t)
    | none => false

/-- **Drop the lock of `kind`.** -/
def releaseLock (kind : String) : StoreM Unit := do
  beginWrite
  modify fun s => { s with locks := s.locks.filter (·.kind != kind) }

end Store

end JobQueue
