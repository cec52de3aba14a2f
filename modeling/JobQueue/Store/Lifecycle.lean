import JobQueue.Store.Listing

/-!
# Saving actions and moving them through their lifecycle

A new action is stored pending, with no attempts and no claim. From pending it may start
(in progress, one more attempt), and from pending or in progress it may complete, fail or
be canceled; each move is one conditional write, so a move the action's current status does
not allow changes nothing and reports that status.

| move | from | also sets |
|---|---|---|
| `logExecution` | pending | attempts + 1, last attempt |
| `markComplete`, `markFailure` | pending, in progress | last attempt |
| `cancel` | pending, in progress | |

Every move also sets the update time. `cancelPending` cancels all pending actions of a hook
or group at once.

* `Store.saveAt`, `Store.save`, `Store.saveUnique` — store a new action.
* `Store.delete` — remove an action.
-/

namespace JobQueue

/-- A row that starts executing at `now`: one more attempt, attempted now. -/
def Row.started (now : Instant) (r : Row) : Row :=
  { r with attempts := r.attempts + 1, lastAttempt := some (.ofInstant now) }

/-- A row whose result is recorded at `now`. -/
def Row.attempted (now : Instant) (r : Row) : Row := { r with lastAttempt := some (.ofInstant now) }

namespace Store

/-- An action needs a hook name that is not blank. -/
def validate (a : Action) : StoreM Unit :=
  if (Text.trimBlank a.hook).isEmpty then throw (.invalidAction "hook name must not be empty")
  else pure ()

/-- Store a new pending action due at `due`; its id is one past the largest ever handed out. -/
def insert (a : Action) (due now : Instant) : StoreM ActionId := do
  beginWrite
  let s ← get
  let id : ActionId := ⟨s.lastId + 1⟩
  set { s with rows := s.rows ++ [Row.ofAction id a due now], lastId := s.lastId + 1 }
  pure id

/-- **Save an action due at `due`.** -/
def saveAt (a : Action) (due now : Instant) : StoreM ActionId := do
  validate a
  insert a due now

/-- When a new action is due: its schedule's first run, or now. -/
def firstDue (a : Action) (now : Instant) : Except TimeFault Instant :=
  (a.schedule.firstRun).map (·.getD now)

/-- **Save an action due at its first run**, or now when its schedule has none. The first
run is found before the store is touched, so a fault there saves nothing. -/
def save (a : Action) (now : Instant) : Except TimeFault (StoreM ActionId) :=
  (firstDue a now).map fun due => saveAt a due now

/-- Whether a pending or in-progress action has the hook, arguments and group of `a`. -/
def queued (a : Action) (s : Store) : Bool :=
  s.rows.any fun r =>
    r.hook == a.hook && r.argsKey == a.args.canonical && r.group == a.group &&
      r.statusIn [.pending, .inProgress]

/-- **Insert an action due at `due` unless an equal one is queued**: one transaction that holds
the write lock from the check to the insert. -/
def insertUnique (a : Action) (due now : Instant) : StoreM (Option ActionId) := do
  beginWrite
  if queued a (← get) then pure none
  else some <$> insert a due now

/-- **Save an action unless an equal one is queued**, pending or in progress: same hook,
arguments and group. An action with a blank hook is refused before its first run is found. -/
def saveUnique (a : Action) (now : Instant) : Except TimeFault (StoreM (Option ActionId)) :=
  if (Text.trimBlank a.hook).isEmpty then .ok (validate a *> pure none)
  else (firstDue a now).map fun due => insertUnique a due now

/-- **Delete an action.** -/
def delete (id : ActionId) : StoreM Unit := do
  beginWrite
  if (← discard (·.id == id)) == 0 then throw (.actionNotFound id.val)

/-- **The write of a move**: the row with the id, if its status is one of `sources`, takes
`target`, the update time and `extra`; the number of rows moved. -/
def move (id : ActionId) (target : Status) (sources : List Status) (extra : Row → Row)
    (now : Instant) : StoreM Nat := do
  beginWrite
  rewrite (fun r => r.id == id && r.statusIn sources)
    fun r => extra { r with status := target, updatedAt := .ofInstant now }

/-- **Move an action to `target`** if its status is one of `sources`, applying `extra` to
the row as well. A move its status does not allow writes nothing, and a second read names
that status. -/
def transition (id : ActionId) (target : Status) (sources : List Status) (extra : Row → Row)
    (now : Instant) : StoreM Unit := do
  if (← move id target sources extra now) == 0 then
    let current ← status id
    throw (.invalidTransition id.val current target)

/-- **Start executing** a pending action: one more attempt, attempted now. -/
def logExecution (id : ActionId) (now : Instant) : StoreM Unit :=
  transition id .inProgress [.pending] (Row.started now) now

/-- **Record success** of a pending or in-progress action. -/
def markComplete (id : ActionId) (now : Instant) : StoreM Unit :=
  transition id .complete [.pending, .inProgress] (Row.attempted now) now

/-- **Record failure** of a pending or in-progress action. -/
def markFailure (id : ActionId) (now : Instant) : StoreM Unit :=
  transition id .failed [.pending, .inProgress] (Row.attempted now) now

/-- **Cancel** a pending or in-progress action. -/
def cancel (id : ActionId) (now : Instant) : StoreM Unit :=
  transition id .canceled [.pending, .inProgress] (fun r => r) now

/-- **Cancel every pending action** of a hook, arguments and group, where given; the number
canceled. -/
def cancelPending (hook : Option String) (args : Option Args) (group : Option String)
    (now : Instant) : StoreM Nat := do
  beginWrite
  rewrite
    (fun r => r.status == .pending && hook.all (· == r.hook) &&
      args.all (·.canonical == r.argsKey) && group.all (· == r.group))
    fun r => { r with status := .canceled, updatedAt := .ofInstant now }

end Store

end JobQueue
