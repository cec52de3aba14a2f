import JobQueue.Worker.CommandLine
import JobQueue.Worker.Host
import JobQueue.Config.Load
import JobQueue.Runner
import JobQueue.Builtins
import JobQueue.Housekeeping
import JobQueue.Queue.Enqueue

/-!
# Running the worker

One run of the worker reads its command line, then its configuration, then does what the
command asks on the machine, and exits with a status and what it wrote.

**The command line.** Help and the version are written to standard output with status 0;
a refused command line, and help shown because nothing was given, go to standard error with
status 2.

**The configuration** is read from the file named on the command line, else by
`ACTIONQ_CONFIG`, else `~/.actionq/actionq.toml`; a missing file counts as empty, and the
`ACTIONQ_` variables apply on top. A configuration that cannot be loaded is replaced, as a
whole, by the defaults. Then the directory of the database is made.

**Commands.**

* `run --once` runs the queue once: `processed N action(s)`.
* `run` serves: every runner (at least one) runs the queue at once, the housekeeper takes its
  tick, and a runner polling every second runs the queue once more before it is stopped;
  serving writes nothing.
* `count-due` writes how many actions are due for the runner's filters.
* `process <ID>` processes one action and writes what came of it, then its successor if any.
* `enqueue` opens the database, checks the configured time zone, reads the arguments, and
  enqueues: recurring with `--every`, else by `--cron`, else once at `--at`, else now;
  `enqueued action N`, or that a matching action is already queued.
* `status` writes the number of actions in each status that has any.

**Failures** are written as `Error: ` and the message, then the chain of causes; the status
is 1. A panic ends the run with status 101.

* `Exit`, `Failure` — how a run ends.
* `Host.invoke` — one run of the worker on a machine.
-/

namespace JobQueue.Worker

/-- **How a run of the worker ends**: its status and what it wrote. -/
structure Exit where
  code : Nat
  stdout : String := ""
  stderr : String := ""

/-- **Why a run failed.** -/
inductive Failure where
  /-- An error with the chain of its causes, outermost first. -/
  | error (message : String) (causes : List String)
  | panic (message : String)

namespace Failure

/-- A queue error. -/
def ofQueue (e : QueueError) : Failure := .error e.message []

/-- The causes of an error, as listed under it. -/
def causeLines : List String → String
  | [] => ""
  | [c] => "\n\nCaused by:\n    " ++ c
  | cs => "\n\nCaused by:" ++ String.join
      ((List.range cs.length).zip cs |>.map fun (i, c) => "\n    " ++ toString i ++ ": " ++ c)

/-- **The exit of a failure.** -/
def exit : Failure → Exit
  | .error m cs => { code := 1, stderr := "Error: " ++ m ++ causeLines cs ++ "\n" }
  | .panic m => { code := 101, stderr := "thread 'main' panicked:\n" ++ m ++ "\n" }

end Failure

/-- **The exit of a command line that was not run.** -/
def stopExit : Cli.Stop → Exit
  | .help t => { code := 0, stdout := t }
  | .version t => { code := 0, stdout := t }
  | .unaskedHelp t => { code := 2, stderr := t }
  | .refused e => { code := 2, stderr := e.render }

/-- Work on the machine, which may fail; the machine keeps what was done before a failure. -/
abbrev Command := EStateM Failure Host

/-- **Open the database at `path`.** -/
def openAt (path : String) : Command (Host.Place × Store) := do
  match (← get).openStore path with
  | .ok (h, place, s) => set h; pure (place, s)
  | .error f => throw (.error ("opening " ++ path) (f.chain path))

/-- Run a job on an open database at `clock`; the database keeps its changes. -/
def onStore {α : Type} (db : Host.Place × Store) (clock : Instant) (j : Job α) :
    Command (Except Panic (Except QueueError α)) := do
  let (result, s) := match j.run.run { store := db.2, clock } with
    | .ok r w => (Except.ok r, w.store)
    | .error p w => (.error p, w.store)
  modify fun h => h.keep db.1 s
  pure result

/-- Run a job whose failure ends the run. -/
def job {α : Type} (db : Host.Place × Store) (clock : Instant) (j : Job α) : Command α := do
  match ← onStore db clock j with
  | .ok (.ok a) => pure a
  | .ok (.error e) => throw (.ofQueue e)
  | .error p => throw (.panic p.message)

/-- The worker's runner under a configuration, with the built-in handlers. -/
def runnerOf (c : QueueConfig) : Runner :=
  { registry := ({} : Registry).withBuiltins, config := c.runner,
    failureThreshold := c.failure.threshold }

/-- The line of a processed action. -/
def outcomeLine (id : Int) : Outcome → String
  | .completed => s!"action {id} completed"
  | .failed e => s!"action {id} failed: " ++ e.message
  | .skipped st => s!"action {id} skipped (" ++ st.text ++ ")"
  | .interrupted st => s!"action {id} interrupted (" ++ st.text ++ ")"

/-- Lines of output. -/
def lines (ls : List String) : String := String.join (ls.map (· ++ "\n"))

/-- The database at a place as it stands now; a private one is empty for each connection. -/
def reopen (db : Host.Place × Store) : Command (Host.Place × Store) := do
  match db.1 with
  | .scratch => pure (.scratch, {})
  | .at ps readOnly =>
    match (← get).node? ps with
    | some (.database s) => pure (.at ps readOnly, { s with readOnly })
    | _ => pure db

/-- **Serve**: every runner runs the queue, the housekeeper takes its tick, and runners
polling every second run once more. Failures of the runs are only logged. -/
def serve (c : QueueConfig) (clock : Instant) : Command Unit := do
  let db ← openAt c.database.path
  let runners := max 1 c.runner.workers
  let rounds := if max 1 c.runner.pollIntervalSecs == 1 then 2 else 1
  for round in List.range rounds do
    for _ in List.range runners do
      let _ ← onStore (← reopen db) clock (runnerOf c).run
    if round == 0 then
      let _ ← onStore (← reopen db) clock (Job.store (Store.housekeep c clock))

/-- **Enqueue** as asked, on an open database. -/
def enqueue (c : QueueConfig) (clock : Instant) (e : EnqueueRequest) : Command String := do
  let db ← openAt c.database.path
  let q ← match ActionQueue.ofZoneName c.schedule.timezone with
    | .ok q => pure q
    | .error err => throw (.ofQueue err)
  let args ← match Args.ofJson e.args with
    | .ok a => pure a
    | .error err => throw (.error "--args must be JSON" [err.text])
  let o : EnqueueOptions := { group := e.group, priority := e.priority, unique := e.unique }
  let first := e.firstRun.getD clock
  let j := match e.every, e.cron with
    | some secs, _ => ActionQueue.scheduleRecurring first secs e.hook args o
    | none, some expr => q.scheduleCron first expr e.timezone e.hook args o
    | none, none =>
      if e.firstRun.isSome then ActionQueue.scheduleSingle first e.hook args o
      else ActionQueue.enqueueAsync e.hook args o
  match ← job db clock j with
  | some id => pure (lines [s!"enqueued action {id.val}"])
  | none => pure (lines ["skipped: a matching action is already queued"])

/-- **Do what a request asks**; what it writes to standard output. -/
def perform (c : QueueConfig) (clock : Instant) : Request → Command String
  | .run true => do
    let db ← openAt c.database.path
    let n ← job db clock (runnerOf c).run
    pure (lines [s!"processed {n} action(s)"])
  | .run false => do
    serve c clock
    pure ""
  | .countDue => do
    let db ← openAt c.database.path
    pure (lines [toString (← job db clock (runnerOf c).countDue)])
  | .process id => do
    let db ← openAt c.database.path
    let report ← job db clock ((runnerOf c).process ⟨id⟩)
    let next := report.successor.toList.map fun n => s!"next occurrence: action {n.val}"
    pure (lines (outcomeLine id report.outcome :: next))
  | .enqueue e => enqueue c clock e
  | .status => do
    let db ← openAt c.database.path
    let counts ← job db clock (Job.store Store.statusCounts)
    pure (lines (counts.map fun (st, n) => st.text ++ " " ++ toString n))

/-- **The configuration of a call**: from its file and the environment, or the defaults if
it cannot be loaded. -/
def configOf (h : Host) (env : List (String × String)) (call : Call) : QueueConfig :=
  let home := (env.lookup "HOME").getD "."
  let path := (call.config <|> env.lookup "ACTIONQ_CONFIG").getD (home ++ "/.actionq/actionq.toml")
  let loaded := match h.configText path with
    | none => QueueConfig.load home none env
    | some (.ok text) => QueueConfig.load home (some (path, text)) env
    | some (.error ()) => .error { problem := .unreadable "stream did not contain valid UTF-8" }
  match loaded with
  | .ok c => c
  | .error _ => QueueConfig.ofHome home

/-- **One run of the worker** with the environment `env` and the command-line words `words`
at `clock`: the machine afterwards, and how the run ended. -/
def Host.invoke (h : Host) (clock : Instant) (env : List (String × String))
    (words : List String) : Host × Exit :=
  match Worker.program.read words with
  | .error stop => (h, stopExit stop)
  | .ok m =>
    let call := Call.ofMatches m
    let c := configOf h env call
    let work : Command String := do
      match (← get).makeParent c.database.path with
      | .ok h' => set h'
      | .error d => throw (.error ("I/O error: " ++ d) [d])
      perform c clock call.request
    match work.run h with
    | .ok out h' => (h', { code := 0, stdout := out })
    | .error f h' => (h', f.exit)

end JobQueue.Worker
