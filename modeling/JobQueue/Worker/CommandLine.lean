import JobQueue.Cli.Parse
import JobQueue.Queue.Action

/-!
# The worker's command line

`actionq-worker [-c CONFIG] <COMMAND>` runs and inspects a queue:

* `run [--once]` works the queue: once, or until interrupted;
* `count-due` prints how many actions are due for the worker's filters;
* `process <ID>` executes one action, due or not;
* `enqueue <HOOK> [--args JSON] [--at TIME] [--every N | --cron EXPR [--timezone ZONE]]
  [--group G] [--priority P] [--unique]` adds an action;
* `status` prints how many actions are in each status.

The configuration file may be named before the command or after it; after wins.

* `program` — the grammar.
* `Request`, `Call` — what a command line asks for.
* `Call.ofMatches` — the request of a command line read by the grammar.
-/

namespace JobQueue.Worker

open Cli

/-- The options of `enqueue`. -/
def enqueueArgs : List Argument := [
  { id := "hook", positional := true, valueName := "HOOK", required := true },
  { id := "args", long := some "args", valueName := "ARGS", default := some "\x7b\x7d",
    help := "Arguments as a JSON object, or an array for positional arguments" },
  { id := "at", long := some "at", valueName := "AT", kind := .instant,
    help := "First run (RFC 3339); defaults to now" },
  { id := "every", long := some "every", valueName := "EVERY", kind := .integer wordMin wordMax,
    conflicts := ["cron"], help := "Repeat every N seconds" },
  { id := "cron", long := some "cron", valueName := "CRON",
    help := "Repeat on a 5-field cron expression" },
  { id := "timezone", long := some "timezone", valueName := "TIMEZONE", requires := ["cron"],
    help := "IANA timezone for --cron" },
  { id := "group", long := some "group", valueName := "GROUP", default := some "" },
  { id := "priority", long := some "priority", valueName := "PRIORITY", default := some "10",
    kind := .integer 0 255 },
  { id := "unique", long := some "unique", takesValue := false,
    help := "Skip if a matching action is already pending or running" }]

/-- The configuration file, an option of every command. -/
def configArg : Argument :=
  { id := "config", short := some 'c', long := some "config", valueName := "CONFIG",
    help := "Config file (defaults to $ACTIONQ_CONFIG, then ~/.actionq/actionq.toml)" }

/-- **The worker's command-line grammar.** -/
def program : Program where
  name := "actionq-worker"
  version := "0.2.2"
  about := "Run and inspect an actionq queue"
  globals := [configArg]
  commands := [
    { name := "run", about := "Work the queue until interrupted",
      args := [{ id := "once", long := some "once", takesValue := false,
                 help := "Process due actions once and exit" }] },
    { name := "count-due", about := "Print how many actions are due for this worker's filters" },
    { name := "process", about := "Execute one action by id, due or not",
      args := [{ id := "id", positional := true, valueName := "ID", required := true,
                 kind := .integer wordMin wordMax }] },
    { name := "enqueue", about := "Add an action to the queue", args := enqueueArgs },
    { name := "status", about := "Print action counts by status" }]

/-- **What to add to the queue.** -/
structure EnqueueRequest where
  hook : String
  /-- The arguments as JSON text, read only when the action is built. -/
  args : String := "\x7b\x7d"
  /-- The first run; now if not given. -/
  firstRun : Option Instant := none
  every : Option Int := none
  cron : Option String := none
  timezone : Option String := none
  group : String := ""
  priority : UInt8 := defaultPriority
  unique : Bool := false

/-- **What a command line asks the worker to do.** -/
inductive Request where
  /-- Work the queue: once, or until interrupted. -/
  | run (once : Bool)
  | countDue
  | process (id : Int)
  | enqueue (e : EnqueueRequest)
  | status

/-- **A call of the worker**: the configuration file named, if any, and the request. -/
structure Call where
  config : Option String
  request : Request

namespace Call

/-- The whole number a checked value holds. -/
def integer (v : String) : Int := (parseInteger v wordMin wordMax).toOption.getD 0

/-- **The call a command line makes**, from the values read by `program`. -/
def ofMatches (m : Matches) : Call :=
  let value := fun (id : String) => m.values.lookup id
  let flag := fun (id : String) => value id == some "true"
  let request := match m.command with
    | "run" => .run (flag "once")
    | "count-due" => .countDue
    | "process" => .process (integer ((value "id").getD "0"))
    | "enqueue" => .enqueue {
        hook := (value "hook").getD ""
        args := (value "args").getD "\x7b\x7d"
        firstRun := (value "at").bind fun t => (Instant.parse t).toOption
        every := (value "every").map integer
        cron := value "cron"
        timezone := value "timezone"
        group := (value "group").getD ""
        priority := ((value "priority").map fun p => (integer p).toNat.toUInt8).getD defaultPriority
        unique := flag "unique" }
    | _ => .status
  { config := value "config", request }

end Call

end JobQueue.Worker
