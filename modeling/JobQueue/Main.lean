import JobQueue.Worker.Session
import Std.Time

/-!
# The worker's command line

`actionq-worker` reads its words, the environment variables it knows (`HOME`,
`ACTIONQ_CONFIG` and the `ACTIONQ_` setting variables) and its configuration file, and runs
the worker once. The queue lives in memory for the run: it starts empty, and the database
path only decides whether the worker may open it.
-/

namespace JobQueue.Worker

/-- The setting variables the worker reads, one per setting of the configuration. -/
def settingVariables : List String :=
  let keys := [("DATABASE", ["PATH", "BUSY_TIMEOUT_MS"]),
    ("RUNNER", ["BATCH_SIZE", "CONCURRENT_BATCHES", "TIME_LIMIT_SECS", "POLL_INTERVAL_SECS",
      "WORKERS", "HOOKS", "GROUPS", "EXCLUDE_GROUPS"]),
    ("FAILURE", ["THRESHOLD"]),
    ("CLEANUP", ["INTERVAL_SECS", "RETENTION_SECS", "CLAIM_TIMEOUT_SECS", "FAILURE_TIMEOUT_SECS",
      "BATCH_SIZE"]),
    ("MONITOR", ["PAST_DUE_SECS", "PAST_DUE_MIN"]),
    ("SCHEDULE", ["TIMEZONE"])]
  keys.flatMap fun (section_, fields) => fields.map fun f => "ACTIONQ_" ++ section_ ++ "__" ++ f

/-- The variables of the environment the worker reads, as set. -/
def readEnvironment : IO (List (String × String)) := do
  let names := ["HOME", "ACTIONQ_CONFIG"] ++ settingVariables
  names.filterMapM fun n => do
    match ← IO.getEnv n with
    | some v => pure (some (n, v))
    | none => pure none

/-- The machine as far as the worker sees it: its working directory, the directory of the
database, and the configuration file if it can be read. -/
def readHost (env : List (String × String)) : IO Host := do
  let home := (env.lookup "HOME").getD "."
  let path := (env.lookup "ACTIONQ_CONFIG").getD (home ++ "/.actionq/actionq.toml")
  let host : Host := { entries := [], cwd := home }
  let host := host.write home .directory
  try
    let text ← IO.FS.readFile path
    pure (host.write path (.file text))
  catch _ =>
    pure host

end JobQueue.Worker

/-- Run the worker once on its words. -/
def main (args : List String) : IO UInt32 := do
  let env ← JobQueue.Worker.readEnvironment
  let host ← JobQueue.Worker.readHost env
  let seconds := (← Std.Time.Timestamp.now).toSecondsSinceUnixEpoch.val
  let (_, exit) := host.invoke (JobQueue.Instant.ofSeconds seconds) env args
  IO.print exit.stdout
  IO.eprint exit.stderr
  return exit.code.toUInt32
