import JobQueue.Queue.Action

/-!
# Queue configuration

The settings of a queue deployment, section by section, with their defaults. Counts and
durations are machine words (unsigned, below 2^64); durations are in seconds unless their
name says otherwise.

| section | settings (defaults) |
|---|---|
| `database` | path (`$HOME/.actionq/actionq.db`), busy timeout (5000 ms) |
| `runner` | batch size (25), concurrent batches (1), time limit (30), poll interval (5), workers (1), hooks, groups, excluded groups (none) |
| `failure` | threshold (5) |
| `cleanup` | interval (3600), retention (30 days), claim timeout (300), failure timeout (300), batch size (20) |
| `monitor` | past-due age (86400), past-due minimum (1) |
| `schedule` | time zone of cron expressions given without one (`UTC`) |
-/

namespace JobQueue

/-- Where the database lives and how long a writer waits for its lock. -/
structure DatabaseConfig where
  path : String
  busyTimeoutMs : Nat := 5000

/-- How runners claim and execute work. -/
structure RunnerConfig where
  batchSize : Nat := 25
  /-- The most claims outstanding at once, over all runners of the database. -/
  concurrentBatches : Nat := 1
  timeLimitSecs : Nat := 30
  pollIntervalSecs : Nat := 5
  workers : Nat := 1
  hooks : List String := []
  groups : List String := []
  excludeGroups : List String := []

/-- The claim filter of a runner's settings. -/
def RunnerConfig.filter (r : RunnerConfig) : ClaimFilter :=
  { hooks := r.hooks, groups := r.groups, excludeGroups := r.excludeGroups }

/-- When a recurring hook counts as failing: after this many failures in a row (0: never). -/
structure FailureConfig where
  threshold : Nat := 5

/-- Housekeeping: how often, and what counts as stale or old. -/
structure CleanupConfig where
  intervalSecs : Nat := 3600
  retentionSecs : Nat := 2592000
  claimTimeoutSecs : Nat := 300
  failureTimeoutSecs : Nat := 300
  batchSize : Nat := 20

/-- When pending work counts as past due, and how much of it is alarming. -/
structure MonitorConfig where
  pastDueSecs : Nat := 86400
  pastDueMin : Nat := 1

/-- Scheduling defaults. -/
structure ScheduleConfig where
  timezone : String := "UTC"

/-- **The configuration of a queue.** -/
structure QueueConfig where
  database : DatabaseConfig
  runner : RunnerConfig := {}
  failure : FailureConfig := {}
  cleanup : CleanupConfig := {}
  monitor : MonitorConfig := {}
  schedule : ScheduleConfig := {}

/-- The database file under a home directory. -/
def DatabaseConfig.ofHome (home : String) : DatabaseConfig :=
  { path := home ++ "/.actionq/actionq.db" }

/-- The defaults, for a home directory. -/
def QueueConfig.ofHome (home : String) : QueueConfig :=
  { database := .ofHome home }

end JobQueue
