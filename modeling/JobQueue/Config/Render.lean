import JobQueue.Config.Basic
import JobQueue.Json.Value

/-!
# A configuration as JSON

Every section and every setting is written, defaults included, under the names the
configuration file uses.

* `QueueConfig.toJson` — the JSON form of a configuration.
-/

namespace JobQueue

open Json

/-- A count or duration. -/
def wordJson (n : Nat) : Value := .number (.natural n)

/-- A list of names. -/
def namesJson (xs : List String) : Value := .array (xs.map .string)

/-- **The JSON form of a configuration.** -/
def QueueConfig.toJson (c : QueueConfig) : Value :=
  .object [
    ("database", .object [
      ("path", .string c.database.path),
      ("busy_timeout_ms", wordJson c.database.busyTimeoutMs)]),
    ("runner", .object [
      ("batch_size", wordJson c.runner.batchSize),
      ("concurrent_batches", wordJson c.runner.concurrentBatches),
      ("time_limit_secs", wordJson c.runner.timeLimitSecs),
      ("poll_interval_secs", wordJson c.runner.pollIntervalSecs),
      ("workers", wordJson c.runner.workers),
      ("hooks", namesJson c.runner.hooks),
      ("groups", namesJson c.runner.groups),
      ("exclude_groups", namesJson c.runner.excludeGroups)]),
    ("failure", .object [("threshold", wordJson c.failure.threshold)]),
    ("cleanup", .object [
      ("interval_secs", wordJson c.cleanup.intervalSecs),
      ("retention_secs", wordJson c.cleanup.retentionSecs),
      ("claim_timeout_secs", wordJson c.cleanup.claimTimeoutSecs),
      ("failure_timeout_secs", wordJson c.cleanup.failureTimeoutSecs),
      ("batch_size", wordJson c.cleanup.batchSize)]),
    ("monitor", .object [
      ("past_due_secs", wordJson c.monitor.pastDueSecs),
      ("past_due_min", wordJson c.monitor.pastDueMin)]),
    ("schedule", .object [("timezone", .string c.schedule.timezone)])]

end JobQueue
