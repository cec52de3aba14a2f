import JobQueue.Config.Basic
import JobQueue.Config.Setting

/-!
# From settings to a configuration

The settings gathered from all sources are read into a `QueueConfig`, section by section and
setting by setting. A setting not given keeps its default, and names that no section or
setting has are ignored. A section, or the whole configuration, may also be given as a list:
its settings are then taken in the order they are declared, and those the list is too short
for keep their defaults.

The settings of a table are read in the order of their names, and the first one of the
wrong kind is reported: what was found, what was expected, the key, and its source.

* `ConfigError`, `ConfigError.message` — a setting that could not be read.
* `QueueConfig.ofSetting` — the configuration of gathered settings.
-/

namespace JobQueue

/-- What was wrong with a setting. -/
inductive Problem where
  /-- A setting of the wrong kind. -/
  | invalidType (found expected : String)
  /-- A setting of the right kind but out of range. -/
  | invalidValue (found expected : String)
  /-- A source could not be read at all. -/
  | unreadable (detail : String)

/-- The wording of a problem. -/
def Problem.message : Problem → String
  | .invalidType found expected => "invalid type: found " ++ found ++ ", expected " ++ expected
  | .invalidValue found expected => "invalid value " ++ found ++ ", expected " ++ expected
  | .unreadable detail => detail

/-- **A setting that could not be read**, under its key, from its source. -/
structure ConfigError where
  problem : Problem
  /-- The names leading to the setting. -/
  path : List String := []
  origin : Option Origin := none

/-- **The wording of a configuration error**: the problem, the key as the source names it,
and the source. -/
def ConfigError.message (e : ConfigError) : String :=
  let key := match e.origin, e.path with
    | some o, _ :: _ => " for key " ++ Text.escapedLiteral (o.keyName e.path)
    | _, _ => ""
  let source := match e.origin with
    | some o => " in " ++ o.describe
    | none => ""
  e.problem.message ++ key ++ source

/-- Reading a setting. -/
abbrev Extract := Except ConfigError

namespace Extract

/-- A setting of the wrong kind. -/
def mismatch {α : Type} (s : Setting) (expected : String) : Extract α :=
  .error { problem := .invalidType s.describe expected, origin := some s.origin }

/-- **A machine word**, unsigned, below 2^64, named `expected` (`u64`, `usize`). -/
def word (expected : String) (s : Setting) : Extract Nat :=
  match s with
  | .scalar _ (.unsigned n) =>
    if n < wordBound then .ok n else mismatch s expected
  | .scalar o (.signed i) =>
    if 0 ≤ i then .ok i.toNat
    else .error { problem := .invalidValue s.describe expected, origin := some o }
  | _ => mismatch s expected

/-- **A text.** -/
def text (s : Setting) : Extract String :=
  match s with
  | .scalar _ (.text t) => .ok t
  | .scalar _ (.char c) => .ok (String.singleton c)
  | _ => mismatch s "a string"

/-- **A list of texts.** -/
def texts (s : Setting) : Extract (List String) :=
  match s with
  | .list _ items => items.mapM text
  | _ => mismatch s "a sequence"

/-- The setting under `key` could not be read: the key goes in front of the path. -/
def under {α : Type} (key : String) (d : Extract α) : Extract α :=
  d.mapError fun e => { e with path := key :: e.path }

/-- **A record** named `name` with the settings `fields` (in declared order), read into
`init` by `field`. -/
def record {α : Type} (name : String) (fields : List String)
    (field : String → Setting → α → Extract α) (init : α) (s : Setting) : Extract α :=
  match s with
  | .table _ entries =>
    let known := (entries.filter (fields.contains ·.1)).mergeSort (fun a b => a.1 ≤ b.1)
    known.foldlM (fun acc (k, v) => under k (field k v acc)) init
  | .list _ items => (fields.zip items).foldlM (fun acc (k, v) => field k v acc) init
  | _ => mismatch s ("struct " ++ name)

end Extract

open Extract

/-- The database section. -/
def DatabaseConfig.decode (init : DatabaseConfig) : Setting → Extract DatabaseConfig :=
  record "DatabaseConfig" ["path", "busy_timeout_ms"] (fun k v c =>
    match k with
    | "path" => return { c with path := ← text v }
    | _ => return { c with busyTimeoutMs := ← word "u64" v }) init

/-- The runner section. -/
def RunnerConfig.decode : Setting → Extract RunnerConfig :=
  record "RunnerConfig" ["batch_size", "concurrent_batches", "time_limit_secs",
    "poll_interval_secs", "workers", "hooks", "groups", "exclude_groups"] (fun k v c =>
    match k with
    | "batch_size" => return { c with batchSize := ← word "usize" v }
    | "concurrent_batches" => return { c with concurrentBatches := ← word "usize" v }
    | "time_limit_secs" => return { c with timeLimitSecs := ← word "u64" v }
    | "poll_interval_secs" => return { c with pollIntervalSecs := ← word "u64" v }
    | "workers" => return { c with workers := ← word "usize" v }
    | "hooks" => return { c with hooks := ← texts v }
    | "groups" => return { c with groups := ← texts v }
    | _ => return { c with excludeGroups := ← texts v }) {}

/-- The failure section. -/
def FailureConfig.decode : Setting → Extract FailureConfig :=
  record "FailureConfig" ["threshold"] (fun _ v _ => return { threshold := ← word "usize" v }) {}

/-- The cleanup section. -/
def CleanupConfig.decode : Setting → Extract CleanupConfig :=
  record "CleanupConfig" ["interval_secs", "retention_secs", "claim_timeout_secs",
    "failure_timeout_secs", "batch_size"] (fun k v c =>
    match k with
    | "interval_secs" => return { c with intervalSecs := ← word "u64" v }
    | "retention_secs" => return { c with retentionSecs := ← word "u64" v }
    | "claim_timeout_secs" => return { c with claimTimeoutSecs := ← word "u64" v }
    | "failure_timeout_secs" => return { c with failureTimeoutSecs := ← word "u64" v }
    | _ => return { c with batchSize := ← word "usize" v }) {}

/-- The monitor section. -/
def MonitorConfig.decode : Setting → Extract MonitorConfig :=
  record "MonitorConfig" ["past_due_secs", "past_due_min"] (fun k v c =>
    match k with
    | "past_due_secs" => return { c with pastDueSecs := ← word "u64" v }
    | _ => return { c with pastDueMin := ← word "u64" v }) {}

/-- The schedule section. -/
def ScheduleConfig.decode : Setting → Extract ScheduleConfig :=
  record "ScheduleConfig" ["timezone"] (fun _ v _ => return { timezone := ← text v }) {}

/-- **The configuration of gathered settings**, with the defaults of a home directory. -/
def QueueConfig.ofSetting (home : String) : Setting → Extract QueueConfig :=
  record "QueueConfig" ["database", "runner", "failure", "cleanup", "monitor", "schedule"]
    (fun k v c =>
      match k with
      | "database" => return { c with database := ← DatabaseConfig.decode (.ofHome home) v }
      | "runner" => return { c with runner := ← RunnerConfig.decode v }
      | "failure" => return { c with failure := ← FailureConfig.decode v }
      | "cleanup" => return { c with cleanup := ← CleanupConfig.decode v }
      | "monitor" => return { c with monitor := ← MonitorConfig.decode v }
      | _ => return { c with schedule := ← ScheduleConfig.decode v })
    (QueueConfig.ofHome home)

end JobQueue
