import JobQueue.Args
import JobQueue.Builtins
import JobQueue.Cli.Parse
import JobQueue.Cli.Similar
import JobQueue.Cli.Spec
import JobQueue.Config.Basic
import JobQueue.Config.Environment
import JobQueue.Config.Extract
import JobQueue.Config.Load
import JobQueue.Config.Render
import JobQueue.Config.Setting
import JobQueue.Cron.Pattern
import JobQueue.Cron.Search
import JobQueue.Cron.Spec
import JobQueue.Decimal.Binary
import JobQueue.Decimal.Double
import JobQueue.Decimal.Layout
import JobQueue.Decimal.Nearest
import JobQueue.Decimal.Reading
import JobQueue.Decimal.Shortest
import JobQueue.Hooks
import JobQueue.Housekeeping
import JobQueue.Json.Mismatch
import JobQueue.Json.Reader
import JobQueue.Json.Tagged
import JobQueue.Json.Value
import JobQueue.Json.Writer
import JobQueue.Main
import JobQueue.Proofs.Statement
import JobQueue.Proofs.Lifecycle
import JobQueue.Proofs.Stepwise
import JobQueue.Proofs.Operations
import JobQueue.Proofs.Interleaving
import JobQueue.Proofs.Dispatch
import JobQueue.Queue.Action
import JobQueue.Queue.Enqueue
import JobQueue.Queue.Error
import JobQueue.Queue.Row
import JobQueue.Queue.Stamp
import JobQueue.Queue.Status
import JobQueue.Runner
import JobQueue.Schedule.Basic
import JobQueue.Schedule.Encoding
import JobQueue.Store.Basic
import JobQueue.Store.Claims
import JobQueue.Store.Lifecycle
import JobQueue.Store.Listing
import JobQueue.Store.Locks
import JobQueue.Store.Upkeep
import JobQueue.Text.Blank
import JobQueue.Text.Escaped
import JobQueue.Text.Numeral
import JobQueue.Text.Printable
import JobQueue.Time.Fault
import JobQueue.Time.Instant
import JobQueue.Time.Rfc3339
import JobQueue.Time.Zone
import JobQueue.Time.Zone.Catalog
import JobQueue.Time.Zone.Table.Africa
import JobQueue.Time.Zone.Table.Aliases
import JobQueue.Time.Zone.Table.America
import JobQueue.Time.Zone.Table.Asia
import JobQueue.Time.Zone.Table.Australia
import JobQueue.Time.Zone.Table.Europe
import JobQueue.Time.Zone.Table.Ocean
import JobQueue.Time.Zone.Table.Other
import JobQueue.Time.Zone.Table.Pacific
import JobQueue.Toml.Document
import JobQueue.Toml.Numbers
import JobQueue.Toml.Scan
import JobQueue.Toml.Strings
import JobQueue.Toml.Table
import JobQueue.Toml.Value
import JobQueue.Work
import JobQueue.Worker.CommandLine
import JobQueue.Worker.DatabaseName
import JobQueue.Worker.Host
import JobQueue.Worker.Session
import JobQueue.Proofs.ClaimExclusivity
import JobQueue.Proofs.Calendar
import JobQueue.Proofs.StampOrder
import JobQueue.Proofs.Staking
import JobQueue.Proofs.StoredTime
import JobQueue.Proofs.Cadence
import JobQueue.Proofs.Successor
import JobQueue.Proofs.ClaimRows
import JobQueue.Proofs.Batches
import JobQueue.Proofs.StoppedRuns
import JobQueue.Proofs.ReadBack
import JobQueue.Proofs.Attempts
import JobQueue.Proofs.UniqueSaves
import JobQueue.Proofs.JsonText
import JobQueue.Proofs.Rounding
import JobQueue.Proofs.ShortestDigits
import JobQueue.Proofs.DoubleText
import JobQueue.Proofs.JsonData
import JobQueue.Proofs.ArgsText
import JobQueue.Proofs.LockExclusion
import JobQueue.Proofs.Unscheduling
import JobQueue.Proofs.OutstandingClaims
import JobQueue.Proofs.Recurrence
import JobQueue.Proofs.FailedCalls
import JobQueue.Proofs.StaleWork
import JobQueue.Proofs.InstantText
import JobQueue.Proofs.ScheduleText
import JobQueue.Proofs.HandlerOrder
import JobQueue.Proofs.ListingQueries
import JobQueue.Proofs.Numerals
import JobQueue.Proofs.WeekdayField
import JobQueue.Proofs.IntervalInput
import JobQueue.Proofs.CronRuns
