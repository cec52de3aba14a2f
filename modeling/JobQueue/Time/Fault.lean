/-!
# Faults of time arithmetic

Some steps of the schedules cannot fail gracefully: shifting an instant past either end of
the time line, or asking a zone for a calendar day that it skipped altogether. Such a step
aborts the whole computation, and the abort carries one of these causes.

* `TimeFault` — the causes, with `TimeFault.message` for their wording.
-/

namespace JobQueue

/-- **Why a time computation aborted.** -/
inductive TimeFault where
  /-- Adding a duration left the time line. -/
  | sumOverflow
  /-- Subtracting a duration left the time line. -/
  | differenceOverflow
  /-- A zone was asked for a calendar day that it skipped entirely. -/
  | noSuchLocalTime
  deriving DecidableEq, Repr

/-- The wording of each cause. -/
def TimeFault.message : TimeFault → String
  | .sumOverflow => "`DateTime + TimeDelta` overflowed"
  | .differenceOverflow => "`DateTime - TimeDelta` overflowed"
  | .noSuchLocalTime => "No such local time"

end JobQueue
