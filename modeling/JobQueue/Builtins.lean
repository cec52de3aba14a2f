import JobQueue.Hooks

/-!
# Built-in handlers

Two hooks every worker serves:

* `actionq.log` — succeeds, doing nothing else;
* `actionq.fail` — fails with the string argument `reason`, or "requested failure".
-/

namespace JobQueue

/-- The hook that succeeds. -/
def logHook : String := "actionq.log"

/-- The hook that fails on request. -/
def failHook : String := "actionq.fail"

/-- Why `actionq.fail` fails: the string argument `reason`, or a fixed text. -/
def failureReason (args : Args) : String :=
  match args.get? "reason" with
  | some (.string r) => r
  | _ => "requested failure"

/-- **Register the built-in handlers.** -/
def Registry.withBuiltins (r : Registry) : Registry :=
  (r.on logHook fun _ => pure (.ok ())).on failHook fun args =>
    pure (.error (.failed (failureReason args)))

end JobQueue
