import JobQueue.Work

/-!
# Hooks and their handlers

A *hook* is a name that actions run under; *handlers* registered for it do the work. The
registry keeps its handlers sorted by priority, lower first, and handlers of equal priority
in the order they were registered. Dispatching a hook runs its handlers in that order with
the action's arguments, and the first one that fails ends the dispatch with its error. A
hook without handlers dispatches successfully without doing anything.

* `HandlerError` — how a handler fails.
* `Handler`, `Registry` — handlers and the registry: `register`, `on`, `unregister`,
  `hasHandlers`, `dispatch`.
-/

namespace JobQueue

/-- **How a handler fails.** -/
inductive HandlerError where
  | failed (reason : String)
  | panicked (message : String)
  | invalidArgs (reason : String)
  deriving DecidableEq, Repr

/-- The wording of a handler failure. -/
def HandlerError.message : HandlerError → String
  | .failed r => "Handler failed: " ++ r
  | .panicked m => "Handler panicked: " ++ m
  | .invalidArgs r => "Invalid handler arguments: " ++ r

/-- **A handler**: a named piece of work for one hook. -/
structure Handler where
  name : String
  hook : String
  /-- Lower runs first. -/
  priority : Int := 10
  run : Args → Work (Except HandlerError Unit)

/-- **The registry of handlers**, in dispatch order. -/
structure Registry where
  handlers : List Handler := []

namespace Registry

/-- **Register a handler**: after every handler of lower or equal priority. -/
def register (r : Registry) (h : Handler) : Registry :=
  ⟨(r.handlers ++ [h]).mergeSort fun a b => a.priority ≤ b.priority⟩

/-- Register `run` for `hook`, named after the hook, at the default priority. -/
def on (r : Registry) (hook : String) (run : Args → Work (Except HandlerError Unit)) :
    Registry :=
  r.register { name := hook, hook, run }

/-- **Remove every handler with the name.** -/
def unregister (r : Registry) (name : String) : Registry :=
  ⟨r.handlers.filter (·.name != name)⟩

/-- Whether any handler serves the hook. -/
def hasHandlers (r : Registry) (hook : String) : Bool :=
  r.handlers.any (·.hook == hook)

/-- The handlers of a hook, in dispatch order. -/
def serving (r : Registry) (hook : String) : List Handler :=
  r.handlers.filter (·.hook == hook)

/-- Run handlers in order until one fails. -/
def runAll (args : Args) : List Handler → Work (Except HandlerError Unit)
  | [] => pure (.ok ())
  | h :: rest => do
    match ← h.run args with
    | .ok () => runAll args rest
    | .error e => pure (.error e)

/-- **Dispatch a hook**: run its handlers in order; the first failure ends the dispatch. -/
def dispatch (r : Registry) (hook : String) (args : Args) : Work (Except HandlerError Unit) :=
  runAll args (r.serving hook)

/-- **Dispatch a hook, turning a panic into a handler failure**; what the handlers changed
before the panic stays. -/
def dispatchGuarded (r : Registry) (hook : String) (args : Args) :
    Work (Except HandlerError Unit) :=
  tryCatch (r.dispatch hook args) fun p => pure (.error (.panicked p.message))

end Registry

end JobQueue
