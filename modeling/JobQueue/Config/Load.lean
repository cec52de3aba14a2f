import JobQueue.Config.Environment
import JobQueue.Config.Extract
import JobQueue.Toml.Document

/-!
# Loading a configuration

A queue's configuration is layered from three sources, later over earlier:

1. the defaults (`QueueConfig.ofHome`);
2. a TOML file, if there is one; a file that is not valid TOML is an error;
3. environment variables with the prefix `ACTIONQ_`, such as `ACTIONQ_RUNNER__BATCH_SIZE`.

TOML values become settings as they are; a date-time becomes a table, so that it is never
taken for a text.

* `Toml.Value.toSetting` — a TOML value as a setting.
* `QueueConfig.load` — the configuration of a home directory, a TOML file and an environment.
* `SetupError` — why a worker could not start, with its message.
-/

namespace JobQueue

/-- The prefix of the environment variables of a configuration. -/
def environmentPrefix : String := "ACTIONQ_"

/-- The key under which a date-time's text is kept. -/
def dateTimeKey : String := "$__toml_private_datetime"

mutual

/-- **A TOML value as a setting** from `origin`. -/
def Toml.Value.toSetting (origin : Origin) : Toml.Value → Setting
  | .string s => .scalar origin (.text s)
  | .integer i => .scalar origin (.signed i)
  | .float f => .scalar origin (.float f)
  | .boolean b => .scalar origin (.bool b)
  | .dateTime t => .table origin [(dateTimeKey, .scalar origin (.text t))]
  | .array items => .list origin (Toml.Value.listToSetting origin items)
  | .table entries => .table origin (Toml.Value.entriesToSetting origin entries)

/-- TOML items as settings. -/
def Toml.Value.listToSetting (origin : Origin) : List Toml.Value → List Setting
  | [] => []
  | v :: rest => v.toSetting origin :: Toml.Value.listToSetting origin rest

/-- TOML entries as settings. -/
def Toml.Value.entriesToSetting (origin : Origin) :
    List (String × Toml.Value) → List (String × Setting)
  | [] => []
  | (k, v) :: rest => (k, v.toSetting origin) :: Toml.Value.entriesToSetting origin rest

end

/-- **The settings of a TOML file** named `name`, or why it could not be read. -/
def fileSettings (name text : String) : Except ConfigError Setting :=
  let origin := Origin.file name
  match Toml.read text with
  | .ok v => .ok (v.toSetting origin)
  | .error f => .error { problem := .unreadable (f.render text), origin := some origin }

/-- **Load a configuration**: the defaults of `home`, then the TOML file `file` (its name and
text) if there is one, then the environment variables `env` with the prefix. -/
def QueueConfig.load (home : String) (file : Option (String × String))
    (env : List (String × String)) : Except ConfigError QueueConfig := do
  let fromFile ← match file with
    | some (name, text) => fileSettings name text
    | none => pure (.table (.file "") [])
  let fromEnvironment := Environment.settings environmentPrefix env
  QueueConfig.ofSetting home (fromFile.merge fromEnvironment)

/-- **Why a worker could not set up its configuration.** -/
inductive SetupError where
  | config (e : ConfigError)
  /-- The file system refused, with the system's description. -/
  | io (detail : String)

/-- The stable code of a setup error. -/
def SetupError.code : SetupError → String
  | .config _ => "CONFIG_ERROR"
  | .io _ => "IO_ERROR"

/-- The wording of a setup error. -/
def SetupError.message : SetupError → String
  | .config e => "Configuration error: " ++ e.message
  | .io d => "I/O error: " ++ d

end JobQueue
