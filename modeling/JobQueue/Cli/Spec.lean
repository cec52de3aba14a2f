import JobQueue.Text.Numeral
import JobQueue.Time.Rfc3339

/-!
# The grammar of a command line

A program is driven by a command line: options shared by all its commands (*globals*), then a
command, then the command's own options and positional arguments. Every command also takes
`-h`/`--help`; the program takes `-V`/`--version`, and a `help` command that shows the help of
another.

An argument is an option with a value (`--name <NAME>`, maybe also `-n`), a flag
(`--name`), or a positional argument (`<NAME>`). Each value is checked by its kind: any
text, a whole number within a range, or an RFC 3339 timestamp.

The help of a command lists its commands, positional arguments and options in columns. Options
are listed in the order they were declared (a global one counting as declared first), ties
broken by their short or long name; help and version come last.

* `Argument`, `Command`, `Program` — the grammar.
* `ValueKind.refusal` — why a value is refused.
* `Program.help`, `Program.commandHelp`, `Program.usage` — help texts and usage lines.
-/

namespace JobQueue.Cli

/-- What a value must be. -/
inductive ValueKind where
  | text
  /-- A whole number, read as a signed 64-bit word, then within `lo..=hi`. -/
  | integer (lo hi : Int)
  /-- An RFC 3339 timestamp. -/
  | instant

/-- **Why a value is refused**, if it is: the value as the refusal shows it, and the reason. -/
def ValueKind.refusal : ValueKind → String → Option (String × String)
  | .text, _ => none
  | .integer lo hi, s =>
    match parseInteger s wordMin wordMax with
    | .error e => some (s, e.message)
    | .ok n =>
      if lo ≤ n && n ≤ hi then none
      else some (toString n, toString n ++ " is not in " ++ toString lo ++ "..=" ++ toString hi)
  | .instant, s =>
    match Instant.parse s with
    | .error e => some (s, e.message)
    | .ok _ => none

/-- **An argument** of a command. -/
structure Argument where
  /-- The name under which its value is found. -/
  id : String
  short : Option Char := none
  long : Option String := none
  /-- Whether it stands by position rather than after a name. -/
  positional : Bool := false
  /-- Whether it takes a value (options and positional arguments) or not (flags). -/
  takesValue : Bool := true
  /-- The name of its value in help texts. -/
  valueName : String := ""
  help : String := ""
  default : Option String := none
  required : Bool := false
  kind : ValueKind := .text
  /-- Arguments it may not be given with. -/
  conflicts : List String := []
  /-- Arguments it needs. -/
  requires : List String := []
  /-- Its place among the options in help texts. -/
  order : Nat := 999

namespace Argument

/-- How messages name an argument: `--name <NAME>`, `--flag`, `<NAME>`. -/
def display (a : Argument) : String :=
  if a.positional then "<" ++ a.valueName ++ ">"
  else
    let name := match a.long, a.short with
      | some l, _ => "--" ++ l
      | none, some s => "-" ++ String.singleton s
      | none, none => a.id
    if a.takesValue then name ++ " <" ++ a.valueName ++ ">" else name

/-- The key by which options of one place are ordered: a short name (lower case first),
else the long name. -/
def sortKey (a : Argument) : Nat × String :=
  match a.short, a.long with
  | some s, _ => (a.order, String.singleton s.toLower ++ (if s.isLower then "0" else "1"))
  | none, some l => (a.order, l)
  | none, none => (a.order, "\x7b" ++ a.id)

/-- The text of a default value in help: quoted if empty or holding blanks. -/
def defaultText (v : String) : String :=
  if v.isEmpty || v.any Char.isWhitespace then "\"" ++ v ++ "\"" else v

/-- The help of an argument with its default. -/
def helpText (a : Argument) : String :=
  match a.default with
  | none => a.help
  | some d =>
    let spec := "[default: " ++ defaultText d ++ "]"
    if a.help.isEmpty then spec else a.help ++ " " ++ spec

end Argument

/-- **A command** of a program. -/
structure Command where
  name : String
  about : String
  args : List Argument := []

/-- **A program**: its commands and the options they share. -/
structure Program where
  name : String
  version : String
  about : String
  globals : List Argument
  commands : List Command

/-- The help flag. -/
def helpFlag : Argument :=
  { id := "help", short := some 'h', long := some "help", takesValue := false, help := "Print help" }

/-- The version flag. -/
def versionFlag : Argument :=
  { id := "version", short := some 'V', long := some "version", takesValue := false,
    help := "Print version" }

/-- The command that shows help. -/
def helpCommand : Command :=
  { name := "help", about := "Print this message or the help of the given subcommand(s)" }

/-- Spaces. -/
def spaces (n : Nat) : String := String.ofList (List.replicate n ' ')

/-- Number the options of a list in order, from `start`. -/
def numberOptions (start : Nat) (args : List Argument) : List Argument :=
  let rec go : Nat → List Argument → List Argument
    | _, [] => []
    | n, a :: rest =>
      if a.positional then a :: go n rest else { a with order := n } :: go (n + 1) rest
  go start args

namespace Program

/-- The commands, the help command last. -/
def allCommands (p : Program) : List Command := p.commands ++ [helpCommand]

/-- The names of the commands. -/
def commandNames (p : Program) : List String := p.allCommands.map (·.name)

/-- The command of a name. -/
def command? (p : Program) (name : String) : Option Command :=
  p.allCommands.find? (·.name == name)

/-- The arguments of the program itself. -/
def topArgs (p : Program) : List Argument :=
  numberOptions 0 p.globals ++ [helpFlag, versionFlag]

/-- The arguments of a command: its own, the globals, and help; the help command takes only
the names of commands. -/
def commandArgs (p : Program) (c : Command) : List Argument :=
  if c.name == "help" then []
  else numberOptions 0 c.args ++ numberOptions 0 p.globals ++ [helpFlag]

/-- The name a command is shown with. -/
def commandPath (p : Program) (c : Command) : String := p.name ++ " " ++ c.name

end Program

/-- Lines of two columns: the left texts padded to one width plus two. -/
def columns (rows : List (String × String)) : List String :=
  let width := rows.foldl (fun m r => max m r.1.length) 0
  rows.map fun (l, r) => l ++ spaces (width + 2 - l.length) ++ r

/-- The listing of options: `-s, --long <V>` or `    --long <V>`, then the help. -/
def optionLines (args : List Argument) : List String :=
  let options := (args.filter (!·.positional)).mergeSort fun a b =>
    let (oa, ka) := a.sortKey
    let (ob, kb) := b.sortKey
    oa < ob || (oa == ob && ka ≤ kb)
  let width := options.foldl (fun m a => max m a.display.length) 2
  options.map fun a =>
    let lead := match a.short with
      | some s => "-" ++ String.singleton s ++ (if a.long.isSome then ", " else "")
      | none => "    "
    let name := match a.long with
      | some l => "--" ++ l ++ (if a.takesValue then " <" ++ a.valueName ++ ">" else "")
      | none => if a.takesValue then " <" ++ a.valueName ++ ">" else ""
    "  " ++ lead ++ name ++ spaces (width + 2 - a.display.length) ++ a.helpText

/-- The listing of positional arguments. -/
def positionalLines (args : List Argument) : List String :=
  (columns ((args.filter (·.positional)).map fun a => (a.display, a.helpText))).map ("  " ++ ·)

/-- A titled section of a help text, if it has lines. -/
def titled (title : String) (lines : List String) : List String :=
  if lines.isEmpty then [] else [title ++ ":\n" ++ "\n".intercalate lines]

/-- The usage of a command without context: its name, `[OPTIONS]`, its required positional
arguments, and `<COMMAND>` if it has commands. -/
def plainUsage (name : String) (args : List Argument) (hasCommands : Bool) : String :=
  let opts := if args.any (!·.positional) then " [OPTIONS]" else ""
  let pos := (args.filter fun a => a.positional && a.required).map fun a => " " ++ a.display
  let cmd := if hasCommands then " <COMMAND>" else ""
  name ++ opts ++ String.join pos ++ cmd

namespace Program

/-- **The usage line of the program.** -/
def usage (p : Program) : String := plainUsage p.name p.topArgs true

/-- **The usage line of a command.** -/
def commandUsage (p : Program) (c : Command) : String :=
  if c.name == "help" then p.commandPath c ++ " [COMMAND]..."
  else plainUsage (p.commandPath c) (p.commandArgs c) false

/-- Assemble a help text from its about line, usage and sections. -/
def helpText (about usage : String) (sections : List String) : String :=
  about ++ "\n\nUsage: " ++ usage ++ "\n\n" ++ "\n\n".intercalate sections ++ "\n"

/-- **The help of the program.** -/
def help (p : Program) : String :=
  let commands := columns (p.allCommands.map fun c => (c.name, c.about))
  helpText p.about p.usage
    (titled "Commands" (commands.map ("  " ++ ·)) ++ titled "Options" (optionLines p.topArgs))

/-- **The help of a command.** -/
def commandHelp (p : Program) (c : Command) : String :=
  if c.name == "help" then
    helpText c.about (p.commandUsage c)
      (titled "Arguments" ["  [COMMAND]...  Print help for the subcommand(s)"])
  else
    let args := p.commandArgs c
    helpText c.about (p.commandUsage c)
      (titled "Arguments" (positionalLines args) ++ titled "Options" (optionLines args))

/-- **The version line.** -/
def versionText (p : Program) : String := p.name ++ " " ++ p.version ++ "\n"

end Program

end JobQueue.Cli
