import JobQueue.Cli.Similar
import JobQueue.Cli.Spec

/-!
# Reading a command line

The words of a command line are read from the left. At the program's level a word naming a
command starts that command, and the rest is read at the command's level. At either level:

* `--` ends the options: every later word is positional;
* `--name` and `--name=value` name a long option, `-n`, `-nvalue` and `-n=value` a short one; an
  option's value is the next word when not attached (a word starting with `-` is never taken
  as a value, so a negative number must be attached or follow `--`);
* any other word is the value of the option waiting for one, or the next positional argument.

A value is checked when the next option or positional argument begins, or at the end: an
option given twice, an option without its value, and a value of the wrong kind are refused
then. At the end, arguments given together that conflict are refused, then missing required
arguments, including those that a given argument needs.

Refusals name the offending word and, where it helps, what was probably meant: a command or
option of similar name (`similarNames`), or how to pass a word starting with `-` as a value.
Most show a usage line; where given arguments are known, the usage line shows them.

* `Refusal`, `CliError.render` — refusals and their text.
* `Stop` — every way reading ends other than with a command to run.
* `Program.read` — a command line read into its `Matches`.
-/

namespace JobQueue.Cli

/-- **Why a command line was refused.** -/
inductive Refusal where
  | unrecognizedCommand (word : String)
  | unexpectedArgument (arg : String)
  | invalidValue (arg value reason : String)
  | emptyValue (arg : String)
  | usedTwice (arg : String)
  | conflict (arg : String) (others : List String)
  | missing (args : List String)
  | unexpectedValue (value arg : String)
  | missingCommand (program : String) (commands : List String)

/-- The first line of a refusal (more lines for lists). -/
def Refusal.message : Refusal → String
  | .unrecognizedCommand w => "unrecognized subcommand '" ++ w ++ "'"
  | .unexpectedArgument a => "unexpected argument '" ++ a ++ "' found"
  | .invalidValue a v r => "invalid value '" ++ v ++ "' for '" ++ a ++ "': " ++ r
  | .emptyValue a => "a value is required for '" ++ a ++ "' but none was supplied"
  | .usedTwice a => "the argument '" ++ a ++ "' cannot be used multiple times"
  | .conflict a [o] => "the argument '" ++ a ++ "' cannot be used with '" ++ o ++ "'"
  | .conflict a os => "the argument '" ++ a ++ "' cannot be used with:" ++
      String.join (os.map ("\n  " ++ ·))
  | .missing args => "the following required arguments were not provided:" ++
      String.join (args.map ("\n  " ++ ·))
  | .unexpectedValue v a => "unexpected value '" ++ v ++ "' for '" ++ a ++
      "' found; no more were expected"
  | .missingCommand p cs => "'" ++ p ++ "' requires a subcommand but one was not provided" ++
      (if cs.isEmpty then "" else "\n  [subcommands: " ++ ", ".intercalate cs ++ "]")

/-- **A refusal with its hints**: similar commands or a similar option, tips, and the usage
line. -/
structure CliError where
  refusal : Refusal
  similarCommands : List String := []
  similarArgument : Option String := none
  tips : List String := []
  usage : Option String := none

/-- The quoted list of names. -/
def quotedList (names : List String) : String := ", ".intercalate (names.map fun n => "'" ++ n ++ "'")

/-- **The text of a refusal.** -/
def CliError.render (e : CliError) : String :=
  let commands :=
    match e.similarCommands with
    | [] => []
    | [c] => ["  tip: a similar subcommand exists: '" ++ c ++ "'"]
    | cs => ["  tip: some similar subcommands exist: " ++ quotedList cs]
  let argument := e.similarArgument.toList.map fun a => "  tip: a similar argument exists: '" ++ a ++ "'"
  let similar := commands ++ argument
  let tips := e.tips.map ("  tip: " ++ ·)
  let hints := if similar.isEmpty && tips.isEmpty then "" else "\n\n" ++ "\n".intercalate (similar ++ tips)
  let usage := (e.usage.map ("\n\nUsage: " ++ ·)).getD ""
  "error: " ++ e.refusal.message ++ hints ++ usage ++ "\n\nFor more information, try '--help'.\n"

/-- **How reading a command line ends** when it does not name a command to run. -/
inductive Stop where
  /-- Help was asked for: shown on standard output, success. -/
  | help (text : String)
  /-- The version was asked for. -/
  | version (text : String)
  /-- Nothing was given: the help is shown as an error. -/
  | unaskedHelp (text : String)
  | refused (e : CliError)

/-- **A command line read**: the command, and the value of each argument given or defaulted,
by argument id (`true` for a flag). -/
structure Matches where
  command : String
  values : List (String × String)

/-- One level of a command line: the program's or a command's. -/
structure Level where
  /-- The name shown in usage lines. -/
  name : String
  args : List Argument
  /-- The commands that may follow (at the program's level). -/
  commands : List String := []
  /-- For each command, the long names of its options. -/
  commandLongs : List (String × List String) := []
  help : String
  version : String := ""

/-- What has been read at a level. -/
structure Progress where
  /-- Arguments with their values, in the order they were settled. -/
  given : List (Argument × String) := []
  /-- The argument whose values are being collected. -/
  pending : Option (Argument × List String) := none
  /-- Whether the pending option still waits for its value. -/
  awaiting : Bool := false
  /-- Whether `--` has been read. -/
  trailing : Bool := false
  /-- How many positional arguments have been read. -/
  positionals : Nat := 0

/-- What reading a level found. -/
inductive Found where
  /-- The words ended. -/
  | done (p : Progress)
  /-- A command starts, with the words after its name. -/
  | command (p : Progress) (name : String) (rest : List String)
  /-- The help command, with the words after it. -/
  | helpCommand (rest : List String)

namespace Level

/-- The positional arguments, in order. -/
def positionalArgs (l : Level) : List Argument := l.args.filter (·.positional)

/-- The arguments required by themselves. -/
def requiredArgs (l : Level) : List Argument := l.args.filter (·.required)

/-- The argument of an id. -/
def byId? (l : Level) (id : String) : Option Argument := l.args.find? (·.id == id)

/-- The long names of the options. -/
def longs (l : Level) : List String := l.args.filterMap (·.long)

/-- The usage line without context. -/
def plainUsage (l : Level) : String := Cli.plainUsage l.name l.args !l.commands.isEmpty

/-- **The usage line for arguments in context**: the name, then the options among `required`
(each preceded by what it needs) and `incls`, then the positional arguments among them;
without arguments in context, the usage line without context. -/
def smartUsage (l : Level) (required incls : List Argument) : String :=
  if incls.isEmpty then l.plainUsage else
  let unrolled := required.flatMap fun a => (a.requires.filterMap l.byId?) ++ [a]
  let all := unrolled ++ incls
  let opts := all.filter (!·.positional) |>.foldl
    (fun acc a => if acc.any (·.id == a.id) then acc else acc ++ [a]) []
  let pos := l.positionalArgs.filter fun a => all.any (·.id == a.id)
  l.name ++ String.join ((opts ++ pos).map (" " ++ ·.display)) ++
    (if l.commands.isEmpty then "" else " <COMMAND>")

/-- The arguments given. -/
def givenArgs (p : Progress) : List Argument := p.given.map (·.1)

/-- A refusal without hints. -/
def refuse {α : Type} (r : Refusal) (usage : Option String) : Except Stop α :=
  .error (.refused { refusal := r, usage })

/-- **Settle a value for an argument**: it must have one if it takes one, may not be given
twice, and must be of its kind. -/
def commit (l : Level) (p : Progress) (a : Argument) (vals : List String) : Except Stop Progress :=
  if a.takesValue && vals.isEmpty then refuse (.emptyValue a.display) none
  else if p.given.any (·.1.id == a.id) then refuse (.usedTwice a.display) (some l.plainUsage)
  else
    let v := vals.headD "true"
    match (if a.takesValue then a.kind.refusal v else none) with
    | some (shown, reason) => refuse (.invalidValue a.display shown reason) none
    | none => .ok { p with given := p.given ++ [(a, v)] }

/-- Settle the pending argument, if any. -/
def resolve (l : Level) (p : Progress) : Except Stop Progress :=
  match p.pending with
  | none => .ok p
  | some (a, vals) => l.commit { p with pending := none } a vals

/-- Settle the pending argument ahead of another refusal, whose own failure does not count. -/
def settle (l : Level) (p : Progress) : Progress :=
  match p.pending with
  | none => p
  | some (a, vals) =>
    let p := { p with pending := none }
    match l.commit p a vals with
    | .ok p' => p'
    | .error _ =>
      if a.takesValue && vals.isEmpty then p
      else if p.given.any (·.1.id == a.id) then { p with given := p.given.filter (·.1.id != a.id) }
      else { p with given := p.given ++ [(a, vals.headD "")] }

/-- A flag: help and version end the reading. -/
def flag (l : Level) (p : Progress) (a : Argument) : Except Stop Progress := do
  let p ← l.resolve p
  if a.id == "help" then throw (.help l.help)
  if a.id == "version" then throw (.version l.version)
  l.commit p a []

/-- The refusal of an unknown long option `--name`, with what was probably meant. -/
def unknownLong (l : Level) (p : Progress) (name : String) (rest : List String) : Stop :=
  let arg := "--" ++ name
  let similar := (similarNames name l.longs).getLast?
  let elsewhere : Option (String × String) :=
    let scored := l.commandLongs.filterMap fun (c, longs) =>
      match (similarNames name longs).getLast?, rest.idxOf? c with
      | some cand, some pos => some (pos, cand, c)
      | _, _ => none
    let best := scored.foldl (fun acc x => match acc with
      | some y => if x.1 < y.1 then some x else some y
      | none => some x) none
    best.map fun (_, cand, c) => (cand, c)
  let hinted := match similar with
    | some cand => (l.args.find? (·.long == some cand)).toList
    | none => []
  let used := givenArgs p ++ hinted
  let usage := some (l.smartUsage l.requiredArgs used)
  let trailingTip := ["to pass '" ++ arg ++ "' as a value, use '-- " ++ arg ++ "'"]
  match similar, elsewhere with
  | some cand, _ =>
    .refused { refusal := .unexpectedArgument arg, similarArgument := some ("--" ++ cand), usage }
  | none, some (cand, c) =>
    .refused { refusal := .unexpectedArgument arg, tips := ["'" ++ c ++ " --" ++ cand ++ "' exists"],
               usage }
  | none, none =>
    .refused { refusal := .unexpectedArgument arg,
               tips := if l.positionalArgs.isEmpty then [] else trailingTip, usage }

/-- The refusal of a word that is neither an option nor an expected positional argument. -/
def stray (l : Level) (p : Progress) (word : String) : Stop :=
  if p.trailing && l.commands.contains word then
    .refused { refusal := .unexpectedArgument "--",
               tips := ["subcommand '" ++ word ++ "' exists; to use it, remove the '--' before it"],
               usage := some l.plainUsage }
  else if !l.commands.isEmpty then
    .refused { refusal := .unrecognizedCommand word, similarCommands := similarNames word l.commands,
               usage := some l.plainUsage }
  else .refused { refusal := .unexpectedArgument word, usage := some l.plainUsage }

/-- Short options `-abc`: flags, or an option taking the rest (after an optional `=`) or the
next word as its value. -/
def shorts (l : Level) (p : Progress) : List Char → Except Stop Progress
  | [] => .ok p
  | c :: cs =>
    match l.args.find? (·.short == some c) with
    | none =>
      let arg := "-" ++ String.singleton c
      let tips := if l.positionalArgs.isEmpty then [] else
        ["to pass '" ++ arg ++ "' as a value, use '-- " ++ arg ++ "'"]
      .error (.refused { refusal := .unexpectedArgument arg, tips, usage := some l.plainUsage })
    | some a =>
      if !a.takesValue then do
        let p ← l.flag p a
        l.shorts p cs
      else
        let attached := match cs with
          | '=' :: v => some v
          | [] => none
          | v => some v
        match attached with
        | some v => do
          let p ← l.resolve p
          let p ← l.commit p a [String.ofList v]
          pure { p with awaiting := false }
        | none => do
          let p ← l.resolve p
          pure { p with pending := some (a, []), awaiting := true }

/-- A positional word. -/
def positional (l : Level) (p : Progress) (word : String) : Except Stop Progress :=
  match l.positionalArgs[p.positionals]? with
  | some a => do
    let p ← l.resolve p
    pure { p with pending := some (a, [word]), positionals := p.positionals + 1, awaiting := false }
  | none => .error (l.stray (l.settle p) word)

/-- A long option `--name` or `--name=value`. -/
def long (l : Level) (p : Progress) (body : String) (rest : List String) : Except Stop Progress :=
  let name := (body.splitOn "=").headD ""
  let attached := if body.contains '=' then some (body.drop (name.length + 1)).toString else none
  match l.args.find? (·.long == some name) with
  | none => .error (l.unknownLong (l.settle p) name rest)
  | some a =>
    if a.takesValue then
      match attached with
      | some v => do
        let p ← l.resolve p
        let p ← l.commit p a [v]
        pure { p with awaiting := false }
      | none => do
        let p ← l.resolve p
        pure { p with pending := some (a, []), awaiting := true }
    else
      match attached with
      | some v =>
        let p := l.settle p
        let used := (givenArgs p).filter (!·.required) ++ [a]
        refuse (.unexpectedValue v a.display) (some (l.smartUsage l.requiredArgs used))
      | none => l.flag p a

/-- **Read the words of a level.** -/
def walk (l : Level) : List String → Progress → Except Stop Found
  | [], p => .ok (.done p)
  | word :: rest, p =>
    if p.trailing then do
      let p ← l.positional p word
      l.walk rest p
    else if !p.awaiting && l.commands.contains word then
      if word == "help" then .ok (.helpCommand rest) else .ok (.command p word rest)
    else if word == "--" then l.walk rest { p with trailing := true }
    else if word.startsWith "--" then do
      let p ← l.long p (word.drop 2).toString rest
      l.walk rest p
    else if word.startsWith "-" && word.length > 1 then do
      let p ← l.shorts p (word.toList.drop 1)
      l.walk rest p
    else if p.awaiting then
      l.walk rest { p with pending := p.pending.map (fun (a, vs) => (a, vs ++ [word])),
                           awaiting := false }
    else do
      let p ← l.positional p word
      l.walk rest p

/-- The arguments given that conflict with `a`. -/
def conflicting (p : Progress) (a : Argument) : List Argument :=
  (givenArgs p).filter fun b => b.id != a.id && (a.conflicts.contains b.id || b.conflicts.contains a.id)

/-- **Check the arguments given together**: conflicts first, then missing requirements. -/
def validate (l : Level) (p : Progress) : Except Stop Unit := do
  let given := givenArgs p
  for a in given do
    let others := conflicting p a
    if !others.isEmpty then
      let clashing := others.map (·.id)
      let used := given.filter fun g => !clashing.contains g.id
      let needed := (used.flatMap fun g => g.requires.filterMap l.byId?).filter fun r =>
        !used.any (·.id == r.id) && !clashing.contains r.id
      refuse (.conflict a.display (others.map (·.display)))
        (some (l.smartUsage l.requiredArgs (needed ++ used)))
  let required := (l.requiredArgs ++ (given.flatMap fun g => g.requires.filterMap l.byId?)).foldl
    (fun acc a => if acc.any (·.id == a.id) then acc else acc ++ [a]) []
  let present := fun (a : Argument) => given.any (·.id == a.id)
  let missing := required.filter fun a =>
    !present a && (given.all fun g => !(g.conflicts.contains a.id || a.conflicts.contains g.id))
  if !missing.isEmpty then
    let shown := ((required.flatMap fun a => (a.requires.filterMap l.byId?) ++ [a]) ++ missing)
      |>.filter (!present ·)
    let opts := (shown.filter (!·.positional)).foldl
      (fun acc a => if acc.any (·.id == a.id) then acc else acc ++ [a]) []
    let pos := l.positionalArgs.filter fun a => shown.any (·.id == a.id)
    refuse (.missing ((opts ++ pos).map (·.display))) (some (l.smartUsage required (given ++ missing)))

/-- The values of a level: those given, then the defaults of the others. -/
def values (l : Level) (p : Progress) : List (String × String) :=
  let given := p.given.map fun (a, v) => (a.id, v)
  given ++ l.args.filterMap fun a =>
    if given.any (·.1 == a.id) then none else a.default.map fun d => (a.id, d)

end Level

namespace Program

/-- The level of the program itself. -/
def level (p : Program) : Level :=
  { name := p.name, args := p.topArgs, commands := p.commandNames,
    commandLongs := p.allCommands.map fun c => (c.name, (p.commandArgs c).filterMap (·.long)),
    help := p.help, version := p.versionText }

/-- The level of a command. -/
def commandLevel (p : Program) (c : Command) : Level :=
  { name := p.commandPath c, args := p.commandArgs c, help := p.commandHelp c }

/-- The help command: the help of the command its words name. -/
def helpFor (p : Program) : List String → Stop
  | [] => .help p.help
  | name :: more =>
    match p.command? name with
    | none => .refused { refusal := .unrecognizedCommand name, usage := some p.usage }
    | some c =>
      match more with
      | [] => .help (p.commandHelp c)
      | w :: _ => .refused { refusal := .unrecognizedCommand w, usage := some (p.commandUsage c) }

/-- **Read a command line** (the words after the program's name). -/
def read (p : Program) (words : List String) : Except Stop Matches := do
  let top := p.level
  match ← top.walk words {} with
  | .helpCommand rest => throw (p.helpFor rest)
  | .done progress =>
    let progress ← top.resolve progress
    if progress.given.isEmpty then throw (.unaskedHelp p.help)
    throw (.refused { refusal := .missingCommand p.name p.commandNames, usage := some p.usage })
  | .command progress name rest =>
    let some c := p.command? name | throw (.refused { refusal := .unrecognizedCommand name })
    let sub := p.commandLevel c
    let subValues ← match ← sub.walk rest {} with
      | .done q => do
        let q ← sub.resolve q
        sub.validate q
        pure (sub.values q)
      | .command q _ _ => pure (sub.values q)
      | .helpCommand _ => pure []
    let progress ← top.resolve progress
    let topValues := (top.values progress).filter fun (k, _) => !subValues.any (·.1 == k)
    pure { command := name, values := subValues ++ topValues }

end Program

end JobQueue.Cli
