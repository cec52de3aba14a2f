import JobQueue.Decimal.Layout
import JobQueue.Text.Escaped

/-!
# Settings and their sources

A configuration is gathered from sources, each giving a tree of settings: a TOML file, and
environment variables under a common prefix. Every setting remembers the source that gave it,
so that a setting of the wrong kind can be reported with where it came from, and under which
key.

Sources are layered: a later source overrides an earlier one setting by setting. Two tables
are merged key by key, and anything else given by the later source replaces what the earlier
one gave, so a list is replaced as a whole.

* `Origin` — the sources, with how each names a key (`Origin.keyName`) and itself.
* `Setting` — trees of settings, with `Setting.describe` for error messages.
* `Setting.merge` — layering.
-/

namespace JobQueue

/-- **Where a setting was given.** -/
inductive Origin where
  /-- A TOML file, at a path. -/
  | file (path : String)
  /-- The environment variables with a prefix. -/
  | environment (pfx : String)
  deriving DecidableEq

namespace Origin

/-- How a source names a key given as a path of names: a file by its profile and dotted path,
the environment by the upper-case dotted path. -/
def keyName : Origin → List String → String
  | .file _, path => "default." ++ ".".intercalate path
  | .environment _, path => ".".intercalate (path.map String.toUpper)

/-- How a source names itself. -/
def describe : Origin → String
  | .file path => path ++ " TOML file"
  | .environment pfx => "`" ++ pfx ++ "` environment variable(s)"

end Origin

/-- A single setting. -/
inductive Scalar where
  | text (s : String)
  | char (c : Char)
  | bool (b : Bool)
  /-- A whole number given without a sign. -/
  | unsigned (n : Nat)
  /-- A whole number given as a signed one. -/
  | signed (i : Int)
  | float (f : Float)

/-- **A tree of settings**, each node with its source. -/
inductive Setting where
  | scalar (origin : Origin) (v : Scalar)
  | table (origin : Origin) (entries : List (String × Setting))
  | list (origin : Origin) (items : List Setting)

/-- The quoted form of a character. -/
def charLiteral (c : Char) : String :=
  if c == '\'' then "'\\''"
  else if c == '"' then "'\"'"
  else
    let inner := Text.escapeOne c
    "'" ++ inner ++ "'"

namespace Setting

/-- The source of a setting. -/
def origin : Setting → Origin
  | .scalar o _ => o
  | .table o _ => o
  | .list o _ => o

/-- **A setting as an error message shows what was found.** -/
def describe : Setting → String
  | .scalar _ (.text s) => "string " ++ Text.escapedLiteral s
  | .scalar _ (.char c) => "char " ++ charLiteral c
  | .scalar _ (.bool b) => "bool " ++ toString b
  | .scalar _ (.unsigned n) => "unsigned int `" ++ toString n ++ "`"
  | .scalar _ (.signed i) => "signed int `" ++ toString i ++ "`"
  | .scalar _ (.float f) => "float `" ++ Decimal.Layout.plain.render f ++ "`"
  | .table _ _ => "map"
  | .list _ _ => "sequence"

/-- The entry of a key. -/
def lookup (entries : List (String × Setting)) (k : String) : Option Setting :=
  (entries.find? (·.1 == k)).map (·.2)

mutual

/-- **Layer `later` over `earlier`.** -/
def merge (earlier : Setting) : Setting → Setting
  | .table o entries =>
    match earlier with
    | .table _ before => .table o (mergeEntries before entries)
    | _ => .table o entries
  | later => later

/-- Layer the entries of a later table over those of an earlier one. -/
def mergeEntries (before : List (String × Setting)) :
    List (String × Setting) → List (String × Setting)
  | [] => before
  | (k, v) :: rest =>
    let v' := match lookup before k with
      | some u => merge u v
      | none => v
    mergeEntries ((before.filter (·.1 != k)) ++ [(k, v')]) rest

end

/-- A table of one setting under a dotted path of names; an empty name ends the path. -/
def nest (origin : Origin) : List String → Setting → Setting
  | [], v => v
  | k :: rest, v => if k.isEmpty then v else .table origin [(k, nest origin rest v)]

end Setting

end JobQueue
