import JobQueue.Toml.Strings

/-!
# TOML values and the conflicts between keys

A TOML document is a table of values; a value is a string, an integer (a signed 64-bit word),
a float, a boolean, a date-time, an array of values, or a table. Date-times are kept as
written: nothing here reads their fields.

Building a table from key-value pairs can fail in three ways (`Conflict`):

* a key given twice, or a table given twice (`duplicateKey`);
* a dotted key reaching through a value that is not a table (`extendsValue`);
* a key or a nesting deeper than the reader allows (`tooDeep`).

Inside an inline table `{ … }` a dotted key `a.b = 1` makes the table `a` by itself, and
later dotted keys may add to it; an inline table written out as a value is closed, and a
dotted key reaching into it is a second definition of its key (`InlineTable.insert`).

* `Value`, `Value.typeName` — values and the names of their kinds.
* `Conflict`, `Conflict.message` — conflicts and their wording.
* `InlineTable.insert`, `InlineTable.ofPairs` — building an inline table.
-/

namespace JobQueue.Toml

/-- **A TOML value.** -/
inductive Value where
  | string (s : String)
  | integer (i : Int)
  | float (f : Float)
  | boolean (b : Bool)
  /-- A date, a time or both, as written. -/
  | dateTime (text : String)
  | array (items : List Value)
  | table (entries : List (String × Value))

/-- The name of a value's kind, as conflicts report it; a table given as a value is an
inline table. -/
def Value.typeName : Value → String
  | .string _ => "string"
  | .integer _ => "integer"
  | .float _ => "float"
  | .boolean _ => "boolean"
  | .dateTime _ => "datetime"
  | .array _ => "array"
  | .table _ => "inline table"

/-- **Why key-value pairs do not make a table.** -/
inductive Conflict where
  /-- `key` is given twice; in the table at `table` (names from the root), when known. -/
  | duplicateKey (key : String) (table : Option (List String))
  /-- The dotted key `path` reaches through a value of the kind `kind`. -/
  | extendsValue (path : List String) (kind : String)
  /-- Keys or values nest deeper than allowed. -/
  | tooDeep

/-- The wording of a conflict. -/
def Conflict.message : Conflict → String
  | .duplicateKey key none => "duplicate key `" ++ key ++ "`"
  | .duplicateKey key (some []) => "duplicate key `" ++ key ++ "` in document root"
  | .duplicateKey key (some table) =>
    "duplicate key `" ++ key ++ "` in table `" ++ ".".intercalate table ++ "`"
  | .extendsValue path kind =>
    "dotted key `" ++ ".".intercalate path ++ "` attempted to extend non-table type (" ++ kind ++ ")"
  | .tooDeep => "recursion limit exceeded"

/-- The most parts a dotted key, and the most levels a nesting of arrays and inline tables,
may have: one less than this. -/
def depthLimit : Nat := 80

/-- Control characters are written as escapes in quoted keys. -/
def keyEscape (c : Char) : String :=
  match c with
  | '\x08' => "\\b"
  | '\t' => "\\t"
  | '\n' => "\\n"
  | '\x0c' => "\\f"
  | '\r' => "\\r"
  | '"' => "\\\""
  | '\\' => "\\\\"
  | c =>
    if c.toNat ≤ 0x1F || c.toNat == 0x7F then
      let h := Nat.toDigits 16 c.toNat
      "\\u" ++ String.ofList (List.replicate (4 - h.length) '0' ++ h.map Char.toUpper)
    else String.singleton c

/-- **A key as a conflict names it**: bare if it can be, else as a basic string. -/
def keyText (name : String) : String :=
  if !name.isEmpty && name.toList.all isBareKeyChar then name
  else "\"" ++ String.join (name.toList.map keyEscape) ++ "\""

/-- The names of some key parts. -/
def names (ks : List Key) : List String := ks.map (·.name)

/-- **An inline table being built.** Tables made by dotted keys stay open to later dotted
keys; everything else, inline tables written out among them, is a value. -/
inductive InlineTable where
  | given (v : Value)
  | dotted (entries : List (String × InlineTable))

namespace InlineTable

/-- The entry of a key. -/
def lookup (k : String) (es : List (String × InlineTable)) : Option InlineTable :=
  (es.find? (·.1 == k)).map (·.2)

/-- Replace the entry of a key in place. -/
def replace (k : String) (t : InlineTable) (es : List (String × InlineTable)) :
    List (String × InlineTable) :=
  es.map fun e => if e.1 == k then (k, t) else e

/-- **Insert `leaf = v` under the dotted prefix `path`** into the entries of an inline
table; `whole` is the full prefix, for the wording of conflicts, and `depth` how much of it
lies above `path`. -/
def insert (whole : List Key) (leaf : Key) (v : Value) :
    Nat → List Key → List (String × InlineTable) → Except Conflict (List (String × InlineTable))
  | _, [], es =>
    if (lookup leaf.name es).isSome then .error (.duplicateKey leaf.name none)
    else .ok (es ++ [(leaf.name, .given v)])
  | depth, k :: rest, es =>
    match lookup k.name es with
    | none => do
      let sub ← insert whole leaf v (depth + 1) rest []
      pure (es ++ [(k.name, .dotted sub)])
    | some (.dotted sub) => do
      let sub ← insert whole leaf v (depth + 1) rest sub
      pure (replace k.name (.dotted sub) es)
    | some (.given (.table _)) => .error (.duplicateKey k.name none)
    | some (.given w) => .error (.extendsValue (names (whole.take (depth + 1))) w.typeName)

mutual

/-- The value of an inline table built. -/
def toValue : InlineTable → Value
  | .given v => v
  | .dotted es => .table (entriesToValue es)

/-- The values of the entries of an inline table built. -/
def entriesToValue : List (String × InlineTable) → List (String × Value)
  | [] => []
  | (k, t) :: rest => (k, toValue t) :: entriesToValue rest

end

/-- **The inline table of key-value pairs**, each a dotted prefix, a last key and a value,
in the order written. -/
def ofPairs (pairs : List (List Key × Key × Value)) : Except Conflict Value := do
  let es ← pairs.foldlM (fun es (path, leaf, v) => insert path leaf v 0 path es) []
  pure (.table (entriesToValue es))

end InlineTable

end JobQueue.Toml
