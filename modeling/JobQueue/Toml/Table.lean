import JobQueue.Toml.Value

/-!
# The tables of a TOML document

A document is read line by line into tables. A header `[a.b]` opens the table `a.b`, and the
key-value pairs after it go into that table until the next header; a header `[[a.b]]` adds
one more table to the array of tables `a.b`. The state of this reading is a `Reading`: the
tables finished so far (`root`) and the table being filled (`current`).

The rules on what may be defined where:

* a key is given at most once in a table;
* a table is opened by a header at most once; a table only implied so far, by a longer header
  such as `[a.b]` for `a`, may still be opened;
* a table made by dotted keys (`a.b = 1` makes `a`) is never opened by a header, and dotted
  keys never reach into a table opened by a header;
* a header or a dotted key never reaches through a value; it does reach into the last table of
  an array of tables.

* `Node`, `Table` — the tables of a document being read.
* `Table.descend` — go down a path of keys, creating implied tables on the way.
* `Reading.keyval`, `Reading.header`, `Reading.finish` — the steps of reading.
-/

namespace JobQueue.Toml

/-- **A node of a document being read.** -/
inductive Node where
  /-- A value given after `=`. -/
  | value (v : Value)
  /-- A table: its entries, whether it is only implied so far, and whether dotted keys made
  it. -/
  | table (entries : List (String × Node)) (implicit dotted : Bool)
  /-- An array of tables, one for each `[[…]]` header. -/
  | tables (items : List (List (String × Node)))

/-- **A table of a document being read.** -/
structure Table where
  entries : List (String × Node) := []
  /-- Only implied, so far, by a longer header or key. -/
  implicit : Bool := false
  /-- Made by dotted keys. -/
  dotted : Bool := false

namespace Table

/-- The table as a node. -/
def node (t : Table) : Node := .table t.entries t.implicit t.dotted

/-- The entry of a key. -/
def lookup (t : Table) (k : String) : Option Node :=
  (t.entries.find? (·.1 == k)).map (·.2)

/-- Set the entry of a key: in place if it is there, else at the end. -/
def set (t : Table) (k : String) (n : Node) : Table :=
  if (t.lookup k).isSome then
    { t with entries := t.entries.map fun e => if e.1 == k then (k, n) else e }
  else { t with entries := t.entries ++ [(k, n)] }

/-- Remove the entry of a key. -/
def erase (t : Table) (k : String) : Table :=
  { t with entries := t.entries.filter (·.1 != k) }

/-- **Go down `path` from a table and change the table reached with `f`.** Missing tables
on the way are created as implied ones (made by dotted keys if `dotted`); an array of tables
is entered at its last table. A value on the way is a conflict, and so is, for dotted keys
(`dotted`), a table opened by a header. `whole` is the full path, for the wording of
conflicts, and `depth` how much of it lies above `path`. -/
def descend {α : Type} (whole : List Key) (dotted : Bool) (f : Table → Except Conflict (Table × α)) :
    Nat → List Key → Table → Except Conflict (Table × α)
  | _, [], t => f t
  | depth, k :: rest, t =>
    match t.lookup k.name with
    | none => do
      let (sub, a) ← descend whole dotted f (depth + 1) rest { implicit := true, dotted }
      pure (t.set k.name sub.node, a)
    | some (.value v) => .error (.extendsValue (names (whole.take (depth + 1))) v.typeName)
    | some (.tables items) => do
      let (sub, a) ← descend whole dotted f (depth + 1) rest { entries := items.getLast?.getD [] }
      pure (t.set k.name (.tables (items.dropLast ++ [sub.entries])), a)
    | some (.table es implicit isDotted) =>
      if dotted && !implicit then .error (.duplicateKey k.name none)
      else do
        let (sub, a) ← descend whole dotted f (depth + 1) rest ⟨es, implicit, isDotted⟩
        pure (t.set k.name sub.node, a)

end Table

/-- The conflict of a header whose table is already there: its last key, named as written
bare or quoted, in the table of the keys before it. -/
def Conflict.ofHeader (path : List Key) : Conflict :=
  .duplicateKey (keyText ((path.getLast?.map (·.name)).getD "")) (some (names path.dropLast))

mutual

/-- The value of a finished node. -/
def Node.toValue : Node → Value
  | .value v => v
  | .table es _ _ => .table (Node.entriesToValue es)
  | .tables items => .array (Node.tablesToValue items)

/-- The values of finished entries. -/
def Node.entriesToValue : List (String × Node) → List (String × Value)
  | [] => []
  | (k, n) :: rest => (k, n.toValue) :: Node.entriesToValue rest

/-- The values of a finished array of tables. -/
def Node.tablesToValue : List (List (String × Node)) → List Value
  | [] => []
  | es :: rest => .table (Node.entriesToValue es) :: Node.tablesToValue rest

end

/-- **The state of reading a document.** -/
structure Reading where
  /-- The tables finished so far. -/
  root : Table := {}
  /-- The table being filled: the top-level table until the first header. -/
  current : Table := {}
  /-- The header of the table being filled. -/
  path : List Key := []
  /-- Whether that header adds to an array of tables. -/
  inArray : Bool := false

namespace Reading

/-- **A key-value pair**: `leaf = v` under the dotted prefix `path`, into the table being
filled. -/
def keyval (r : Reading) (path : List Key) (leaf : Key) (v : Value) : Except Conflict Reading := do
  let place (t : Table) : Except Conflict (Table × Unit) :=
    if t.dotted == path.isEmpty then .error (.duplicateKey leaf.name none)
    else if (t.lookup leaf.name).isSome then .error (.duplicateKey leaf.name (some (names r.path)))
    else .ok (t.set leaf.name (.value v), ())
  let (current, _) ← r.current.descend path true place 0 path
  pure { r with current }

/-- **Finish the table being filled**: put it in its place among the finished tables. -/
def finish (r : Reading) : Except Conflict Table :=
  match r.path.getLast? with
  | none => .ok r.current
  | some last =>
    let parentPath := r.path.dropLast
    let place (parent : Table) : Except Conflict (Table × Unit) :=
      match parent.lookup last.name, r.inArray with
      | none, true => .ok (parent.set last.name (.tables [r.current.entries]), ())
      | some (.tables items), true => .ok (parent.set last.name (.tables (items ++ [r.current.entries])), ())
      | none, false => .ok (parent.set last.name r.current.node, ())
      | some (.table _ true _), false => .ok (parent.set last.name r.current.node, ())
      | _, _ => .error (Conflict.ofHeader r.path)
    (·.1) <$> r.root.descend parentPath false place 0 parentPath

/-- Open the table of a header `[path]` among the finished tables `root`. -/
def openTable (root : Table) (path : List Key) : Except Conflict Reading := do
  let last := (path.getLast?.map (·.name)).getD ""
  let parentPath := path.dropLast
  let take (parent : Table) : Except Conflict (Table × List (String × Node)) :=
    match parent.lookup last with
    | none => .ok (parent, [])
    | some (.table es true false) => .ok (parent.erase last, es)
    | some _ => .error (Conflict.ofHeader path)
  let (root, entries) ← root.descend parentPath false take 0 parentPath
  pure { root, current := { entries }, path, inArray := false }

/-- Open one more table of a header `[[path]]` among the finished tables `root`. -/
def openArrayTable (root : Table) (path : List Key) : Except Conflict Reading := do
  let last := (path.getLast?.map (·.name)).getD ""
  let parentPath := path.dropLast
  let start (parent : Table) : Except Conflict (Table × Unit) :=
    match parent.lookup last with
    | none => .ok (parent.set last (.tables []), ())
    | some (.tables _) => .ok (parent, ())
    | some _ => .error (Conflict.ofHeader path)
  let (root, _) ← root.descend parentPath false start 0 parentPath
  pure { root, current := {}, path, inArray := true }

/-- **A header**: finish the table being filled, then open the header's. -/
def header (r : Reading) (path : List Key) (inArray : Bool) : Except Conflict Reading := do
  let root ← r.finish
  if inArray then openArrayTable root path else openTable root path

end Reading

end JobQueue.Toml
