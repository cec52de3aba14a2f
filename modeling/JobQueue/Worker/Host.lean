import JobQueue.Store.Basic
import JobQueue.Worker.DatabaseName

/-!
# The machine a worker runs on

A worker reads its configuration file and keeps its queue in a database file; both live on
the machine's file system, which is modelled here as what stands at each absolute path: a
directory, a text file, a device that reads empty and swallows writes (`/dev/null`), or a
queue database.

**Paths.** A path is read as the system reads it: relative paths start at the working
directory, empty parts and `.` are skipped, and `..` steps back one part.

**Making directories.** Making a directory and all its missing ancestors fails where a part
on the way is not a directory (`Not a directory`) or where the directory itself is something
else (`File exists`).

**Finding a configuration file.** A file is looked up as it is named when the name is
absolute, and otherwise in the working directory and then in each of its ancestors; only
plain files count, and a file that is a database cannot be read as text.

**Opening a database.** A name is read as `DatabaseName.parse` reads it; a name it refuses
cannot be opened. A database in memory, and a device, give a database private to the
connection, empty at first and gone when it closes. Otherwise the file must be a database,
an empty file (which becomes one), or, when it may be created, nothing in an existing
directory (a new database); a directory cannot be opened, and a file with other content is
not a database. Opened only for reading, a database serves reads and refuses writes, and an
empty file or a device cannot be made into one.

* `Entry`, `Host` — the machine.
* `Host.write` — place a file or directory.
* `Host.makeParent` — make the directory of a path.
* `Host.configText` — the text of a configuration file, if there is one.
* `Host.openStore`, `Host.keep` — open a database, and keep what was done to it.
-/

namespace JobQueue.Worker

/-- **What stands at a path.** -/
inductive Entry where
  | directory
  | file (text : String)
  /-- A device that reads empty and swallows writes. -/
  | sink
  | database (store : Store)

/-- Whether an entry is a directory. -/
def Entry.isDirectory : Entry → Bool
  | .directory => true
  | _ => false

/-- Whether an entry is a plain file: text or a database. -/
def Entry.isPlainFile : Entry → Bool
  | .file _ | .database _ => true
  | _ => false

/-- **A machine**: what stands at each absolute path, and the working directory. -/
structure Host where
  entries : List (List String × Entry)
  cwd : String

namespace Path

/-- The parts of a path, without empty parts and `.`. -/
def parts (p : String) : List String :=
  (p.splitOn "/").filter fun s => !s.isEmpty && s != "."

/-- Resolve `..` parts: each steps back over the part before it (none at the root). -/
def resolve (done : List String) : List String → List String
  | [] => done.reverse
  | ".." :: rest => resolve done.tail rest
  | p :: rest => resolve (p :: done) rest

/-- **The parts of a path from the root**, relative paths starting at `cwd`. -/
def absolute (cwd p : String) : List String :=
  resolve [] (parts (if p.startsWith "/" then p else cwd ++ "/" ++ p))

/-- The text of a path from the root. -/
def text (ps : List String) : String := "/" ++ "/".intercalate ps

/-- The directories a file is looked for in: the working directory, then its ancestors. -/
def searchDirs (cwd : List String) : List (List String) :=
  (List.range (cwd.length + 1)).reverse.map cwd.take

end Path

namespace Host

/-- What stands at a path. -/
def node? (h : Host) (ps : List String) : Option Entry :=
  if ps.isEmpty then some .directory else h.entries.lookup ps

/-- Put an entry at a path. -/
def put (h : Host) (ps : List String) (e : Entry) : Host :=
  { h with entries := (ps, e) :: h.entries.filter (·.1 != ps) }

/-- Make the directories along `ps`, from the root; fails with the system's description. -/
def makeAll (h : Host) (ps : List String) : Except String Host :=
  (List.range ps.length).foldlM (fun h i =>
    let prefixParts := ps.take (i + 1)
    match h.node? prefixParts with
    | none => .ok (h.put prefixParts .directory)
    | some .directory => .ok h
    | some _ =>
      if i + 1 == ps.length then .error "File exists (os error 17)"
      else .error "Not a directory (os error 20)") h

/-- **Place an entry at a path**, making the directories on the way where nothing stands. -/
def write (h : Host) (path : String) (e : Entry) : Host :=
  let ps := Path.absolute h.cwd path
  let h := match h.makeAll ps.dropLast with
    | .ok h' => h'
    | .error _ => h
  h.put ps e

/-- **Make the directory of a path** and its missing ancestors; a bare name or the root has
none to make. -/
def makeParent (h : Host) (path : String) : Except String Host :=
  let dir := (Path.parts path).dropLast
  if dir.isEmpty then .ok h
  else h.makeAll (Path.absolute h.cwd (if path.startsWith "/" then "/" ++ "/".intercalate dir
    else "/".intercalate dir))

/-- **The text of the configuration file at `path`**: `none` if there is no such plain file,
an error if it cannot be read as text. -/
def configText (h : Host) (path : String) : Option (Except Unit String) :=
  let places :=
    if path.endsWith "/" then []
    else if path.startsWith "/" then [Path.absolute "/" path]
    else (Path.searchDirs (Path.absolute "/" h.cwd)).map fun dir =>
      Path.absolute (Path.text dir) path
  match places.find? fun ps => ((h.node? ps).map Entry.isPlainFile).getD false with
  | none => none
  | some ps =>
    match h.node? ps with
    | some (.file text) => some (.ok text)
    | _ => some (.error ())

/-- Why a database could not be opened. -/
inductive OpenFailure where
  | cannotOpen
  | notADatabase
  /-- The file could not be made a database on a connection that may only read. -/
  | readOnly
  /-- The name itself was refused, with the engine's message. -/
  | badName (message : String)

/-- The chain of descriptions of an open failure, outermost first. -/
def OpenFailure.chain (path : String) : OpenFailure → List String
  | .cannotOpen =>
    let m := "unable to open database file: " ++ path
    ["Database error: " ++ m, m, "Error code 14: Unable to open the database file"]
  | .notADatabase =>
    ["Database error: file is not a database", "file is not a database",
     "Error code 26: File opened that is not a database file"]
  | .readOnly =>
    ["Database error: attempt to write a readonly database", "attempt to write a readonly database",
     "Error code 8: Attempt to write a readonly database"]
  | .badName m => ["Database error: " ++ m, m, "Error code 1: SQL error or missing database"]

/-- Where an open database lives. -/
inductive Place where
  /-- Private to the connection. -/
  | scratch
  /-- A file, opened for reading only or not. -/
  | at (ps : List String) (readOnly : Bool)

/-- **Open the database named `name`**: the machine with the database in place, where it
lives, and its contents. -/
def openStore (h : Host) (name : String) : Except OpenFailure (Host × Place × Store) :=
  match DatabaseName.parse name with
  | .error m => .error (.badName m)
  | .ok .memory => .ok (h, .scratch, {})
  | .ok (.file path access) =>
    if path.endsWith "/" then .error .cannotOpen
    else
      let ps := Path.absolute h.cwd path
      let readOnly := access == .read
      match h.node? ps with
      | some .directory => .error .cannotOpen
      | some .sink => if readOnly then .error .readOnly else .ok (h, .scratch, {})
      | some (.database s) => .ok (h, .at ps readOnly, { s with readOnly })
      | some (.file text) =>
        if !text.isEmpty then .error .notADatabase
        else if readOnly then .error .readOnly
        else .ok (h.put ps (.database {}), .at ps false, {})
      | none =>
        match access, h.node? ps.dropLast with
        | .create, some .directory => .ok (h.put ps (.database {}), .at ps false, {})
        | _, _ => .error .cannotOpen

/-- **Keep the contents of a database** after work on it. -/
def keep (h : Host) : Place → Store → Host
  | .scratch, _ => h
  | .at ps _, s => h.put ps (.database { s with readOnly := false })

end Host

end JobQueue.Worker
