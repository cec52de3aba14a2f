/-!
# Database names

The worker opens its database by name. A name is a file path, unless it starts with
`file:`; then it is a URI, read byte by byte as the database engine reads one.

**URIs.** After `file:` an authority may follow `//`, running to the next `/`; it must be
empty or `localhost`. The path runs to `?` or `#`, and the query, from `?` to `#`, is a list
of `name=value` parameters separated by `&`. A percent escape `%HH` stands for its byte
wherever it appears, and is never taken for a separator; an escaped NUL drops the rest of the
path, name or value it is in. A parameter with an empty name is skipped, with its value.

Three parameters are understood, the last of each counting:

* `mode`: `ro` reads an existing file, `rw` reads and writes an existing file, `rwc` also
  creates a missing one, and `memory` keeps the database in memory;
* `cache`: `shared` or `private`; a database in memory lasts only as long as the process
  either way, and a file is the same file;
* `vfs`: the layer that reaches the file; `unix`, `unix-none`, `unix-dotfile` and
  `unix-excl` reach files, `memdb` keeps the database in memory. It is checked after all
  the parameters.

Any other value of these, or another authority, makes the name an error; other parameters
are ignored. Besides `mode=memory` and `vfs=memdb`, the names `:memory:` and the empty path
stand for a database of the process alone.

* `Access`, `DatabaseName` — what a name asks for.
* `DatabaseName.parse` — read a name, or say why it cannot be opened.
-/

namespace JobQueue.Worker

/-- **How a database file is opened.** -/
inductive Access where
  /-- Read and write, creating the file if it is missing. -/
  | create
  /-- Read and write a file that exists. -/
  | write
  /-- Read a file that exists. -/
  | read
  deriving DecidableEq, Repr

/-- **What a database name asks for**: a file and how to open it, or a database that lives
in memory for one process. -/
inductive DatabaseName where
  | file (path : String) (access : Access)
  | memory
  deriving DecidableEq, Repr

namespace DatabaseName

/-- The byte of an ASCII character. -/
def byte (c : Char) : UInt8 := c.toNat.toUInt8

/-- The value of an ASCII hex digit. -/
def hexValue (b : UInt8) : Option Nat :=
  if 0x30 ≤ b && b ≤ 0x39 then some (b.toNat - 0x30)
  else if 0x61 ≤ b && b ≤ 0x66 then some (b.toNat - 0x61 + 10)
  else if 0x41 ≤ b && b ≤ 0x46 then some (b.toNat - 0x41 + 10)
  else none

/-- Where the scan of a URI is: in the path, in a parameter's name, or in its value. -/
inductive Part where
  | path
  | name
  | value
  deriving DecidableEq

/-- Whether byte `b` ends the current piece of `part`, as far as skipping after an escaped
NUL goes. -/
def endsPiece (part : Part) (b : UInt8) : Bool :=
  b == byte '#' ||
    match part with
    | .path => b == byte '?'
    | .name => b == byte '=' || b == byte '&'
    | .value => b == byte '&'

/-- Skip a parameter whose name is empty: up to and including the next `&`, or up to `#`. -/
def skipParameter : List UInt8 → List UInt8
  | [] => []
  | b :: rest =>
    if b == byte '#' then b :: rest
    else if b == byte '&' then rest
    else skipParameter rest

/-- **Decode a URI after its authority** into the pieces the engine reads: the path, then
each parameter's name and value, every piece ended by a NUL. `out` is what was written so
far, last byte first; each step takes at least one byte, so `fuel` bytes' worth suffices. -/
def decode : Nat → Part → List UInt8 → List UInt8 → List UInt8
  | 0, _, _, out => out
  | fuel + 1, part, input, out =>
    -- A name still open at the end is closed, with an empty value.
    let finish := if part == .name then 0 :: out else out
    match input with
    | [] => finish
    | c :: rest =>
      if c == byte '#' then finish
      else
        match c == byte '%', rest with
        | true, h :: l :: more =>
          match hexValue h, hexValue l with
          | some hi, some lo =>
            let octet := hi * 16 + lo
            if octet == 0 then decode fuel part (more.dropWhile fun b => !endsPiece part b) out
            else decode fuel part more (octet.toUInt8 :: out)
          | _, _ => decode fuel part rest (c :: out)
        | _, _ =>
          if part == .name && (c == byte '&' || c == byte '=') then
            if out.head? == some 0 then decode fuel part (if c == byte '&' then rest
              else skipParameter rest) out
            else if c == byte '&' then decode fuel part rest (0 :: 0 :: out)
            else decode fuel .value rest (0 :: out)
          else if (part == .path && c == byte '?') || (part == .value && c == byte '&') then
            decode fuel .name rest (0 :: out)
          else decode fuel part rest (c :: out)

/-- The bytes before the first NUL, and those after it. -/
def splitNul (bs : List UInt8) : List UInt8 × List UInt8 :=
  (bs.takeWhile (· != 0), (bs.dropWhile (· != 0)).drop 1)

/-- The parameters after the path: name and value pairs up to the first empty name. -/
def parameters : Nat → List UInt8 → List (List UInt8 × List UInt8)
  | 0, _ => []
  | fuel + 1, bs =>
    let (name, rest) := splitNul bs
    if name.isEmpty then []
    else
      let (value, rest) := splitNul rest
      (name, value) :: parameters fuel rest

/-- Text of bytes: UTF-8 if they are, otherwise each byte as the character of its value. -/
def text (bs : List UInt8) : String :=
  (String.fromUTF8? ⟨bs.toArray⟩).getD (String.ofList (bs.map fun b => Char.ofNat b.toNat))

/-- The layers that reach files. -/
def fileLayers : List String := ["unix", "unix-none", "unix-dotfile", "unix-excl"]

/-- What the parameters ask for: the access mode, if one was given (`none` inside it for
memory), and the layer, if one was named. -/
structure Settings where
  mode : Option (Option Access) := none
  layer : Option String := none

/-- Take in one parameter. -/
def setting (s : Settings) (p : List UInt8 × List UInt8) : Except String Settings :=
  let name := text p.1
  let value := text p.2
  if name == "vfs" then .ok { s with layer := some value }
  else if name == "cache" then
    if value == "shared" || value == "private" then .ok s
    else .error ("no such cache mode: " ++ value)
  else if name == "mode" then
    match value with
    | "ro" => .ok { s with mode := some (some .read) }
    | "rw" => .ok { s with mode := some (some .write) }
    | "rwc" => .ok { s with mode := some (some .create) }
    | "memory" => .ok { s with mode := some none }
    | _ => .error ("no such access mode: " ++ value)
  else .ok s

/-- **Read a database name**, or the engine's message for why it cannot be opened. -/
def parse (name : String) : Except String DatabaseName :=
  if !name.startsWith "file:" then
    .ok (if name.isEmpty || name == ":memory:" then .memory else .file name .create)
  else
    let bs := name.toUTF8.data.toList.drop 5
    let authority := if bs.take 2 == [byte '/', byte '/'] then
        some ((bs.drop 2).takeWhile (· != byte '/'))
      else none
    match authority with
    | some a =>
      if !a.isEmpty && a != "localhost".toUTF8.data.toList then
        .error ("invalid uri authority: " ++ text a)
      else resolve ((bs.drop 2).dropWhile (· != byte '/'))
    | none => resolve bs
where
  /-- The name from its path on. -/
  resolve (bs : List UInt8) : Except String DatabaseName := do
    let out := decode (bs.length + 1) .path bs []
    let (path, rest) := splitNul out.reverse
    let settings ← (parameters (rest.length + 1) rest).foldlM setting {}
    match settings.layer with
    | some l => unless fileLayers.contains l || l == "memdb" do throw ("no such vfs: " ++ l)
    | none => pure ()
    let path := text path
    if settings.layer == some "memdb" || settings.mode == some none || path.isEmpty ||
        path == ":memory:" then
      return .memory
    else return .file path ((settings.mode.getD (some .create)).getD .create)

end DatabaseName

end JobQueue.Worker
