import JobQueue.Json.Mismatch

/-!
# Tagged documents

A tagged document names its variant in one member of an object, the *tag*, and holds the
variant's fields in the other members: `{"kind":"single","at":"…"}`. The same data may come
as an array whose first element is the tag and whose other elements are the fields in order.

Reading a tagged document checks the tag while reading, so a faulty tag is reported at the
place it was read, before anything later in the text is looked at:

* the tag must be a string naming one of the variants; any other value is reported as a
  value of the wrong kind, and the position is the end of that value;
* a second tag member is reported right after its key;
* a missing tag is reported after the closing brace or bracket;
* a document that is neither object nor array is reported after the value.

The other members are read as plain values, in text order, repeated keys kept; what they mean
is the variant's business, after the whole value has been read.

* `TaggedBody` — the untagged rest of the document.
* `Reader.tagged` — read the value of a tagged document, up to its end.
-/

namespace JobQueue.Json

/-- **The rest of a tagged document**: the other members of an object, or the other elements
of an array. -/
inductive TaggedBody where
  | members (ms : List (String × Value))
  | elements (vs : List Value)

namespace Reader

/-- A value found where `expected` was wanted, read only as far as needed to describe it:
scalars are read whole and reported after their end, arrays and objects at their opening. -/
def wrongKind {α : Type} (c : Cursor) (expected : String) : Except Error α :=
  let report := fun (v : Value) (c : Cursor) =>
    Except.error ((Mismatch.invalidType v.unexpected expected).errorAt c)
  match c.peek with
  | some 'n' => do report .null (← keyword c.bump ['u', 'l', 'l'])
  | some 't' => do report (.bool true) (← keyword c.bump ['r', 'u', 'e'])
  | some 'f' => do report (.bool false) (← keyword c.bump ['a', 'l', 's', 'e'])
  | some '-' => do
    let (n, c) ← number c.bump false
    report (.number n) c
  | some '"' => do
    let (s, c) ← string c.rest.length c.bump #[]
    report (.string s) c
  | some '[' => report (.array []) c
  | some '{' => report (.object []) c
  | some ch =>
    if ch.isDigit then do
      let (n, c) ← number c true
      report (.number n) c
    else c.failAhead "expected value"
  | none => c.failAhead "EOF while parsing a value"

/-- The tag's value: a string naming one of `variants`. -/
def tagValue (variants : List String) (c : Cursor) : Except Error (String × Cursor) :=
  let c := c.skipSpace
  match c.peek with
  | some '"' => do
    let (s, c) ← string c.rest.length c.bump #[]
    if variants.contains s then pure (s, c)
    else .error ((Mismatch.unknownVariant s variants).errorAt c)
  | some _ => wrongKind c "variant identifier"
  | none => c.failAhead "EOF while parsing a value"

/-- Where an object stands once a failure inside it has been seen: blanks are passed and a
closing brace right after them is taken. -/
def pastClose (close : Char) (c : Cursor) : Cursor :=
  let c := c.skipSpace
  if c.peek == some close then c.bump else c

/-- The members of a tagged object, after `{` or after the previous member. -/
def taggedMembers (key : String) (variants : List String) (fuel depth : Nat) (c : Cursor)
    (first : Bool) (tag : Option String) (acc : List (String × Value)) :
    Except Error ((String × List (String × Value)) × Cursor) :=
  match fuel with
  | 0 => c.failAhead "EOF while parsing an object"
  | fuel + 1 =>
    let c := c.skipSpace
    match c.peek with
    | some '}' =>
      match tag with
      | some t => .ok ((t, acc.reverse), c.bump)
      | none => .error ((Mismatch.missingField key).errorAt c.bump)
    | none => c.failAhead "EOF while parsing an object"
    | some ch =>
      let next : Except Error Cursor :=
        if ch == ',' && !first then .ok c.bump.skipSpace
        else if first then .ok c
        else c.failAhead "expected `,` or `\x7d`"
      match next with
      | .error e => .error e
      | .ok c =>
        match c.peek with
        | some '"' => do
          let (k, c) ← string c.rest.length c.bump #[]
          if k == key then
            if tag.isSome then .error ((Mismatch.duplicateField key).errorAt (pastClose '}' c))
            else do
              let c ← colon c
              let (t, c) ← tagValue variants c
              taggedMembers key variants fuel depth c false (some t) acc
          else do
            let c ← colon c
            let (v, c) ← value fuel depth c
            taggedMembers key variants fuel depth c false tag ((k, v) :: acc)
        | some '}' => c.failAhead "trailing comma"
        | some _ => c.failAhead "key must be a string"
        | none => c.failAhead "EOF while parsing a value"

/-- The elements of a tagged array, after `[`: the tag first, then plain values. -/
def taggedElements (key : String) (variants : List String) (fuel depth : Nat) (c : Cursor) :
    Except Error ((String × List Value) × Cursor) :=
  let c := c.skipSpace
  match c.peek with
  | some ']' => .error ((Mismatch.missingField key).errorAt c.bump)
  | none => c.failAhead "EOF while parsing a list"
  | some _ => do
    let (t, c) ← tagValue variants c
    let (items, c) ← elements fuel depth c false []
    pure ((t, items), c)

/-- **Read the value of a tagged document**: the tag, which names one of `variants`, and the
rest; `expecting` describes the document in the report on one of the wrong kind. -/
def tagged (key : String) (variants : List String) (expecting : String) (text : String) :
    Except Error ((String × TaggedBody) × Cursor) :=
  let c := (Cursor.start text).skipSpace
  let fuel := fuelFor c
  match c.peek with
  | some '{' => do
    let ((t, ms), c) ← taggedMembers key variants fuel (nestingLimit - 1) c.bump true none []
    pure ((t, .members ms), c)
  | some '[' => do
    let ((t, vs), c) ← taggedElements key variants fuel (nestingLimit - 1) c.bump
    pure ((t, .elements vs), c)
  | some _ => do
    let (v, c) ← value fuel nestingLimit c
    .error ((Mismatch.invalidType v.unexpected expecting).errorAt c)
  | none => c.failAhead "EOF while parsing a value"

end Reader

end JobQueue.Json
