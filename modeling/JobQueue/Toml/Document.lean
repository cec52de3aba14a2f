import JobQueue.Toml.Numbers
import JobQueue.Toml.Table

/-!
# Reading a TOML document

A document is a sequence of lines: blank lines, comments, headers `[a.b]` and `[[a.b]]`, and
key-value pairs `key = value`, each line optionally ending in a comment. Values are read by
their first character: a quote starts a string, `[` an array, `{` an inline table, a sign or
a digit a date-time or a number, `t` and `f` a boolean, `i` and `n` the floats `inf` and
`nan`. Anything else was meant to be a string and is reported as an unquoted one.

Arrays may spread over lines, with comments, and may end in a comma; inline tables stay on
one line and may not. Keys and values nest at most `depthLimit - 1` deep.

A failure names its place in the text, as a line and a column counted from one, and shows
that line with a caret under the column. The column counts characters, except that before a
character outside ASCII it counts the bytes of the line's UTF-8 text; past the end of the
text it is one beyond the last character of the last line. The caret is as wide as the
character under it is long in UTF-8 bytes (one past the end of the text). A conflict noticed
only after the last line has no place.

* `read` — the value of a document (a table), or why there is none.
* `ReadFailure.render` — the text of a failure.
-/

namespace JobQueue.Toml

namespace Scan

/-- The notes of a value that begins like a bare word: it should have been a quoted string. -/
def asString {α : Type} (s : Scan α) : Scan α :=
  within (.expected "`'`") (within (.expected "`\"`") (within (.label "string") s))

/-- A failure of the nesting limit, where the nested value begins. -/
def tooDeep {α : Type} : Scan α := do
  throw { offset := ← offset, cause := some Conflict.tooDeep.message, final := true }

/-- **A dotted key**, split into the parts before the last and the last, and not longer than
the nesting limit allows. -/
def dottedKey : Scan (List Key × Key) :=
  checked key fun ks =>
    match ks.getLast? with
    | some leaf => if ks.length < depthLimit then .ok (ks.dropLast, leaf)
      else .error Conflict.tooDeep.message
    | none => .error Conflict.tooDeep.message

/-- **A value that is neither an array nor an inline table.** -/
def scalar : Scan Value := do
  match ← peek with
  | none => stop
  | some c =>
    if c == '"' || c == '\'' then Value.string <$> string
    else if c == '+' || c == '-' || c.isDigit then
      first (Value.dateTime <$> dateTime) (first (Value.float <$> float) (Value.integer <$> integer))
    else if c == '_' then within (.expected "leading digit") (Value.integer <$> integer)
    else if c == '.' then within (.expected "leading digit") (Value.float <$> float)
    else if c == 't' || c == 'f' then asString (Value.boolean <$> boolean)
    else if c == 'i' then asString (do text "inf"; pure (Value.float (1.0 / 0.0)))
    else if c == 'n' then asString (do text "nan"; pure (Value.float (0.0 / 0.0)))
    else asString stop

/-- **An array**, its items read by `item`. -/
def array (item : Scan Value) : Scan Value := do
  char '['
  let items ← final do
    if (← peek) == some ']' then pure [] else
    let element : Scan Value := do
      gap (← fuel)
      let v ← item
      gap (← fuel)
      pure v
    let items ← sepBy element (char ',') (← fuel)
    if !items.isEmpty then skip (optional (char ','))
    gap (← fuel)
    pure items
  within (.expected "`]`") (within (.label "array") (final (char ']')))
  pure (.array items)

/-- **An inline table**, its values read by `item`. -/
def inlineTable (item : Scan Value) : Scan Value := do
  char '{'
  let pair : Scan (List Key × Key × Value) := do
    let (path, leaf) ← dottedKey
    final do
      within (.expected "`=`") (within (.expected "`.`") (char '='))
      blanks
      let v ← item
      blanks
      pure (path, leaf, v)
  let table ← final <| checked
    (do
      let pairs ← sepBy pair (char ',') (← fuel)
      blanks
      pure pairs)
    fun pairs => (InlineTable.ofPairs pairs).mapError Conflict.message
  within (.expected "`\x7d`") (within (.label "inline table") (final (char '}')))
  pure table

/-- **A value**, with arrays and inline tables nested at most `room` deep inside it. -/
def value : Nat → Scan Value
  | 0 => do
    match ← peek with
    | some '[' | some '{' => tooDeep
    | _ => scalar
  | room + 1 => do
    match ← peek with
    | some '[' => array (value room)
    | some '{' => inlineTable (value room)
    | _ => scalar

/-- The end of a line that holds something: blanks, a comment, then a line break or the
end of the text. -/
def lineEnd : Scan Unit :=
  within (.expected "`#`") (within (.expected "newline") lineTrailing)

/-- **A key-value line.** -/
def keyval : Scan (List Key × Key × Value) := do
  let (path, leaf) ← dottedKey
  final do
    within (.expected "`=`") (within (.expected "`.`") (char '='))
    blanks
    let v ← value (depthLimit - 1)
    lineEnd
    pure (path, leaf, v)

/-- **A header line**: the key of a table, and whether it adds to an array of tables. -/
def header : Scan (List Key × Bool) :=
  within (.label "table header") do
    let opening ← peekN 2
    if opening.length < 2 then stop
    let inArray := opening == ['[', '[']
    let close := if inArray then "]]" else "]"
    text (if inArray then "[[" else "[")
    let (path, leaf) ← final dottedKey
    within (.expected ("`" ++ close ++ "`")) (within (.expected "`.`") (final (text close)))
    final lineEnd
    pure (path ++ [leaf], inArray)

/-- A failure of meaning at `start`, for the text read from there. -/
def conflictAt {α : Type} (start : Nat) (notes : List Note) (c : Conflict) : Scan α :=
  throw { offset := start, notes, cause := some c.message, final := true }

/-- **The lines of a document**, each with the blanks after it, into a reading. -/
def lines : Nat → Reading → Scan Reading
  | 0, r => pure r
  | n + 1, r => do
    match ← peek with
    | none => pure r
    | some '#' => do
      final (do comment; lineEnding)
      blanks
      lines n r
    | some '[' => do
      let start ← offset
      let (path, inArray) ← final header
      match r.header path inArray with
      | .ok r => do blanks; lines n r
      | .error c => conflictAt start [.label "table header"] c
    | some '\n' | some '\r' => do
      match ← optional newline with
      | some _ => do blanks; lines n r
      | none => pure r
    | some _ => do
      let start ← offset
      let (path, leaf, v) ← final keyval
      match r.keyval path leaf v with
      | .ok r => do blanks; lines n r
      | .error c => conflictAt start [] c

/-- **A document**, read to its end. -/
def document : Scan Reading := do
  skip (optional (char '\uFEFF'))
  blanks
  let r ← lines (← fuel) {}
  eof
  pure r

end Scan

/-- **Why a document could not be read.** -/
structure ReadFailure where
  /-- Where, as a count of characters; none for a conflict noticed after the last line. -/
  offset : Option Nat
  message : String

/-- **The value of a TOML document**: the table of its top-level keys. -/
def read (text : String) : Except ReadFailure Value :=
  match Scan.document.run { rest := text.toList } with
  | .error f => .error { offset := some f.offset, message := f.message }
  | .ok (r, _) =>
    match r.finish with
    | .ok root => .ok (Node.toValue root.node)
    | .error c => .error { offset := none, message := c.message }

/-- The line and the column, both counted from zero, of the character at `offset` of `cs`. -/
def place (cs : List Char) (offset : Nat) : Nat × Nat :=
  if cs.isEmpty then (0, offset)
  else
    let atEnd := cs.length ≤ offset
    -- The character the place is measured at: the last one, past the end of the text.
    let mark := if atEnd then cs.length - 1 else offset
    let before := cs.take mark
    let lineStart := before.length - (before.reverse.takeWhile (· != '\n')).length
    let line := (before.take lineStart).count '\n'
    let inLine := before.drop lineStart
    let column :=
      if atEnd then inLine.length + 1
      else if (cs.getD mark ' ').toNat < 0x80 then inLine.length
      else (String.ofList inLine).utf8ByteSize
    (line, column)

/-- **The text of a failure** in the document `text`. -/
def ReadFailure.render (text : String) (f : ReadFailure) : String :=
  match f.offset with
  | none => f.message ++ "\n"
  | some offset =>
    let (line, column) := place text.toList offset
    let width := match text.toList[offset]? with
      | some c => c.utf8Size
      | none => 1
    let number := toString (line + 1)
    let gutter := String.ofList (List.replicate (number.length + 1) ' ')
    let content := ((text.splitOn "\n")[line]?).getD ""
    s!"TOML parse error at line {number}, column {column + 1}\n" ++
      gutter ++ "|\n" ++
      number ++ " | " ++ content ++ "\n" ++
      gutter ++ "|" ++ String.ofList (List.replicate (column + 1) ' ') ++
      String.ofList (List.replicate width '^') ++ "\n" ++
      f.message ++ "\n"

end JobQueue.Toml
