import JobQueue.Toml.Scan

/-!
# TOML strings and keys

The four forms of a TOML string, and the keys built from them:

* basic strings `"…"`, with backslash escapes (`\b \f \n \r \t \" \\`, `\uXXXX`,
  `\UXXXXXXXX`);
* literal strings `'…'`, taken as written;
* multi-line basic strings `"""…"""`, where a backslash at the end of a line removes the
  line break and the blanks after it;
* multi-line literal strings `'''…'''`.

A newline right after the opening delimiter of a multi-line string is dropped. A key is a
bare word of ASCII letters, digits, `-` and `_`, or a basic or literal string; dotted keys
join several with `.`, blanks allowed around the dots.

* `Scan.string` — one string value; `Scan.key` — a dotted key, each part with its text as
  written.
-/

namespace JobQueue.Toml

/-- A key part: its name and its text as written. -/
structure Key where
  name : String
  raw : String

/-- Space and tab. -/
def isBlank (c : Char) : Bool := c == ' ' || c == '\t'

/-- Characters allowed in comments. -/
def isCommentChar (c : Char) : Bool :=
  c == '\t' || (0x20 ≤ c.toNat && c.toNat ≤ 0x7E) || 0x80 ≤ c.toNat

/-- Characters a basic string holds without escaping. -/
def isBasicChar (c : Char) : Bool :=
  isBlank c || c.toNat == 0x21 || (0x23 ≤ c.toNat && c.toNat ≤ 0x5B) ||
    (0x5D ≤ c.toNat && c.toNat ≤ 0x7E) || 0x80 ≤ c.toNat

/-- Characters a literal string holds. -/
def isLiteralChar (c : Char) : Bool :=
  c.toNat == 0x09 || (0x20 ≤ c.toNat && c.toNat ≤ 0x26) || (0x28 ≤ c.toNat && c.toNat ≤ 0x7E) ||
    0x80 ≤ c.toNat

/-- Characters of bare keys. -/
def isBareKeyChar (c : Char) : Bool :=
  (c.isAlphanum && c.toNat < 0x80) || c == '-' || c == '_'

/-- Hexadecimal digits. -/
def isHexDigit (c : Char) : Bool :=
  c.isDigit || ('a' ≤ c && c ≤ 'f') || ('A' ≤ c && c ≤ 'F')

/-- The value of hexadecimal digits. -/
def hexValue (cs : List Char) : Nat :=
  cs.foldl (fun acc c =>
    acc * 16 + (if c.isDigit then c.toNat - '0'.toNat
      else if 'a' ≤ c && c ≤ 'f' then c.toNat - 'a'.toNat + 10 else c.toNat - 'A'.toNat + 10)) 0

namespace Scan

/-- Blanks. -/
def blanks : Scan Unit := skip (takeWhile isBlank)

/-- A comment, up to the end of its line. -/
def comment : Scan Unit := do
  char '#'
  skip (takeWhile isCommentChar)

/-- A line break: `\n` or `\r\n`. -/
def newline : Scan Unit := do
  match ← peek with
  | some '\n' => bump
  | some '\r' => do bump; char '\n'
  | some _ => do bump; stop
  | none => stop

/-- The end of a line, or of the text. -/
def lineEnding : Scan Unit := first newline eof

/-- What may end a line after its content: blanks and a comment, then the line's end. -/
def lineTrailing : Scan Unit := do
  blanks
  skip (optional comment)
  lineEnding

/-- Blanks and line breaks, at least one line break first. -/
def blankLines : Scan Unit := do
  newline
  skip (many (first newline (skip (takeWhile1 isBlank))) (← fuel))

/-- Blanks, comments and line breaks, as long as they come. -/
def gap : Nat → Scan Unit
  | 0 => pure ()
  | n + 1 => do
    blanks
    match ← peek with
    | some '#' => do comment; newline; gap n
    | some '\n' | some '\r' => do newline; gap n
    | _ => pure ()

/-- A character given by its hexadecimal code, of exactly `n` digits. -/
def hexEscape (n : Nat) : Scan Char :=
  checked
    (fromStart do
      let ds ← takeUpTo n isHexDigit
      if ds.length == n then pure ds else stop)
    fun digits =>
      let code := hexValue digits
      if code < 0xD800 || (0xDFFF < code && code < 0x110000) then .ok (Char.ofNat code)
      else .error "value is out of range"

/-- The character after a backslash. -/
def escaped : Scan Char := do
  char '\\'
  match ← peek with
  | none => stop
  | some c => do
    bump
    match c with
    | 'b' => pure (Char.ofNat 8)
    | 'f' => pure (Char.ofNat 12)
    | 'n' => pure '\n'
    | 'r' => pure '\r'
    | 't' => pure '\t'
    | '\\' => pure '\\'
    | '"' => pure '"'
    | 'u' => within (.label "unicode 4-digit hex code") (final (hexEscape 4))
    | 'U' => within (.label "unicode 8-digit hex code") (final (hexEscape 8))
    | _ => final (stopWith ([.label "escape sequence"] ++
        ["b", "f", "n", "r", "t", "u", "U", "\\", "\""].map fun e => .expected ("`" ++ e ++ "`")))

/-- A piece of a basic string: a run of plain characters or one escape. -/
def basicPiece : Scan (List Char) :=
  first (takeWhile1 isBasicChar) ((fun c => [c]) <$> escaped)

/-- **A basic string.** -/
def basicString : Scan String := do
  char '"'
  let pieces ← many basicPiece (← fuel)
  within (.label "basic string") (final (char '"'))
  pure (String.ofList pieces.flatten)

/-- **A literal string.** -/
def literalString : Scan String :=
  within (.label "literal string") do
    char '\''
    let body ← takeWhile isLiteralChar
    final (char '\'')
    pure (String.ofList body)

/-- Characters a multi-line basic string holds without escaping. -/
def isMultiBasicChar (c : Char) : Bool := isBasicChar c

/-- A backslash ending a line, with the blanks and line breaks after it. -/
def lineContinuation : Scan Unit := do
  let step : Scan Unit := do char '\\'; blanks; blankLines
  step
  skip (many step (← fuel))

/-- A piece of a multi-line basic string. -/
def multiBasicPiece : Scan (List Char) :=
  first (takeWhile1 isMultiBasicChar) <|
    first (do lineContinuation; pure []) <|
      first ((fun c => [c]) <$> escaped) (do newline; pure ['\n'])

/-- One or two quotes followed by what `next` accepts (not consumed). -/
def quotes (q : Char) (next : Scan Unit) : Scan (List Char) :=
  let ahead : Scan Unit := do
    let c ← get
    tryCatch next (fun e => do set c; throw e)
    set c
  first (do char q; char q; ahead; pure [q, q]) (do char q; ahead; pure [q])

/-- The body of a multi-line basic string. -/
def multiBasicBody : Scan (List Char) := do
  let head ← many multiBasicPiece (← fuel)
  let rec tail : Nat → Scan (List Char)
    | 0 => pure []
    | n + 1 => do
      match ← optional (quotes '"' (skip (charIf (· != '"')))) with
      | some qs => do
        let more ← many multiBasicPiece (← fuel)
        if more.isEmpty then
          -- The quotes are read, yet nothing the string may hold follows: the loop ends, and
          -- the quotes are not kept.
          pure []
        else return qs ++ more.flatten ++ (← tail n)
      | none => pure []
  let middle ← tail (← fuel)
  let closing ← optional (quotes '"' (text "\"\"\""))
  pure (head.flatten ++ middle ++ closing.getD [])

/-- **A multi-line basic string.** -/
def multiBasicString : Scan String :=
  within (.label "multiline basic string") do
    text "\"\"\""
    skip (optional newline)
    let body ← final multiBasicBody
    final (text "\"\"\"")
    pure (String.ofList body)

/-- A piece of a multi-line literal string. -/
def multiLiteralPiece : Scan Char :=
  first (charIf isLiteralChar) (do newline; pure '\n')

/-- The body of a multi-line literal string. -/
def multiLiteralBody : Scan (List Char) := do
  let head ← many multiLiteralPiece (← fuel)
  let rec tail : Nat → Scan (List Char)
    | 0 => pure []
    | n + 1 => do
      let step : Scan (List Char) := do
        let qs ← quotes '\'' (skip (charIf (· != '\'')))
        let c ← multiLiteralPiece
        let more ← many multiLiteralPiece (← fuel)
        pure (qs ++ c :: more)
      match ← optional step with
      | some part => return part ++ (← tail n)
      | none => pure []
  let middle ← tail (← fuel)
  let closing ← optional (quotes '\'' (text "'''"))
  pure (head ++ middle ++ closing.getD [])

/-- **A multi-line literal string.** -/
def multiLiteralString : Scan String :=
  within (.label "multiline literal string") do
    text "'''"
    skip (optional newline)
    let body ← final multiLiteralBody
    final (text "'''")
    pure (String.ofList body)

/-- **A string value**, in any of the four forms. -/
def string : Scan String :=
  first multiBasicString <| first basicString <| first multiLiteralString literalString

/-- One part of a key, with its text as written. -/
def simpleKey : Scan Key := do
  let (name, raw) ← spanned do
    match ← peek with
    | some '"' => basicString
    | some '\'' => literalString
    | _ => String.ofList <$> takeWhile1 isBareKeyChar
  pure { name, raw := String.ofList raw }

/-- **A dotted key**: its parts in order. -/
def key : Scan (List Key) :=
  within (.label "key") do
    let part : Scan Key := do
      blanks
      let k ← simpleKey
      blanks
      pure k
    sepBy1 part (char '.') (← fuel)

end Scan

end JobQueue.Toml
