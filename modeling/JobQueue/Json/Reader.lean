import JobQueue.Json.Value
import JobQueue.Decimal.Nearest

/-!
# Reading JSON

A strict reader for JSON text. Failures carry the reader's wording and a position: the line,
and the column counted in bytes from the start of that line. A failure found while
*consuming* a character points at that character; one found while only *looking at* the next
character also points at it, one byte further on; at the end of the text both point at the
end.

The reader follows the usual rules of a streaming JSON reader:

* whitespace is space, tab, newline and carriage return only;
* a number is read as a whole 64-bit number when it has no point and no exponent and fits,
  otherwise as a double: digits past the 64-bit range are dropped into the exponent, and the
  double is formed by one multiplication or division by an exact power of ten (repeated in
  steps of `10^308` for tiny numbers). A double that overflows is an error;
* nesting deeper than 127 arrays or objects is an error;
* strings take the usual escapes, and `\u` escapes must pair surrogates correctly.

The reader is built from small steps over a `Cursor`, so that a decoder can walk an
object member by member and stop at the first member it rejects (see
`Schedule.Encoding`).

* `Cursor` — the unread text and the current position.
* `Reader.value` — one value; objects keep their members in text order, repeats included.
* `Reader.document` — a whole text holding one value and nothing else but whitespace.
-/

namespace JobQueue.Json

/-- **Why a text was not accepted**, with the position where the reader noticed. Failures
found after the text was read (a value of the wrong shape) have no position. -/
structure Error where
  message : String
  position : Option (Nat × Nat) := none
  deriving Repr

/-- The full wording: the message, then the position when there is one. -/
def Error.text (e : Error) : String :=
  match e.position with
  | some (line, column) =>
    e.message ++ " at line " ++ Nat.repr line ++ " column " ++ Nat.repr column
  | none => e.message

/-- The unread text and the position reached. -/
structure Cursor where
  rest : List Char
  line : Nat := 1
  column : Nat := 0

namespace Cursor

/-- A cursor at the start of a text. -/
def start (s : String) : Cursor := { rest := s.toList }

/-- The next character, if any. -/
def peek (c : Cursor) : Option Char := c.rest.head?

/-- Consume one character. -/
def bump (c : Cursor) : Cursor :=
  match c.rest with
  | [] => c
  | ch :: rest =>
    if ch == '\n' then { rest, line := c.line + 1, column := 0 }
    else { rest, line := c.line, column := c.column + ch.utf8Size }

/-- Consuming a character shortens the unread text. -/
theorem length_bump_lt {c : Cursor} {ch : Char} {t : List Char} (h : c.rest = ch :: t) :
    c.bump.rest.length < c.rest.length := by
  simp only [bump, h]
  split <;> simp

/-- Where a failure on a consumed character is reported. -/
def here (c : Cursor) : Nat × Nat := (c.line, c.column)

/-- Where a failure on the next, unconsumed character is reported. -/
def ahead (c : Cursor) : Nat × Nat :=
  match c.rest with
  | [] => (c.line, c.column)
  | '\n' :: _ => (c.line + 1, 0)
  | _ :: _ => (c.line, c.column + 1)

/-- Skip whitespace. -/
def skipSpace (c : Cursor) : Cursor :=
  match _h : c.rest with
  | ch :: _ =>
    if ch == ' ' || ch == '\t' || ch == '\r' || ch == '\n' then skipSpace c.bump else c
  | [] => c
termination_by c.rest.length
decreasing_by exact length_bump_lt _h

/-- Consume characters until `n` bytes are used up or the text ends. -/
def advanceBytes (c : Cursor) (n : Nat) : Cursor :=
  match n, c.rest with
  | 0, _ => c
  | _, [] => c
  | n + 1, ch :: _ =>
    if ch.utf8Size ≤ n + 1 then advanceBytes c.bump (n + 1 - ch.utf8Size)
    else { c with column := c.column + (n + 1) }
termination_by n
decreasing_by exact Nat.sub_lt (Nat.succ_pos _) (Char.utf8Size_pos _)

end Cursor

/-- A failure at the consumed position. -/
def Cursor.fail {α : Type} (c : Cursor) (msg : String) : Except Error α :=
  .error { message := msg, position := some c.here }

/-- A failure at the position of the next character. -/
def Cursor.failAhead {α : Type} (c : Cursor) (msg : String) : Except Error α :=
  .error { message := msg, position := some c.ahead }

namespace Reader

/-- Nesting allowed: a 128th open array or object is refused. -/
def nestingLimit : Nat := 127

/-- `u64` bound. -/
def maxNatural : Nat := 18446744073709551615

/-- `i32` bound for exponents. -/
def maxExponent : Nat := 2147483647

/-- The double `10^k`, exact when it can be and rounded to nearest otherwise. -/
def powTen (k : Nat) : Decimal.Double := .ofNat (Nat.pow 10 k)

/-- Consume the rest of a keyword such as `null` after its first letter. -/
def keyword (c : Cursor) : List Char → Except Error Cursor
  | [] => .ok c
  | e :: es =>
    match c.peek with
    | none => c.fail "EOF while parsing a value"
    | some ch => if ch == e then keyword c.bump es else c.bump.fail "expected ident"

/-! ## Numbers -/

/-- Combine significand and decimal exponent into a double: one multiplication or division
by an exact power of ten, or steps of `10^308` below that range. -/
def floatOfParts (c : Cursor) (positive : Bool) (sig : Nat) (exp : Int) :
    Except Error Decimal.Double :=
  go (.ofNat sig) exp (exp.natAbs / 308 + 2)
where
  go (f : Decimal.Double) (exp : Int) : Nat → Except Error Decimal.Double
    | 0 => .ok (if positive then f else -f)
    | fuel + 1 =>
      if exp.natAbs ≤ 308 then
        if exp ≥ 0 then
          let g := f * powTen exp.toNat
          if g.isInf then c.fail "number out of range" else .ok (if positive then g else -g)
        else
          let g := f / powTen exp.natAbs
          .ok (if positive then g else -g)
      else if f == .zero then .ok (if positive then f else -f)
      else if exp ≥ 0 then c.fail "number out of range"
      else go (f / powTen 308) (exp + 308) fuel

/-- Skip digits. -/
def skipDigits (c : Cursor) : Cursor :=
  match _h : c.rest with
  | ch :: _ => if ch.isDigit then skipDigits c.bump else c
  | [] => c
termination_by c.rest.length
decreasing_by exact Cursor.length_bump_lt _h

/-- The value of a decimal digit. -/
def digitValue (ch : Char) : Nat := ch.toNat - '0'.toNat

/-- The exponent part, after `e` or `E`. -/
def exponent (c : Cursor) (positive : Bool) (sig : Nat) (start : Int) :
    Except Error (Decimal.Double × Cursor) := do
  let c := c.bump
  let (positiveExp, c) := match c.peek with
    | some '+' => (true, c.bump)
    | some '-' => (false, c.bump)
    | _ => (true, c)
  match c.peek with
  | none => c.fail "EOF while parsing a value"
  | some ch =>
    if !ch.isDigit then c.bump.fail "invalid number"
    else digits c.bump (digitValue ch) positiveExp
where
  digits (c : Cursor) (acc : Nat) (positiveExp : Bool) : Except Error (Decimal.Double × Cursor) :=
    match _h : c.rest with
    | ch :: _ =>
      if ch.isDigit then
        let c' := c.bump
        let next := acc * 10 + digitValue ch
        if next > maxExponent then
          -- an exponent past the 32-bit range: zero, or out of range when growing
          if sig != 0 && positiveExp then c'.fail "number out of range"
          else .ok (if positive then .zero else .negZero, skipDigits c')
        else digits c' next positiveExp
      else finish c acc positiveExp
    | [] => finish c acc positiveExp
  termination_by c.rest.length
  decreasing_by exact Cursor.length_bump_lt _h
  finish (c : Cursor) (acc : Nat) (positiveExp : Bool) : Except Error (Decimal.Double × Cursor) := do
    let e : Int := if positiveExp then start + acc else start - acc
    let e := max (-2147483648) (min 2147483647 e)
    let f ← floatOfParts c positive sig e
    return (f, c)

/-- Digits after the significand overflowed: they are skipped. -/
def afterOverflow (c : Cursor) (positive : Bool) (sig : Nat) (exp : Int) :
    Except Error (Decimal.Double × Cursor) := do
  let c := skipDigits c
  match c.peek with
  | some 'e' | some 'E' => exponent c positive sig exp
  | _ => do
    let f ← floatOfParts c positive sig exp
    return (f, c)

/-- The fraction part, after the point. -/
def fraction (c : Cursor) (positive : Bool) (sig : Nat) (before : Int) :
    Except Error (Decimal.Double × Cursor) :=
  go c.bump sig 0
where
  go (c : Cursor) (sig : Nat) (after : Int) : Except Error (Decimal.Double × Cursor) :=
    match _h : c.rest with
    | ch :: _ =>
      if ch.isDigit then
        let next := sig * 10 + digitValue ch
        if next > maxNatural then afterOverflow c positive sig (before + after)
        else go c.bump next (after - 1)
      else done c sig after
    | [] => done c sig after
  termination_by c.rest.length
  decreasing_by exact Cursor.length_bump_lt _h
  done (c : Cursor) (sig : Nat) (after : Int) : Except Error (Decimal.Double × Cursor) := do
    if after == 0 then
      match c.peek with
      | some _ => c.failAhead "invalid number"
      | none => c.failAhead "EOF while parsing a value"
    else
      match c.peek with
      | some 'e' | some 'E' => exponent c positive sig (before + after)
      | _ => do
        let f ← floatOfParts c positive sig (before + after)
        return (f, c)

/-- Digits beyond the 64-bit range of a whole number: each one raises the exponent. -/
def longWhole (c : Cursor) (positive : Bool) (sig : Nat) (exp : Int) :
    Except Error (Decimal.Double × Cursor) :=
  match _h : c.rest with
  | ch :: _ =>
    if ch.isDigit then longWhole c.bump positive sig (exp + 1)
    else if ch == '.' then fraction c positive sig exp
    else if ch == 'e' || ch == 'E' then exponent c positive sig exp
    else do
      let f ← floatOfParts c positive sig exp
      return (f, c)
  | [] => do
    let f ← floatOfParts c positive sig exp
    return (f, c)
termination_by c.rest.length
decreasing_by exact Cursor.length_bump_lt _h

/-- What follows the whole part of a number. -/
def afterWhole (c : Cursor) (positive : Bool) (sig : Nat) : Except Error (Number × Cursor) :=
  match c.peek with
  | some '.' => do
    let (f, c) ← fraction c positive sig 0
    return (.float f, c)
  | some 'e' | some 'E' => do
    let (f, c) ← exponent c positive sig 0
    return (.float f, c)
  | _ =>
    if positive then .ok (.natural sig, c)
    else if sig == 0 then .ok (.float .negZero, c)
    else if sig ≤ 9223372036854775808 then .ok (.negative (-(sig : Int)), c)
    else .ok (.float (-(.ofNat sig)), c)

/-- The digits of the whole part, kept as a 64-bit number while they fit. -/
def wholeDigits (c : Cursor) (positive : Bool) (sig : Nat) : Except Error (Number × Cursor) :=
  match _h : c.rest with
  | ch :: _ =>
    if ch.isDigit then
      let next := sig * 10 + digitValue ch
      if next > maxNatural then do
        let (f, c) ← longWhole c positive sig 0
        return (.float f, c)
      else wholeDigits c.bump positive next
    else afterWhole c positive sig
  | [] => afterWhole c positive sig
termination_by c.rest.length
decreasing_by exact Cursor.length_bump_lt _h

/-- **A number**, after its minus sign if it has one. -/
def number (c : Cursor) (positive : Bool) : Except Error (Number × Cursor) :=
  match c.peek with
  | none => c.fail "EOF while parsing a value"
  | some '0' =>
    let c := c.bump
    match c.peek with
    | some ch => if ch.isDigit then c.failAhead "invalid number" else afterWhole c positive 0
    | none => afterWhole c positive 0
  | some ch =>
    if ch.isDigit then wholeDigits c.bump positive (digitValue ch)
    else c.bump.fail "invalid number"

/-! ## Strings -/

/-- The value of a hex digit. -/
def hexValue (ch : Char) : Option Nat :=
  if ch.isDigit then some (digitValue ch)
  else if 'a' ≤ ch && ch ≤ 'f' then some (ch.toNat - 'a'.toNat + 10)
  else if 'A' ≤ ch && ch ≤ 'F' then some (ch.toNat - 'A'.toNat + 10)
  else none

/-- Four hex digits of a `\u` escape. Fewer than four bytes left is an unfinished string;
four bytes that are not all hex digits are an invalid escape. -/
def hexEscape (c : Cursor) : Except Error (Nat × Cursor) :=
  match _h : c.rest with
  | a :: b :: d :: e :: _ =>
    match hexValue a, hexValue b, hexValue d, hexValue e with
    | some x, some y, some z, some w =>
      .ok (((x * 16 + y) * 16 + z) * 16 + w, c.bump.bump.bump.bump)
    | _, _, _, _ => (c.advanceBytes 4).fail "invalid escape"
  | short =>
    let bytes := short.foldl (fun n ch => n + ch.utf8Size) 0
    if bytes ≥ 4 then (c.advanceBytes 4).fail "invalid escape"
    else (c.advanceBytes bytes).fail "EOF while parsing a string"

/-- A `\u` escape, after the `u`: a character of the basic plane, or a surrogate pair. -/
def unicodeEscape (c : Cursor) : Except Error (Char × Cursor) := do
  let (n, c) ← hexEscape c
  if 0xDC00 ≤ n && n ≤ 0xDFFF then c.fail "lone leading surrogate in hex escape"
  else if n < 0xD800 || n > 0xDBFF then return (Char.ofNat n, c)
  else
    match c.peek with
    | none => c.fail "EOF while parsing a string"
    | some '\\' =>
      let c := c.bump
      match c.peek with
      | none => c.fail "EOF while parsing a string"
      | some 'u' =>
        let (n2, c) ← hexEscape c.bump
        if n2 < 0xDC00 || n2 > 0xDFFF then c.fail "lone leading surrogate in hex escape"
        else return (Char.ofNat ((n - 0xD800) * 1024 + (n2 - 0xDC00) + 0x10000), c)
      | some _ => c.bump.fail "unexpected end of hex escape"
    | some _ => c.bump.fail "unexpected end of hex escape"

/-- One escape, after the backslash. -/
def escape (c : Cursor) : Except Error (Char × Cursor) :=
  match c.peek with
  | none => c.fail "EOF while parsing a string"
  | some ch =>
    let c' := c.bump
    match ch with
    | '"' => .ok ('"', c')
    | '\\' => .ok ('\\', c')
    | '/' => .ok ('/', c')
    | 'b' => .ok ('\x08', c')
    | 'f' => .ok ('\x0c', c')
    | 'n' => .ok ('\n', c')
    | 'r' => .ok ('\r', c')
    | 't' => .ok ('\t', c')
    | 'u' => unicodeEscape c'
    | _ => c'.fail "invalid escape"

/-- The rest of a string, after its opening quote. -/
def string (fuel : Nat) (c : Cursor) (acc : Array Char) : Except Error (String × Cursor) :=
  match fuel with
  | 0 => c.fail "EOF while parsing a string"
  | fuel + 1 =>
    match c.peek with
    | none => c.fail "EOF while parsing a string"
    | some '"' => .ok (String.ofList acc.toList, c.bump)
    | some '\\' => do
      let (ch, c) ← escape c.bump
      string fuel c (acc.push ch)
    | some ch =>
      if ch.toNat < 0x20 then c.bump.fail "control character (\\u0000-\\u001F) found while parsing a string"
      else string fuel c.bump (acc.push ch)

/-! ## Values -/

mutual

/-- **One value**, after leading whitespace. `depth` counts the arrays and objects still
allowed to open. -/
def value (fuel depth : Nat) (c : Cursor) : Except Error (Value × Cursor) :=
  match fuel with
  | 0 => c.failAhead "EOF while parsing a value"
  | fuel + 1 =>
    let c := c.skipSpace
    match c.peek with
    | none => c.failAhead "EOF while parsing a value"
    | some 'n' => do return (.null, ← keyword c.bump ['u', 'l', 'l'])
    | some 't' => do return (.bool true, ← keyword c.bump ['r', 'u', 'e'])
    | some 'f' => do return (.bool false, ← keyword c.bump ['a', 'l', 's', 'e'])
    | some '-' => do
      let (n, c) ← number c.bump false
      return (.number n, c)
    | some '"' => do
      let (s, c) ← string c.rest.length c.bump #[]
      return (.string s, c)
    | some '[' =>
      if depth == 0 then c.failAhead "recursion limit exceeded"
      else do
        let (items, c) ← elements fuel (depth - 1) c.bump true []
        return (.array items, c)
    | some '{' =>
      if depth == 0 then c.failAhead "recursion limit exceeded"
      else do
        let (members, c) ← members fuel (depth - 1) c.bump true []
        return (.object members, c)
    | some ch =>
      if ch.isDigit then do
        let (n, c) ← number c true
        return (.number n, c)
      else c.failAhead "expected value"

/-- The elements of an array, after `[` or after the previous element. -/
def elements (fuel depth : Nat) (c : Cursor) (first : Bool) (acc : List Value) :
    Except Error (List Value × Cursor) :=
  match fuel with
  | 0 => c.failAhead "EOF while parsing a list"
  | fuel + 1 =>
    let c := c.skipSpace
    match c.peek with
    | some ']' => .ok (acc.reverse, c.bump)
    | none => c.failAhead "EOF while parsing a list"
    | some ch =>
      let next : Except Error Cursor :=
        if ch == ',' && !first then .ok c.bump.skipSpace
        else if first then .ok c
        else c.failAhead "expected `,` or `]`"
      match next with
      | .error e => .error e
      | .ok c =>
        match c.peek with
        | some ']' => c.failAhead "trailing comma"
        | none => c.failAhead "EOF while parsing a value"
        | some _ => do
          let (v, c) ← value fuel depth c
          elements fuel depth c false (v :: acc)

/-- The members of an object, after `{` or after the previous member. -/
def members (fuel depth : Nat) (c : Cursor) (first : Bool) (acc : List (String × Value)) :
    Except Error (List (String × Value) × Cursor) :=
  match fuel with
  | 0 => c.failAhead "EOF while parsing an object"
  | fuel + 1 =>
    let c := c.skipSpace
    match c.peek with
    | some '}' => .ok (acc.reverse, c.bump)
    | none => c.failAhead "EOF while parsing an object"
    | some ch =>
      let next : Except Error Cursor :=
        if ch == ',' && !first then .ok c.bump.skipSpace
        else if first then .ok c
        else c.failAhead "expected `,` or `\x7d`"
      match next with
      | .error e => .error e
      | .ok c =>
        match c.peek with
        | some '"' => do
          let (k, c) ← string c.rest.length c.bump #[]
          let c ← colon c
          let (v, c) ← value fuel depth c
          members fuel depth c false ((k, v) :: acc)
        | some '}' => c.failAhead "trailing comma"
        | some _ => c.failAhead "key must be a string"
        | none => c.failAhead "EOF while parsing a value"

/-- The colon between a key and its value. -/
def colon (c : Cursor) : Except Error Cursor :=
  let c := c.skipSpace
  match c.peek with
  | some ':' => .ok c.bump
  | some _ => c.failAhead "expected `:`"
  | none => c.failAhead "EOF while parsing an object"

end

/-- Nothing but whitespace may follow the value. -/
def finish (c : Cursor) : Except Error Unit :=
  let c := c.skipSpace
  match c.peek with
  | some _ => c.failAhead "trailing characters"
  | none => .ok ()

/-- Fuel enough for any value in a text of this length. -/
def fuelFor (c : Cursor) : Nat := 2 * c.rest.length + 4

/-- **A whole text holding one value**, objects kept in text order. -/
def document (s : String) : Except Error Value := do
  let c := Cursor.start s
  let (v, c) ← value (fuelFor c) nestingLimit c
  finish c
  return v

end Reader

end JobQueue.Json
