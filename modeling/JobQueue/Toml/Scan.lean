/-!
# Scanning TOML text

The TOML reader is built from small scanners over the unread characters. A scanner either
succeeds, consuming some characters, or fails; a failure records

* where the text stood when it was noticed (a character offset),
* what was being read (*labels*, innermost first) and what would have been accepted
  (*expectations*), added as the failure passes outwards,
* a cause, for failures of meaning rather than form ("number too large to fit in target
  type"),
* and whether it is *final*. A failure that is not final lets an enclosing choice try its
  next option from where the choice began; a final one ends the reading.

Most scanners fail where they stand. A few report at the place where they began instead:
one that checks what it has read (a number's range, a table's uniqueness) and one that reads
a second time inside what it has read.

A failure is worded as: `invalid <first label>`, then a line `expected <expectations>`, then
the cause, each only when present.

* `Failure`, `Failure.message` — failures and their wording.
* `Scan` — scanners; `first`, `optional`, `final`, `within`, `checked`, `fromStart`.
-/

namespace JobQueue.Toml

/-- What a failure says about where it happened. -/
inductive Note where
  /-- What was being read. -/
  | label (what : String)
  /-- What would have been accepted there. -/
  | expected (what : String)

/-- **A failure to read**, at a character offset. -/
structure Failure where
  offset : Nat
  notes : List Note := []
  cause : Option String := none
  /-- Whether the reading ends here, without trying other options. -/
  final : Bool := false

/-- **The wording of a failure**: the first label, the expectations, the cause, one per line. -/
def Failure.message (f : Failure) : String :=
  let label := f.notes.findSome? fun
    | .label w => some w
    | .expected _ => none
  let expected := f.notes.filterMap fun
    | .expected w => some w
    | .label _ => none
  let lines := (label.map ("invalid " ++ ·)).toList ++
    (if expected.isEmpty then [] else ["expected " ++ ", ".intercalate expected]) ++ f.cause.toList
  "\n".intercalate lines

/-- The unread characters and how many have been read. -/
structure Cursor where
  rest : List Char
  offset : Nat := 0

/-- **A scanner.** -/
abbrev Scan := StateT Cursor (Except Failure)

namespace Scan

/-- The next character. -/
def peek : Scan (Option Char) := do return (← get).rest.head?

/-- The next characters, up to `n`. -/
def peekN (n : Nat) : Scan (List Char) := do return (← get).rest.take n

/-- The offset reached. -/
def offset : Scan Nat := do return (← get).offset

/-- Consume one character. -/
def bump : Scan Unit := modify fun c =>
  match c.rest with
  | [] => c
  | _ :: rest => { rest, offset := c.offset + 1 }

/-- Fail here, not finally. -/
def stop {α : Type} : Scan α := do throw { offset := (← get).offset }

/-- Fail here, with notes. -/
def stopWith {α : Type} (notes : List Note) : Scan α := do
  throw { offset := (← get).offset, notes }

/-- Consume one given character. -/
def char (ch : Char) : Scan Unit := do
  if (← peek) == some ch then bump else stop

/-- Consume one character that satisfies `p`. -/
def charIf (p : Char → Bool) : Scan Char := do
  match ← peek with
  | some ch => if p ch then do bump; pure ch else stop
  | none => stop

/-- Consume a given text, entirely or not at all. -/
def text (t : String) : Scan Unit := do
  let c ← get
  if c.rest.take t.length == t.toList then
    set { rest := c.rest.drop t.length, offset := c.offset + t.length : Cursor }
  else stop

/-- Consume the longest run of characters satisfying `p`. -/
def takeWhile (p : Char → Bool) : Scan (List Char) := do
  let c ← get
  let run := c.rest.takeWhile p
  set { rest := c.rest.drop run.length, offset := c.offset + run.length : Cursor }
  pure run

/-- Consume a nonempty run of characters satisfying `p`. -/
def takeWhile1 (p : Char → Bool) : Scan (List Char) := do
  let run ← takeWhile p
  if run.isEmpty then stop else pure run

/-- Consume at most `n` characters satisfying `p`. -/
def takeUpTo (n : Nat) (p : Char → Bool) : Scan (List Char) := do
  let c ← get
  let run := (c.rest.takeWhile p).take n
  set { rest := c.rest.drop run.length, offset := c.offset + run.length : Cursor }
  pure run

/-- Whether the text has ended. -/
def atEnd : Scan Bool := do return (← get).rest.isEmpty

/-- Succeed only at the end of the text. -/
def eof : Scan Unit := do
  if !(← atEnd) then stop

/-- Add a note to a failure passing outwards. -/
def within {α : Type} (n : Note) (s : Scan α) : Scan α :=
  tryCatch s fun e => throw { e with notes := e.notes ++ [n] }

/-- Make every failure of `s` final. -/
def final {α : Type} (s : Scan α) : Scan α :=
  tryCatch s fun e => throw { e with final := true }

/-- **Try `s`, else `t`** from the same place; a final failure of `s` is not retried. -/
def first {α : Type} (s t : Scan α) : Scan α :=
  tryCatch s fun e => if e.final then throw e else t

/-- **Try `s`**: nothing if it fails, not finally, consuming nothing then. -/
def optional {α : Type} (s : Scan α) : Scan (Option α) :=
  tryCatch (some <$> s) fun e => if e.final then throw e else pure none

/-- Run `s` but report any failure at the place where it began. -/
def fromStart {α : Type} (s : Scan α) : Scan α := do
  let at0 ← offset
  tryCatch s fun e => throw { e with offset := at0 }

/-- **Read with `s`, then check what was read**; a refusal is reported, with its cause, where
the reading began. -/
def checked {α β : Type} (s : Scan α) (f : α → Except String β) : Scan β := do
  let at0 ← offset
  let a ← s
  match f a with
  | .ok b => pure b
  | .error cause => throw { offset := at0, cause := some cause }

/-- Read with `s` and keep the characters it consumed. -/
def spanned {α : Type} (s : Scan α) : Scan (α × List Char) := do
  let c ← get
  let a ← s
  let c' ← get
  pure (a, c.rest.take (c'.offset - c.offset))

/-- Repeat `s` while it succeeds, at most `fuel` times. -/
def many {α : Type} (s : Scan α) : Nat → Scan (List α)
  | 0 => pure []
  | fuel + 1 => do
    match ← optional s with
    | some a => return a :: (← many s fuel)
    | none => pure []

/-- `s` separated by `sep`: after a separator, an item that fails (not finally) ends the
list, and the separator is left unread. -/
def sepTail {α : Type} (s : Scan α) (sep : Scan Unit) : Nat → Scan (List α)
  | 0 => pure []
  | fuel + 1 => do
    match ← optional (do sep; s) with
    | some a => return a :: (← sepTail s sep fuel)
    | none => pure []

/-- One or more `s` separated by `sep`. -/
def sepBy1 {α : Type} (s : Scan α) (sep : Scan Unit) (fuel : Nat) : Scan (List α) := do
  let a ← s
  return a :: (← sepTail s sep fuel)

/-- Zero or more `s` separated by `sep`. -/
def sepBy {α : Type} (s : Scan α) (sep : Scan Unit) (fuel : Nat) : Scan (List α) := do
  match ← optional s with
  | some a => return a :: (← Scan.sepTail s sep fuel)
  | none => pure []

/-- Discard a result. -/
def skip {α : Type} (s : Scan α) : Scan Unit := do let _ ← s

/-- The fuel for loops over the rest of the text. -/
def fuel : Scan Nat := do return (← get).rest.length + 1

end Scan

end JobQueue.Toml
