import JobQueue.Json.Reader
import JobQueue.Text.Escaped
import JobQueue.Decimal.Layout

/-!
# When JSON does not fit the data

Turning a JSON value into data can fail for reasons of shape rather than syntax: a value of
the wrong kind, a value out of range, a missing or repeated field, an unknown variant name,
a sequence of the wrong length. Each reason has a fixed wording, and a value found where
another was expected is described by its kind and, for scalars, by its text: booleans,
integers and floating-point numbers with their text in backquotes, strings as escaped
literals, and `null`, `sequence`, `map` alone. A double is written as data text
(`Decimal.Layout.json`), so that it always reads as one: `60.0`, `1e+16`, `2.5e-8`.

These failures carry no position; the reader adds one where it detects them while reading.

* `Value.unexpected` — how a found value is described.
* `Mismatch` — the reasons, and `Mismatch.error` for the error they make.
-/

namespace JobQueue.Json

/-- The description of a number. -/
def Number.unexpected : Number → String
  | .natural n => s!"integer `{n}`"
  | .negative n => s!"integer `{n}`"
  | .float f => "floating point `" ++ Decimal.Layout.json.renderBits f.bits ++ "`"

/-- **How a found value is described.** -/
def Value.unexpected : Value → String
  | .null => "null"
  | .bool b => if b then "boolean `true`" else "boolean `false`"
  | .number n => n.unexpected
  | .string s => "string " ++ Text.escapedLiteral s
  | .array _ => "sequence"
  | .object _ => "map"

/-- Names in backquotes, joined as a list: `` `a`, `b` ``. -/
def quotedNames (names : List String) : String :=
  ", ".intercalate (names.map fun n => "`" ++ n ++ "`")

/-- **Why a JSON value does not fit.** -/
inductive Mismatch where
  /-- A value of the wrong kind, described by `Value.unexpected`. -/
  | invalidType (found expected : String)
  /-- A value of the right kind out of range. -/
  | invalidValue (found expected : String)
  /-- A sequence of the wrong length. -/
  | invalidLength (length : Nat) (expected : String)
  /-- A variant name that is not one of `variants`. -/
  | unknownVariant (name : String) (variants : List String)
  | missingField (name : String)
  | duplicateField (name : String)
  /-- A fitting value that the data rejected for a reason of its own. -/
  | custom (message : String)
  deriving DecidableEq, Repr

/-- The wording of each reason. -/
def Mismatch.message : Mismatch → String
  | .invalidType found expected => s!"invalid type: {found}, expected {expected}"
  | .invalidValue found expected => s!"invalid value: {found}, expected {expected}"
  | .invalidLength n expected => s!"invalid length {n}, expected {expected}"
  | .unknownVariant name [] => "unknown variant `" ++ name ++ "`, there are no variants"
  | .unknownVariant name [v] => "unknown variant `" ++ name ++ "`, expected `" ++ v ++ "`"
  | .unknownVariant name vs => "unknown variant `" ++ name ++ "`, expected one of " ++ quotedNames vs
  | .missingField name => "missing field `" ++ name ++ "`"
  | .duplicateField name => "duplicate field `" ++ name ++ "`"
  | .custom message => message

/-- The error of a mismatch, without a position. -/
def Mismatch.error (m : Mismatch) : Error := { message := m.message }

/-- The error of a mismatch detected at a cursor. -/
def Mismatch.errorAt (m : Mismatch) (c : Cursor) : Error :=
  { message := m.message, position := some c.here }

/-- Expected sequence lengths are counted as elements. -/
def elementsInSequence (n : Nat) : String :=
  if n == 1 then "1 element in sequence" else s!"{n} elements in sequence"

end JobQueue.Json
