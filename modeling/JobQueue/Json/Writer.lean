import JobQueue.Json.Value
import JobQueue.Decimal.Layout

/-!
# Writing JSON

The compact text of a value: no blanks, members in the order the value holds them, strings
quoted with the short escapes for quote, backslash, backspace, form feed, newline, carriage
return and tab, other control characters as `\u00XX` with lower-case hex digits, and every
other character written as itself. Numbers keep their kind: whole numbers in full, doubles
by `Decimal.Layout.json`.

* `quote` — a string as a JSON string literal.
* `Number.text`, `Value.compact` — the written forms.
-/

namespace JobQueue.Json

/-- The lower-case hex digit of `n < 16`. -/
def hexDigit (n : Nat) : Char :=
  if n < 10 then Char.ofNat ('0'.toNat + n) else Char.ofNat ('a'.toNat + n - 10)

/-- One character inside a JSON string literal. -/
def escapeChar (c : Char) : String :=
  match c with
  | '"' => "\\\""
  | '\\' => "\\\\"
  | '\x08' => "\\b"
  | '\x0c' => "\\f"
  | '\n' => "\\n"
  | '\r' => "\\r"
  | '\t' => "\\t"
  | c =>
    if c.toNat < 0x20 then
      "\\u00" ++ String.singleton (hexDigit (c.toNat / 16)) ++
        String.singleton (hexDigit (c.toNat % 16))
    else String.singleton c

/-- **A string as a JSON literal.** -/
def quote (s : String) : String :=
  "\"" ++ String.join (s.toList.map escapeChar) ++ "\""

/-- A number as written: whole numbers in full, doubles by the data layout. -/
def Number.text : Number → String
  | .natural n => Nat.repr n
  | .negative n => toString n
  | .float f => Decimal.Layout.json.renderBits f.bits

mutual

/-- **The compact text of a value.** -/
def Value.compact : Value → String
  | .null => "null"
  | .bool b => if b then "true" else "false"
  | .number n => n.text
  | .string s => quote s
  | .array items => "[" ++ Value.compactList items ++ "]"
  | .object members => "\x7b" ++ Value.compactMembers members ++ "\x7d"

/-- Elements separated by commas. -/
def Value.compactList : List Value → String
  | [] => ""
  | [v] => Value.compact v
  | v :: rest => Value.compact v ++ "," ++ Value.compactList rest

/-- Members separated by commas. -/
def Value.compactMembers : List (String × Value) → String
  | [] => ""
  | [(k, v)] => quote k ++ ":" ++ Value.compact v
  | (k, v) :: rest => quote k ++ ":" ++ Value.compact v ++ "," ++ Value.compactMembers rest

end

end JobQueue.Json
