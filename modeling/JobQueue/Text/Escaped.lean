import JobQueue.Text.Printable

/-!
# Escaped string literals

The text of a string as a double-quoted literal that shows every character unambiguously,
as used when an error message quotes a value: a backslash and a double quote are escaped, so
are tab, carriage return, line feed and NUL (`\t`, `\r`, `\n`, `\0`), and every character that
does not print on its own is written `\u{XX}` with its code point in lower-case hex. Single
quotes stay as they are.

Which characters do not print on their own is decided by `printsAlone`.

* `escapedLiteral` — the quoted, escaped form of a string.
-/

namespace JobQueue.Text

/-- The lower-case hex digits of `n`, without leading zeros. -/
def hexDigits (n : Nat) : String :=
  String.ofList (Nat.toDigits 16 n)

/-- One character inside an escaped literal. -/
def escapeOne (c : Char) : String :=
  match c with
  | '\\' => "\\\\"
  | '"' => "\\\""
  | '\t' => "\\t"
  | '\r' => "\\r"
  | '\n' => "\\n"
  | '\x00' => "\\0"
  | c => if printsAlone c then String.singleton c else "\\u\x7b" ++ hexDigits c.toNat ++ "\x7d"

/-- **A string as a double-quoted escaped literal.** -/
def escapedLiteral (s : String) : String :=
  "\"" ++ String.join (s.toList.map escapeOne) ++ "\""

end JobQueue.Text
