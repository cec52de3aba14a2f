import JobQueue.Config.Setting
import JobQueue.Decimal.Reading
import JobQueue.Text.Numeral
import JobQueue.Text.Blank

/-!
# Settings from environment variables

A variable `PREFIX_SECTION__NAME=value` (the prefix matched without regard to case) gives
the setting `section.name`: the rest of the variable's name is lower-cased, and a double
underscore separates the names of nested tables.

A variable's text is read as a small value language, and taken as plain text when it is not
one:

* `true` and `false` are booleans;
* `[a, b, …]` is a list and `{k = v, …}` a table, their items read the same way;
* `"…"` is text (a backslash keeps the next character from ending it) and `'c'` one
  character;
* anything else, up to a comma or bracket, is a float if it has a point and reads as one,
  else a whole number without a sign if it reads as one below 2^64, else a signed whole
  number if it reads as a signed 64-bit one, else text. Blanks around it (Unicode
  `White_Space`) do not count, and quotes inside it are part of the text.

* `Environment.valueOf` — the setting of a variable's text.
* `Environment.settings` — the settings of all variables with a prefix.
-/

namespace JobQueue.Environment

/-- Blanks between the parts of a value. -/
def isBlank (c : Char) : Bool := c == ' ' || c == '\t' || c == '\n' || c == '\r' || c == '\x0c'

/-- Characters that end a bare word. -/
def isSeparator (c : Char) : Bool := c == ',' || c == '{' || c == '}' || c == '[' || c == ']'

/-- Characters of a bare table key. -/
def isKeyChar (c : Char) : Bool := (c.isAlphanum && c.toNat < 0x80) || c == '_' || c == '-'

/-- The body of a quoted text: up to an unescaped quote; the rest after it. -/
def quotedBody : List Char → Option (List Char × List Char)
  | [] => none
  | '"' :: rest => some ([], rest)
  | '\\' :: c :: rest => (quotedBody rest).map fun (body, after) => ('\\' :: c :: body, after)
  | c :: rest => (quotedBody rest).map fun (body, after) => (c :: body, after)

/-- **The setting of a bare word**: a number if it reads as one, else text. Only a word with
a point is tried as a float, so `1e3` and `inf` stay text. -/
def bareWord (origin : Origin) (word : String) : Setting :=
  match (if word.contains '.' then Decimal.parseFloat? word else none) with
  | some f => .scalar origin (.float f)
  | none =>
    match parseInteger word 0 (wordBound - 1 : Nat) with
    | .ok n => .scalar origin (.unsigned n.toNat)
    | .error _ =>
      match parseInteger word wordMin wordMax with
      | .ok i => .scalar origin (.signed i)
      | .error _ => .scalar origin (.text word)

/-- A text after its opening quote, and the rest. -/
def quoted (cs : List Char) : Option (String × List Char) :=
  (quotedBody cs).map fun (body, rest) => (String.ofList body, rest)

mutual

/-- **A value**, with blanks around it, nested at most `depth` deep; the rest after it. -/
def value (origin : Origin) : Nat → List Char → Option (Setting × List Char)
  | 0, _ => none
  | depth + 1, cs =>
    let cs := cs.dropWhile isBlank
    let result : Option (Setting × List Char) :=
      match cs with
      | 't' :: 'r' :: 'u' :: 'e' :: rest => some (.scalar origin (.bool true), rest)
      | 'f' :: 'a' :: 'l' :: 's' :: 'e' :: rest => some (.scalar origin (.bool false), rest)
      | '{' :: rest => (entries origin depth rest []).map fun (es, r) => (.table origin es, r)
      | '[' :: rest => (items origin depth rest []).map fun (vs, r) => (.list origin vs, r)
      | '"' :: rest => (quoted rest).map fun (s, r) => (.scalar origin (.text s), r)
      | '\'' :: c :: '\'' :: rest => some (.scalar origin (.char c), rest)
      | '\'' :: _ => none
      | _ =>
        let word := String.ofList (cs.takeWhile (! isSeparator ·))
        let rest := cs.dropWhile (! isSeparator ·)
        some (bareWord origin (Text.trimBlank word), rest)
    result.map fun (v, rest) => (v, rest.dropWhile isBlank)

/-- The items of a list after `[`, each followed by a comma or the closing `]`. -/
def items (origin : Origin) : Nat → List Char → List Setting →
    Option (List Setting × List Char)
  | 0, _, _ => none
  | fuel + 1, cs, acc =>
    match cs with
    | ']' :: rest => some (acc.reverse, rest)
    | _ => do
      let (v, rest) ← value origin fuel cs
      match rest with
      | ',' :: more => items origin fuel more (v :: acc)
      | ']' :: more => some ((v :: acc).reverse, more)
      | _ => none

/-- The entries of a table after `{`, each `key = value` followed by a comma or the closing
`}`. -/
def entries (origin : Origin) : Nat → List Char → List (String × Setting) →
    Option (List (String × Setting) × List Char)
  | 0, _, _ => none
  | fuel + 1, cs, acc =>
    match cs with
    | '}' :: rest => some (acc, rest)
    | _ => do
      let cs := cs.dropWhile isBlank
      let (k, rest) ← match cs with
        | '"' :: rest => quoted rest
        | _ =>
          let k := cs.takeWhile isKeyChar
          if k.isEmpty then none else some (String.ofList k, cs.dropWhile isKeyChar)
      let rest := rest.dropWhile isBlank
      match rest with
      | '=' :: rest => do
        let (v, rest) ← value origin fuel rest
        let acc := (acc.filter (·.1 != k)) ++ [(k, v)]
        match rest with
        | ',' :: more => entries origin fuel more acc
        | '}' :: more => some (acc, more)
        | _ => none
      | _ => none

end

/-- **The setting of a variable's text**: its value if the whole text is one, else the text
itself. -/
def valueOf (origin : Origin) (text : String) : Setting :=
  match value origin (text.length + 1) text.toList with
  | some (v, []) => v
  | _ => .scalar origin (.text text)

/-- The names of the setting of a variable, if it has the prefix: the rest of its name in
lower case, split at double underscores. -/
def settingPath (pfx : String) (name : String) : Option (List String) :=
  let name := name.trimAscii.toString
  if name.length ≤ pfx.length then none
  else if (name.take pfx.length).toString.toLower != pfx.toLower then none
  else
    let rest := (name.drop pfx.length).toString.toLower
    some ((rest.replace "__" ".").splitOn ".")

/-- **The settings of the variables with a prefix**, later variables over earlier ones. -/
def settings (pfx : String) (vars : List (String × String)) : Setting :=
  let origin := Origin.environment pfx
  vars.foldl (fun acc (name, text) =>
    match settingPath pfx name with
    | some path =>
      match Setting.nest origin path (valueOf origin text) with
      | v@(.table _ _) => acc.merge v
      | _ => acc
    | none => acc) (.table origin [])

end JobQueue.Environment
