/-!
# Cron patterns

A pattern lists, for each of seven calendar fields, the values at which it fires: second,
minute, hour, day of the month, month, day of the week and year. Days of the week run from
1 (Sunday) to 7 (Saturday), years from 1970 to 2100.

**The written form.** Either one of the shorthands `@yearly`, `@monthly`, `@weekly`,
`@daily`, `@hourly`, or six or seven fields: second, minute, hour, day of the month, month,
day of the week, and optionally year. A field is a comma-separated list of parts. A part is

* `*` (every value), or `?` in the two day fields;
* a number `n`, or a range `a-b` with `a ≤ b`;
* a name, or a range of names, where the field has names (months `jan` … `dec` and their full
  names, days `sun` … `sat` and their full names, `tues` and `thurs`), in any case;
* any of the above but a single name followed by `/k` with `k > 0`: every `k`-th value of
  the part, where a single number `n` stands for `n` up to the field's largest value.

Numbers and names may carry blanks on either side, and blanks around a field separate it
from the next; a field needs no blank where the text cannot continue it, so `**` is two
fields. Every value must lie in its field's range. A text is read from left to right,
taking at each choice the first reading that fits, and must be used up.

* `Field` — the seven fields, their ranges and names.
* `Pattern` — the values of each field; `Pattern.parse?` reads the written form.
-/

namespace JobQueue.Cron

/-- **The seven fields of a pattern**, in written order. -/
inductive Field where
  | second
  | minute
  | hour
  | dayOfMonth
  | month
  | dayOfWeek
  | year
  deriving DecidableEq, Repr

namespace Field

/-- The least value of the field. -/
def least : Field → Nat
  | .second | .minute | .hour => 0
  | .dayOfMonth | .month | .dayOfWeek => 1
  | .year => 1970

/-- The greatest value of the field. -/
def greatest : Field → Nat
  | .second | .minute => 59
  | .hour => 23
  | .dayOfMonth => 31
  | .month => 12
  | .dayOfWeek => 7
  | .year => 2100

/-- Every value of the field, in increasing order. -/
def every (f : Field) : List Nat := List.range' f.least (f.greatest + 1 - f.least)

/-- Whether `n` lies in the field's range. -/
def valid (f : Field) (n : Nat) : Bool := f.least ≤ n && n ≤ f.greatest

/-- The value a name stands for, in any case; only months and days of the week have names. -/
def named (f : Field) (name : String) : Option Nat :=
  let key := String.ofList (name.toList.map Char.toLower)
  let table : List (List String) := match f with
    | .month =>
      [["jan", "january"], ["feb", "february"], ["mar", "march"], ["apr", "april"],
        ["may"], ["jun", "june"], ["jul", "july"], ["aug", "august"],
        ["sep", "september"], ["oct", "october"], ["nov", "november"], ["dec", "december"]]
    | .dayOfWeek =>
      [["sun", "sunday"], ["mon", "monday"], ["tue", "tues", "tuesday"],
        ["wed", "wednesday"], ["thu", "thurs", "thursday"], ["fri", "friday"],
        ["sat", "saturday"]]
    | _ => []
  (table.findIdx? fun names => names.contains key).map (· + 1)

end Field

/-- A range-like part of a field. -/
inductive Specifier where
  | all
  | point (n : Nat)
  | range (lo hi : Nat)
  | namedRange (lo hi : String)
  deriving DecidableEq, Repr

/-- One comma-separated part of a field. -/
inductive Part where
  | plain (s : Specifier)
  | period (base : Specifier) (step : Nat)
  | named (name : String)
  deriving DecidableEq, Repr

/-- A reader: the value read and the text left, or nothing. -/
abbrev Reader (α : Type) := List Char → Option (α × List Char)

namespace Grammar

/-- Blanks between the pieces of a pattern. -/
def isSpace (c : Char) : Bool := c == ' ' || c == '\t' || c == '\r' || c == '\n'

/-- Drop leading blanks. -/
def skipSpace (cs : List Char) : List Char := cs.dropWhile isSpace

/-- One character. -/
def symbol (c : Char) : Reader Unit := fun cs =>
  match cs with
  | d :: rest => if d == c then some ((), rest) else none
  | [] => none

/-- A number between blanks; it must fit 32 bits. -/
def ordinal : Reader Nat := fun cs =>
  let cs := skipSpace cs
  let ds := cs.takeWhile Char.isDigit
  if ds.isEmpty then none
  else
    let n := ds.foldl (fun acc c => acc * 10 + (c.toNat - '0'.toNat)) 0
    if n < 4294967296 then some (n, skipSpace (cs.dropWhile Char.isDigit)) else none

/-- A name of ASCII letters between blanks. -/
def name : Reader String := fun cs =>
  let cs := skipSpace cs
  let ls := cs.takeWhile Char.isAlpha
  if ls.isEmpty then none else some (String.ofList ls, skipSpace (cs.dropWhile Char.isAlpha))

/-- Two readings joined by a character. -/
def joined {α β : Type} (p : Reader α) (sep : Char) (q : Reader β) : Reader (α × β) :=
  fun cs => do
    let (a, cs) ← p cs
    let (_, cs) ← symbol sep cs
    let (b, cs) ← q cs
    pure ((a, b), cs)

/-- The first reading that fits. -/
def firstOf {α : Type} (ps : List (Reader α)) : Reader α := fun cs => ps.findSome? (· cs)

/-- A specifier; `withAny` admits `?` for every value. -/
def specifier (withAny : Bool) : Reader Specifier :=
  firstOf <|
    (if withAny then [fun cs => (symbol '?' cs).map fun (_, r) => (Specifier.all, r)] else []) ++
    [fun cs => (symbol '*' cs).map fun (_, r) => (Specifier.all, r),
     fun cs => (joined ordinal '-' ordinal cs).map fun ((a, b), r) => (Specifier.range a b, r),
     fun cs => (ordinal cs).map fun (n, r) => (Specifier.point n, r),
     fun cs => (joined name '-' name cs).map fun ((a, b), r) => (Specifier.namedRange a b, r)]

/-- A part: a period, a specifier, or a single name. -/
def part (withAny : Bool) : Reader Part :=
  firstOf
    [fun cs => (joined (specifier withAny) '/' ordinal cs).map fun ((s, k), r) => (Part.period s k, r),
     fun cs => (specifier withAny cs).map fun (s, r) => (Part.plain s, r),
     fun cs => (name cs).map fun (n, r) => (Part.named n, r)]

/-- Further parts, each after a comma, while they read; a comma not followed by a part is
left unread. Each round uses up the comma, so `fuel` rounds of the text's length suffice. -/
def moreParts (withAny : Bool) : Nat → List Part → List Char → List Part × List Char
  | 0, acc, cs => (acc.reverse, cs)
  | fuel + 1, acc, cs =>
    match cs with
    | ',' :: rest =>
      match part withAny rest with
      | some (p, rest') => moreParts withAny fuel (p :: acc) rest'
      | none => (acc.reverse, cs)
    | _ => (acc.reverse, cs)

/-- A field: blanks, one or more comma-separated parts, blanks. -/
def field (withAny : Bool) : Reader (List Part) := fun cs => do
  let (p, rest) ← part withAny (skipSpace cs)
  let (ps, rest) := moreParts withAny rest.length [p] rest
  pure (ps, skipSpace rest)

end Grammar

namespace Field

/-- Every `step`-th element, starting with the first. -/
def everyNth (step : Nat) (xs : List Nat) : List Nat :=
  (xs.zipIdx.filter fun (_, i) => i % step == 0).map Prod.fst

/-- The values of a specifier, in increasing order. -/
def specified (f : Field) : Specifier → Option (List Nat)
  | .all => some f.every
  | .point n => some [n]
  | .range a b =>
    if f.valid a && f.valid b && a ≤ b then some (List.range' a (b + 1 - a)) else none
  | .namedRange a b => do
    let a ← f.named a
    let b ← f.named b
    if f.valid a && f.valid b && a ≤ b then some (List.range' a (b + 1 - a)) else none

/-- The values of a part. -/
def partValues (f : Field) : Part → Option (List Nat)
  | .plain s => f.specified s
  | .period _ 0 => none
  | .period (.point n) step =>
    if f.valid n then some (everyNth step (List.range' n (f.greatest + 1 - n))) else none
  | .period s step => (f.specified s).map (everyNth step)
  | .named name => (f.named name).map fun n => [n]

/-- **The values of a field's parts**, in increasing order; every one must be in range. -/
def values (f : Field) (parts : List Part) : Option (List Nat) :=
  match parts with
  | [.plain .all] => some f.every
  | _ => do
    let sets ← parts.mapM f.partValues
    let all := sets.flatten
    if all.all f.valid then some (f.every.filter all.contains) else none

end Field

/-- **A cron pattern**: the values of each field, in increasing order. -/
structure Pattern where
  seconds : List Nat
  minutes : List Nat
  hours : List Nat
  days : List Nat
  months : List Nat
  weekdays : List Nat
  years : List Nat
  deriving DecidableEq, Repr

namespace Pattern

/-- The pattern of a shorthand. -/
def shorthand? (text : String) : Option Pattern :=
  let any := fun (f : Field) => f.every
  match text with
  | "@yearly" => some ⟨[0], [0], [0], [1], [1], any .dayOfWeek, any .year⟩
  | "@monthly" => some ⟨[0], [0], [0], [1], any .month, any .dayOfWeek, any .year⟩
  | "@weekly" => some ⟨[0], [0], [0], any .dayOfMonth, any .month, [1], any .year⟩
  | "@daily" => some ⟨[0], [0], [0], any .dayOfMonth, any .month, any .dayOfWeek, any .year⟩
  | "@hourly" => some ⟨[0], [0], any .hour, any .dayOfMonth, any .month, any .dayOfWeek, any .year⟩
  | _ => none

/-- One field read and evaluated. -/
def fieldAt (f : Field) (withAny : Bool) (cs : List Char) : Option (List Nat × List Char) := do
  let (parts, rest) ← Grammar.field withAny cs
  let vs ← f.values parts
  pure (vs, rest)

/-- Six or seven fields that use up the text. -/
def longhand? (text : String) : Option Pattern := do
  let (seconds, cs) ← fieldAt .second false text.toList
  let (minutes, cs) ← fieldAt .minute false cs
  let (hours, cs) ← fieldAt .hour false cs
  let (days, cs) ← fieldAt .dayOfMonth true cs
  let (months, cs) ← fieldAt .month false cs
  let (weekdays, cs) ← fieldAt .dayOfWeek true cs
  let (years, cs) := (fieldAt .year false cs).getD (Field.year.every, cs)
  if cs.isEmpty then some ⟨seconds, minutes, hours, days, months, weekdays, years⟩ else none

/-- **Read a pattern**: a shorthand, or the fields. -/
def parse? (text : String) : Option Pattern := (shorthand? text).orElse fun _ => longhand? text

end Pattern

end JobQueue.Cron
