import JobQueue.Time.Zone
import JobQueue.Time.Zone.Table.Africa
import JobQueue.Time.Zone.Table.America
import JobQueue.Time.Zone.Table.Asia
import JobQueue.Time.Zone.Table.Australia
import JobQueue.Time.Zone.Table.Europe
import JobQueue.Time.Zone.Table.Ocean
import JobQueue.Time.Zone.Table.Other
import JobQueue.Time.Zone.Table.Pacific
import JobQueue.Time.Zone.Table.Aliases

/-!
# The zone catalog

Zones by name. Names are the IANA names and match exactly, case included: `Europe/Berlin`
is a zone, `Europe/berlin` is not. An alternative name (`US/Eastern`) stands for another zone's
data but keeps its own name.

Each table entry reads `name|initial|offsets|transitions|rule`:

* `initial` — the offset in seconds before the first transition;
* `offsets` — the distinct offsets of the transitions, comma-separated;
* `transitions` — blank-separated, each the distance in seconds from the previous transition
  (from the epoch for the first) in base 62, then one base-62 digit indexing `offsets`;
* `rule` — empty, or `standard,daylight,M.W.D/T,M.W.D/T` for the yearly switches into and
  out of daylight time.

* `Zone.find?` — the zone of a name.
-/

namespace JobQueue.ZoneTable

/-- The value of a base-62 digit: `0-9`, then `a-z`, then `A-Z`. -/
def digit62 (c : Char) : Nat :=
  if c.isDigit then c.toNat - '0'.toNat
  else if c.isLower then c.toNat - 'a'.toNat + 10
  else c.toNat - 'A'.toNat + 36

/-- A base-62 number, possibly negative. -/
def int62 (cs : List Char) : Int :=
  match cs with
  | '-' :: rest => -((rest.foldl (fun acc c => acc * 62 + digit62 c) 0 : Nat) : Int)
  | _ => ((cs.foldl (fun acc c => acc * 62 + digit62 c) 0 : Nat) : Int)

/-- A decimal number, possibly negative. -/
def intDec (s : String) : Int := s.toInt?.getD 0

/-- The transitions of a table line, turned into UTC seconds and offsets. -/
def transitions (offsets : List Int) (text : String) : List (Int × Int) :=
  let tokens := (text.splitOn " ").filter (· ≠ "")
  let step := fun (acc : Int × List (Int × Int)) (tok : String) =>
    let cs := tok.toList
    let t := acc.1 + int62 cs.dropLast
    let o := (offsets[digit62 (cs.getLastD '0')]?).getD 0
    (t, (t, o) :: acc.2)
  (tokens.foldl step (0, [])).2.reverse

/-- One switch, `M.W.D/T`. -/
def switch (s : String) : Option Switch :=
  match s.splitOn "/" with
  | [date, time] =>
    match date.splitOn "." with
    | [m, w, d] => some ⟨m.toNat?.getD 0, w.toNat?.getD 0, d.toNat?.getD 0, intDec time⟩
    | _ => none
  | _ => none

/-- The rule of a table line. -/
def rule (s : String) : Option Recurrence :=
  match s.splitOn "," with
  | [std, dst, a, b] =>
    match switch a, switch b with
    | some x, some y => some ⟨intDec std, intDec dst, x, y⟩
    | _, _ => none
  | _ => none

/-- **Read one table line** into a zone called `name`. -/
def parseLine (name : String) (line : String) : Option Zone :=
  match line.splitOn "|" with
  | [_, initial, offsets, shifts, r] =>
    let offs := ((offsets.splitOn ",").filter (· ≠ "")).map intDec
    some ⟨name, intDec initial, transitions offs shifts, rule r⟩
  | _ => none

/-- All zone table lines. -/
def tables : List String :=
  africa ++ america ++ asia ++ australia ++ europe ++ ocean ++ other ++ pacific

/-- The table line of a zone name, if the name is a zone of its own. -/
def lineOf (name : String) : Option String :=
  tables.find? fun l => l.startsWith (name ++ "|")

/-- The zone an alternative name stands for. -/
def aliasOf (name : String) : Option String :=
  (aliases.find? fun l => l.startsWith (name ++ "=")).map fun l =>
    String.ofList ((l.toList.drop (name.length + 1)))

end JobQueue.ZoneTable

namespace JobQueue

/-- **The zone of a name**, exactly as written. -/
def Zone.find? (name : String) : Option Zone :=
  if name.isEmpty || name.contains '|' || name.contains '=' || name.contains '\n' then none
  else
    match ZoneTable.lineOf name with
    | some line => ZoneTable.parseLine name line
    | none =>
      match ZoneTable.aliasOf name with
      | some target => (ZoneTable.lineOf target).bind (ZoneTable.parseLine name)
      | none => none

/-- The UTC zone. -/
def Zone.utc : Zone := ⟨"UTC", 0, [], none⟩

end JobQueue
