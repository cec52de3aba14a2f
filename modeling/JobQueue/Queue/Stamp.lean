import JobQueue.Time.Rfc3339

/-!
# Stored timestamps

The queue stores every instant as text, `YYYY-MM-DDTHH:MM:SSZ`, to the whole second, and
compares and orders stored instants as text. Inside the years 0 to 9999 the text order is
the time order. Outside them the text carries a sign (`+10000-…`, `-0001-…`), sorts before
every four-digit year, and cannot be read back: the reader takes four-digit years only.

* `Stamp` — a stored timestamp; `Stamp.ofInstant` writes one, `Stamp.read` reads it back.
* Stamps are ordered as their texts.
-/

namespace JobQueue

/-- **A stored timestamp**: the text of an instant to the whole second. -/
structure Stamp where
  text : String
  deriving DecidableEq, Repr, Inhabited

namespace Stamp

/-- The stored text of an instant; the fraction of a second is dropped. -/
def ofInstant (t : Instant) : Stamp := ⟨t.stamp⟩

/-- **Read a stored timestamp back**; only four-digit years can be read. -/
def read (s : Stamp) : Except StampError Instant :=
  match s.text.toList with
  | c :: _ => if c.isDigit then Instant.parse s.text else .error .invalid
  | [] => .error .tooShort

instance : LT Stamp := ⟨fun a b => a.text < b.text⟩
instance : LE Stamp := ⟨fun a b => a.text ≤ b.text⟩

instance (a b : Stamp) : Decidable (a < b) := inferInstanceAs (Decidable (a.text < b.text))
instance (a b : Stamp) : Decidable (a ≤ b) := inferInstanceAs (Decidable (a.text ≤ b.text))

/-- Stamps compare as their texts. -/
def compare (a b : Stamp) : Ordering := Ord.compare a.text b.text

end Stamp

end JobQueue
