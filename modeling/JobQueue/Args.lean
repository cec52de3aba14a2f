import JobQueue.Json.Mismatch
import JobQueue.Json.Writer

/-!
# Argument bags

The arguments of an action are a bag of named JSON values. The bag keeps the order in which
keys were first inserted, since handlers may read values by position; inserting a key again
replaces its value in place. Equality ignores that order: two bags are equal when they hold
the same keys with equal values.

Values inside the bag are plain JSON data, so objects nested in them are sorted by key.

**Text forms.** `Args.toJson` writes the bag as a JSON object in insertion order;
`Args.canonical` writes it with keys sorted at every depth, the form to compare as text.
`Args.ofJson` reads a JSON object (keys come out sorted, the last of repeated keys wins), or a
JSON array as positional arguments keyed `"0"`, `"1"`, …; any other value is refused.

* `Args` — the bag; `Args.insert`, `Args.get?`, `Args.keys`, `Args.values`.
* `Args.positional`, `Args.ofPairs`, `Args.ofJson` — ways to build one.
-/

namespace JobQueue

open Json

/-- **An argument bag**: named JSON values in first-insertion order. -/
structure Args where
  entries : List (String × Value)

namespace Args

/-- The empty bag. -/
def empty : Args := ⟨[]⟩

/-- Put `v` under `k`: in place if `k` is present, else at the end. -/
def insertEntry (k : String) (v : Value) : List (String × Value) → List (String × Value)
  | [] => [(k, v)]
  | (k', v') :: rest => if k' == k then (k, v) :: rest else (k', v') :: insertEntry k v rest

/-- **Insert a value**, replacing the value of a present key in place. -/
def insert (a : Args) (k : String) (v : Value) : Args := ⟨insertEntry k v a.entries⟩

/-- A bag from pairs, inserted in order. -/
def ofPairs (pairs : List (String × Value)) : Args := pairs.foldl (fun a (k, v) => a.insert k v) empty

/-- **Positional arguments**: the values keyed `"0"`, `"1"`, … in order. -/
def positional (items : List Value) : Args :=
  ⟨items.zipIdx.map fun (v, i) => (toString i, v)⟩

/-- The value under a key. -/
def get? (a : Args) (k : String) : Option Value := a.entries.lookup k

/-- **The value under a key as an unsigned machine word**; a missing key reads as null. -/
def word (a : Args) (k : String) : Except Error Nat :=
  match (a.get? k).getD .null with
  | .number (.natural n) => .ok n
  | .number (.negative n) => .error (Mismatch.invalidValue s!"integer `{n}`" "u64").error
  | v => .error (Mismatch.invalidType v.unexpected "u64").error

/-- Number of keys. -/
def size (a : Args) : Nat := a.entries.length

/-- Whether the bag is empty. -/
def isEmpty (a : Args) : Bool := a.entries.isEmpty

/-- Keys in insertion order. -/
def keys (a : Args) : List String := a.entries.map Prod.fst

/-- Values in insertion order. -/
def values (a : Args) : List Value := a.entries.map Prod.snd

/-- The bag as a JSON object in insertion order. -/
def toValue (a : Args) : Value := .object a.entries

/-- **The bag as JSON text**, in insertion order. -/
def toJson (a : Args) : String := a.toValue.compact

/-- **The canonical text**: keys sorted at every depth. -/
def canonical (a : Args) : String := a.toValue.sortKeys.compact

/-- **Read a bag** from JSON text: an object, or an array of positional values. -/
def ofJson (text : String) : Except Error Args := do
  match (← Reader.document text).sortKeys with
  | .array items => pure (positional items)
  | .object members => pure ⟨members⟩
  | v => throw (Mismatch.invalidType v.unexpected "a map").error

/-- Bags are equal when they hold the same keys with equal values, in any order. -/
def beq (a b : Args) : Bool :=
  a.size == b.size && a.entries.all fun (k, v) => b.get? k == some v

instance : BEq Args := ⟨beq⟩

end Args

end JobQueue
