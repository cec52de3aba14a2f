import JobQueue.Decimal.Double

/-!
# JSON values

A JSON number remembers which of three kinds it was read as: a whole number that fits an
unsigned 64-bit word, a negative whole number that fits a signed one, or a double. The kind
is visible in the output (`1` is not `1.0`) and in equality, so it is kept.

Objects are lists of members. Read as plain data they come out sorted by key with the last
of repeated keys winning (`Value.sortedObject`); the argument bag keeps its own insertion
order on top of that (see `Args`).

* `Number`, `Value` — the data.
* `Value.sortKeys` — the same value with every object sorted by key, at every depth.
-/

namespace JobQueue.Json

/-- **A JSON number** by the kind it was read as. -/
inductive Number where
  /-- A whole number `0 ≤ n < 2^64`. -/
  | natural (n : Nat)
  /-- A negative whole number `-2^63 ≤ n < 0`. -/
  | negative (n : Int)
  /-- A finite double. -/
  | float (f : Decimal.Double)

/-- Numbers are equal when they are of one kind and equal as such; doubles compare as
doubles, so `0.0` equals `-0.0`. -/
def Number.beq : Number → Number → Bool
  | .natural a, .natural b => a == b
  | .negative a, .negative b => a == b
  | .float a, .float b => a == b
  | _, _ => false

instance : BEq Number := ⟨Number.beq⟩

/-- **A JSON value.** -/
inductive Value where
  | null
  | bool (b : Bool)
  | number (n : Number)
  | string (s : String)
  | array (items : List Value)
  | object (members : List (String × Value))

mutual

/-- Structural equality; object members are compared in order. -/
def Value.beq : Value → Value → Bool
  | .null, .null => true
  | .bool a, .bool b => a == b
  | .number a, .number b => a == b
  | .string a, .string b => a == b
  | .array as, .array bs => Value.beqList as bs
  | .object as, .object bs => Value.beqMembers as bs
  | _, _ => false

/-- Element-wise equality of two lists of values. -/
def Value.beqList : List Value → List Value → Bool
  | [], [] => true
  | a :: as, b :: bs => Value.beq a b && Value.beqList as bs
  | _, _ => false

/-- Member-wise equality of two member lists. -/
def Value.beqMembers : List (String × Value) → List (String × Value) → Bool
  | [], [] => true
  | (k, a) :: as, (l, b) :: bs => k == l && Value.beq a b && Value.beqMembers as bs
  | _, _ => false

end

instance : BEq Value := ⟨Value.beq⟩

/-- Insert a member into a key-sorted member list; an equal key is replaced in place. -/
def insertSorted (k : String) (v : Value) : List (String × Value) → List (String × Value)
  | [] => [(k, v)]
  | (k', v') :: rest =>
    if k < k' then (k, v) :: (k', v') :: rest
    else if k == k' then (k, v) :: rest
    else (k', v') :: insertSorted k v rest

/-- The members sorted by key, the last of repeated keys winning: an object read as data. -/
def sortedObject (members : List (String × Value)) : List (String × Value) :=
  members.foldl (fun acc (k, v) => insertSorted k v acc) []

mutual

/-- The same value with every object's members sorted by key, at every depth. -/
def Value.sortKeys : Value → Value
  | .array items => .array (Value.sortKeysList items)
  | .object members => .object (sortedObject (Value.sortKeysMembers members))
  | v => v

/-- `sortKeys` on each element. -/
def Value.sortKeysList : List Value → List Value
  | [] => []
  | v :: rest => Value.sortKeys v :: Value.sortKeysList rest

/-- `sortKeys` on each member's value. -/
def Value.sortKeysMembers : List (String × Value) → List (String × Value)
  | [] => []
  | (k, v) :: rest => (k, Value.sortKeys v) :: Value.sortKeysMembers rest

end

end JobQueue.Json
