import JobQueue.Proofs.JsonData
import Mathlib.Data.String.Basic

/-!
# Argument bags as text

A bag keeps its keys in the order they were first inserted and is written in that order
(`Args.toJson`). Reading JSON sorts an object's members by key (`Value.sortedObject`), so a bag
read back from its own text holds the same entries sorted by key: equal as a map, but in
another order whenever its keys were not inserted in string order. Positional arguments keyed
`"0"` to `"10"` come back as `"0"`, `"1"`, `"10"`, `"2"`, ….

The canonical text writes a bag with its keys sorted. For bags of JSON data it decides equality
exactly, doubles included, as long as neither bag holds a negative zero: two such bags are
equal, as maps of equal values, when and only when their canonical texts are the same. A
negative zero is where the two part: `-0.0` equals `0.0` as a double, and is written
differently.

**Main statements**

* `sortedObject_perm` — reading a member list with distinct keys sorts it strictly by key and
  loses nothing.
* `Args.Plain` — a bag as the store holds it: distinct keys, no doubles, nested objects sorted.
* `Args.ofJson_toJson` — a bag read back from its text is its entries sorted by key; its keys
  keep their order only when they were inserted in ascending order.
* `Args.Data` — a bag of JSON data: distinct keys, data values, nested objects sorted.
* `Args.beq_iff_canonical_eq` — equality of bags is equality of canonical texts, away from
  negative zero.
-/

namespace JobQueue.Json

/-! ## Sorting members by key -/

/-- Members strictly in order of their keys. -/
def KeysAscend (ms : List (String × Value)) : Prop := ms.Pairwise fun a b => a.1 < b.1

/-- A key past every key of a sorted list goes at its end. -/
lemma insertSorted_of_lt {k : String} {v : Value} :
    ∀ {acc : List (String × Value)}, (∀ m ∈ acc, m.1 < k) →
      insertSorted k v acc = acc ++ [(k, v)]
  | [], _ => rfl
  | (k', v') :: rest, h => by
    have hk : k' < k := h (k', v') (List.mem_cons_self ..)
    rw [insertSorted]
    split_ifs with hlt heq
    · exact absurd hlt (lt_asymm hk)
    · exact absurd (beq_iff_eq.1 heq) hk.ne'
    · rw [insertSorted_of_lt fun m hm => h m (List.mem_cons_of_mem _ hm)]
      rfl

/-- **A new key goes in its place**: into a list sorted by key that lacks it, a key is inserted
so that the list stays sorted and only gains the one member. -/
lemma insertSorted_perm {k : String} {v : Value} :
    ∀ {acc : List (String × Value)}, KeysAscend acc → k ∉ acc.map Prod.fst →
      (insertSorted k v acc).Perm ((k, v) :: acc) ∧ KeysAscend (insertSorted k v acc)
  | [], _, _ => ⟨.refl _, List.pairwise_singleton _ _⟩
  | (k', v') :: rest, hs, hk => by
    have hne : k ≠ k' := fun h => hk (h ▸ List.mem_cons_self ..)
    have hrest : KeysAscend rest := (List.pairwise_cons.1 hs).2
    rw [insertSorted]
    split_ifs with hlt heq
    · -- Before the head: the head already comes before the rest.
      refine ⟨.refl _, List.pairwise_cons.2 ⟨fun m hm => ?_, hs⟩⟩
      rcases List.mem_cons.1 hm with rfl | hm
      · exact hlt
      · exact hlt.trans ((List.pairwise_cons.1 hs).1 m hm)
    · exact absurd (beq_iff_eq.1 heq) hne
    · -- After the head: insert into the rest.
      have hgt : k' < k := lt_of_le_of_ne (not_lt.1 hlt) hne.symm
      obtain ⟨hp, hs'⟩ :=
        insertSorted_perm (v := v) hrest fun h => hk (List.mem_cons_of_mem _ h)
      refine ⟨(hp.cons _).trans (.swap _ _ _), List.pairwise_cons.2 ⟨fun m hm => ?_, hs'⟩⟩
      rcases List.mem_cons.1 (hp.subset hm) with rfl | hm
      · exact hgt
      · exact (List.pairwise_cons.1 hs).1 m hm

/-- Reading sorts on top of what is already sorted, from `acc` on. -/
lemma foldl_insertSorted_perm :
    ∀ (ms acc : List (String × Value)), KeysAscend acc → ((acc ++ ms).map Prod.fst).Nodup →
      (ms.foldl (fun acc (k, v) => insertSorted k v acc) acc).Perm (acc ++ ms) ∧
        KeysAscend (ms.foldl (fun acc (k, v) => insertSorted k v acc) acc)
  | [], acc, hs, _ => by simpa using hs
  | (k, v) :: ms, acc, hs, hnd => by
    have hk : k ∉ acc.map Prod.fst := by
      simp only [List.map_append, List.map_cons, List.nodup_append, List.mem_cons] at hnd
      exact fun h => hnd.2.2 k h k (Or.inl rfl) rfl
    obtain ⟨hp, hs'⟩ := insertSorted_perm (v := v) hs hk
    have hperm : (insertSorted k v acc ++ ms).Perm (acc ++ (k, v) :: ms) :=
      (hp.append_right ms).trans List.perm_middle.symm
    obtain ⟨hp', hs''⟩ := foldl_insertSorted_perm ms (insertSorted k v acc) hs'
      ((hperm.map Prod.fst).nodup_iff.2 hnd)
    exact ⟨hp'.trans hperm, hs''⟩

/-- **Reading sorts members with distinct keys strictly by key and keeps them all.** -/
lemma sortedObject_perm {ms : List (String × Value)} (h : (ms.map Prod.fst).Nodup) :
    (sortedObject ms).Perm ms ∧ KeysAscend (sortedObject ms) := by
  simpa [sortedObject] using foldl_insertSorted_perm ms [] List.Pairwise.nil (by simpa using h)

/-- Members already in order are read as they stand. -/
lemma sortedObject_of_ascend {ms : List (String × Value)} (h : KeysAscend ms) :
    sortedObject ms = ms := by
  suffices ∀ acc, KeysAscend (acc ++ ms) →
      ms.foldl (fun acc (k, v) => insertSorted k v acc) acc = acc ++ ms from
    by simpa [sortedObject] using this [] (by simpa using h)
  clear h
  induction ms with
  | nil => simp
  | cons m ms ih =>
    intro acc hs
    obtain ⟨k, v⟩ := m
    have hlt : ∀ m ∈ acc, m.1 < k := fun m hm =>
      (List.pairwise_append.1 hs).2.2 m hm (k, v) (List.mem_cons_self ..)
    simp only [List.foldl_cons]
    rw [insertSorted_of_lt hlt, ih (acc ++ [(k, v)]) (by simpa using hs)]
    simp

/-- Two sortings of the same members are the same list. -/
lemma KeysAscend.eq_of_perm {ms ns : List (String × Value)} (hm : KeysAscend ms)
    (hn : KeysAscend ns) (h : ms.Perm ns) : ms = ns :=
  h.eq_of_pairwise (fun _ _ _ _ h₁ h₂ => absurd (h₁.trans h₂) (lt_irrefl _)) hm hn

/-- **Members with distinct keys are the same map exactly when they read the same.** -/
lemma perm_iff_sortedObject_eq {ms ns : List (String × Value)} (hm : (ms.map Prod.fst).Nodup)
    (hn : (ns.map Prod.fst).Nodup) : ms.Perm ns ↔ sortedObject ms = sortedObject ns := by
  obtain ⟨hpm, ham⟩ := sortedObject_perm hm
  obtain ⟨hpn, han⟩ := sortedObject_perm hn
  constructor
  · intro h
    exact ham.eq_of_perm han (hpm.trans (h.trans hpn.symm))
  · intro h
    rw [← h] at hpn
    exact hpm.symm.trans hpn

/-- Reading keeps the order of members with distinct keys exactly when they are already in
order of their keys. -/
lemma sortedObject_keys_iff {ms : List (String × Value)} (h : (ms.map Prod.fst).Nodup) :
    (sortedObject ms).map Prod.fst = ms.map Prod.fst ↔ KeysAscend ms := by
  constructor
  · intro hk
    have hs := (sortedObject_perm h).2
    rw [KeysAscend, ← List.pairwise_map (R := (· < ·)), hk] at hs
    exact List.pairwise_map.1 hs
  · intro hs
    rw [sortedObject_of_ascend hs]

/-- Sorting the members of values that are sorted already changes nothing. -/
lemma sortKeysMembers_of_sorted : ∀ {ms : List (String × Value)},
    (∀ m ∈ ms, m.2.sortKeys = m.2) → Value.sortKeysMembers ms = ms
  | [], _ => rfl
  | (k, v) :: ms, h => by
    rw [Value.sortKeysMembers, h (k, v) (List.mem_cons_self ..),
      sortKeysMembers_of_sorted fun m hm => h m (List.mem_cons_of_mem _ hm)]

/-! ## Equality of plain values -/

namespace Value

/-- **On plain data the structural test is equality.** Doubles are what it lacks: `0.0` and
`-0.0` test equal as doubles but are not the same value. -/
theorem Plain.beq_iff {v : Value} (hv : v.Plain) : ∀ w, Value.beq v w = true ↔ v = w := by
  induction hv with
  | null => intro w; cases w <;> simp [beq]
  | bool b => intro w; cases w <;> simp [beq]
  | natural _ =>
    intro w
    rcases w with _ | _ | (_ | _ | _) | _ | _ | _ <;> simp [beq, BEq.beq, Number.beq]
  | negative _ _ =>
    intro w
    rcases w with _ | _ | (_ | _ | _) | _ | _ | _ <;> simp [beq, BEq.beq, Number.beq]
  | string s => intro w; cases w <;> simp [beq]
  | array _ ih =>
    intro w
    cases w <;> simp only [beq, Bool.false_eq_true, reduceCtorEq, Value.array.injEq]
    exact beqList_iff (P := fun _ => True) (fun v hv w _ => ih v hv w) _ fun _ _ => trivial
  | object _ ih =>
    intro w
    cases w <;> simp only [beq, Bool.false_eq_true, reduceCtorEq, Value.object.injEq]
    exact beqMembers_iff (P := fun _ => True) (fun m hm w _ => ih m hm w) _ fun _ _ => trivial

end Value

end JobQueue.Json

namespace JobQueue.Args

open Json

/-- The value under a key of members with distinct keys is the member holding it. -/
lemma lookup_eq_some_iff {ms : List (String × Value)} (h : (ms.map Prod.fst).Nodup)
    {k : String} {v : Value} : ms.lookup k = some v ↔ (k, v) ∈ ms := by
  induction ms with
  | nil => simp
  | cons m ms ih =>
    obtain ⟨k', v'⟩ := m
    rw [List.map_cons, List.nodup_cons] at h
    by_cases hk : k = k'
    · -- The head holds the key, and no later member can.
      subst hk
      have hnot : (k, v) ∉ ms := fun hm => h.1 (List.mem_map.2 ⟨(k, v), hm, rfl⟩)
      simp [hnot, eq_comm]
    · simp [List.lookup_cons, beq_eq_false_iff_ne.2 hk, hk, ih h.2]

section Equality

variable {a b : Args}

/-- Looking up a value and testing it against `v` finds exactly the member `(k, v)`, where the
values under `k` test equal to `v` only when they are `v`. -/
lemma get?_beq_iff (hb : b.keys.Nodup) {k : String} {v : Value}
    (heq : ∀ w, (k, w) ∈ b.entries → (Value.beq w v = true ↔ w = v)) :
    (b.get? k == some v) = true ↔ (k, v) ∈ b.entries := by
  rw [← lookup_eq_some_iff hb]
  show (b.get? k == some v) = true ↔ b.get? k = some v
  cases hget : b.get? k with
  | none => simp
  | some w =>
    rw [Option.some.injEq]
    exact heq w ((lookup_eq_some_iff hb).1 hget)

/-- **Two bags with distinct keys are equal exactly when they hold the same members**, in any
order, where their values test equal only when they are equal. -/
lemma beq_iff_perm (ha : a.keys.Nodup) (hb : b.keys.Nodup)
    (heq : ∀ m ∈ b.entries, ∀ n ∈ a.entries, Value.beq m.2 n.2 = true ↔ m.2 = n.2) :
    (a == b) = true ↔ a.entries.Perm b.entries := by
  have hnd : a.entries.Nodup := List.Nodup.of_map Prod.fst ha
  have hget : ∀ {k v}, (k, v) ∈ a.entries →
      ((b.get? k == some v) = true ↔ (k, v) ∈ b.entries) := fun hm =>
    get?_beq_iff hb fun w hw => heq (_, w) hw (_, _) hm
  show (a.size == b.size && a.entries.all fun (k, v) => b.get? k == some v) = true ↔ _
  simp only [Bool.and_eq_true, beq_iff_eq, List.all_eq_true, size]
  constructor
  · rintro ⟨hlen, hall⟩
    have hsub : a.entries ⊆ b.entries := fun ⟨k, v⟩ hm => (hget hm).1 (hall (k, v) hm)
    exact (List.subperm_of_subset hnd hsub).perm_of_length_le hlen.ge
  · intro hp
    exact ⟨hp.length_eq, fun ⟨k, v⟩ hm => (hget hm).2 (hp.subset hm)⟩

/-- The canonical text of a bag whose values are sorted is its members sorted by key, written
compactly. -/
lemma canonical_eq (hs : ∀ m ∈ a.entries, m.2.sortKeys = m.2) :
    a.canonical = (Value.object (sortedObject a.entries)).compact := by
  rw [canonical, toValue, Value.sortKeys, sortKeysMembers_of_sorted hs]

end Equality

/-- **An argument bag as the store holds it**: distinct keys, values without doubles, and every
object nested in a value already sorted by key, as JSON maps keep their members. -/
structure Plain (a : Args) : Prop where
  nodup : a.keys.Nodup
  plain : ∀ m ∈ a.entries, m.2.Plain
  sorted : ∀ m ∈ a.entries, m.2.sortKeys = m.2

namespace Plain

variable {a b : Args}

/-- **Two plain bags are equal exactly when they hold the same members**, in any order. -/
lemma beq_iff_perm (ha : a.Plain) (hb : b.Plain) :
    (a == b) = true ↔ a.entries.Perm b.entries :=
  Args.beq_iff_perm ha.nodup hb.nodup fun m hm n _ => (hb.plain m hm).beq_iff n.2

/-- **A plain bag read back from its text is its members sorted by key.** -/
lemma ofJson_toJson_eq (ha : a.Plain) (hd : a.toValue.depth ≤ Reader.nestingLimit) :
    ofJson a.toJson = .ok ⟨sortedObject a.entries⟩ := by
  rw [ofJson, toJson, Reader.document_compact (show a.toValue.Plain from .object ha.plain) hd]
  simp only [bind, Except.bind, toValue, Value.sortKeys, sortKeysMembers_of_sorted ha.sorted]
  rfl

end Plain

/-- Positional arguments are keyed by their positions. -/
lemma keys_positional (items : List Value) :
    (positional items).keys = (List.range items.length).map toString := by
  have hs : items.zipIdx.map Prod.snd = List.range items.length := by
    rw [List.zipIdx_eq_zip_range', List.map_snd_zip (by simp), List.range_eq_range']
  rw [keys, positional, List.map_map, ← hs, List.map_map]
  rfl

/-- Each positional argument holds one of the items. -/
lemma snd_mem_of_mem_positional {items : List Value} {m : String × Value}
    (hm : m ∈ (positional items).entries) : m.2 ∈ items := by
  obtain ⟨⟨v, i⟩, hv, rfl⟩ := List.mem_map.1 hm
  exact List.fst_mem_of_mem_zipIdx hv

/-- **Positional arguments are a plain bag** when their values are plain and sorted. -/
lemma Plain.positional {items : List Value} (h : ∀ v ∈ items, v.Plain ∧ v.sortKeys = v) :
    (positional items).Plain where
  nodup := by
    rw [keys_positional]
    exact List.nodup_range.map repr_injective
  plain m hm := (h m.2 (snd_mem_of_mem_positional hm)).1
  sorted m hm := (h m.2 (snd_mem_of_mem_positional hm)).2

/-! ## Bags of JSON data -/

/-- **An argument bag of JSON data**: distinct keys, values that are JSON data, doubles
included, and every object nested in a value already sorted by key, as JSON maps keep their
members. -/
structure Data (a : Args) : Prop where
  nodup : a.keys.Nodup
  data : ∀ m ∈ a.entries, m.2.Data
  sorted : ∀ m ∈ a.entries, m.2.sortKeys = m.2

/-- A negative zero somewhere in the bag. -/
def HoldsNegZero (a : Args) : Prop := ∃ m ∈ a.entries, m.2.HoldsNegZero

namespace Data

variable {a b : Args}

/-- **Two bags of data without a negative zero are equal exactly when they hold the same
members**, in any order. -/
lemma beq_iff_perm (ha : a.Data) (hb : b.Data) (hza : ¬ a.HoldsNegZero)
    (hzb : ¬ b.HoldsNegZero) : (a == b) = true ↔ a.entries.Perm b.entries :=
  Args.beq_iff_perm ha.nodup hb.nodup fun m hm n hn =>
    (hb.data m hm).beq_iff (fun h => hzb ⟨m, hm, h⟩) n.2 (fun h => hza ⟨n, hn, h⟩)

/-- The members of a bag of data, sorted, are data. -/
lemma data_sortedObject (ha : a.Data) : (Value.object (sortedObject a.entries)).Data :=
  .object fun m hm => ha.data m ((sortedObject_perm ha.nodup).1.subset hm)

end Data

/-- **Equality of bags is equality of canonical texts**, for bags of JSON data, doubles
included, that hold no negative zero. -/
theorem beq_iff_canonical_eq {a b : Args} (ha : a.Data) (hb : b.Data) (hza : ¬ a.HoldsNegZero)
    (hzb : ¬ b.HoldsNegZero) : (a == b) = true ↔ a.canonical = b.canonical := by
  rw [ha.beq_iff_perm hb hza hzb, canonical_eq ha.sorted, canonical_eq hb.sorted,
    perm_iff_sortedObject_eq ha.nodup hb.nodup]
  constructor
  · intro h
    rw [h]
  · -- the canonical texts are compact texts of data, which tell data apart
    intro h
    exact Value.object.inj (ha.data_sortedObject.compact_inj hb.data_sortedObject h)

/-- One and a half under `x` and a flag under `y`. -/
def halfAndFlag : Args :=
  ⟨[("x", .number (.float ⟨0x3FF8000000000000⟩)), ("y", .bool true)]⟩

/-- The same members inserted the other way round. -/
def flagAndHalf : Args :=
  ⟨[("y", .bool true), ("x", .number (.float ⟨0x3FF8000000000000⟩))]⟩

/-- The same two members, one of them a double, inserted in either order: equal bags with one
canonical text. -/
theorem beq_iff_canonical_eq_swapped :
    halfAndFlag.Data ∧ flagAndHalf.Data ∧ ¬ halfAndFlag.HoldsNegZero ∧
      ¬ flagAndHalf.HoldsNegZero ∧
      ((halfAndFlag == flagAndHalf) = true ↔ halfAndFlag.canonical = flagAndHalf.canonical) := by
  have hf : Value.Data (.number (.float ⟨0x3FF8000000000000⟩)) :=
    .number (.float (by simp [Decimal.Double.kind, Decimal.Binary.classifyBits]) rfl)
  have hx : ¬ Value.HoldsNegZero (.number (.float ⟨0x3FF8000000000000⟩)) := by
    simp [Value.holdsNegZero_number]
    decide
  have hy : ¬ Value.HoldsNegZero (.bool true) := nofun
  have ha : halfAndFlag.Data :=
    ⟨by decide, by simp [halfAndFlag, hf, Value.Data.bool],
      by simp [halfAndFlag, Value.sortKeys]⟩
  have hb : flagAndHalf.Data :=
    ⟨by decide, by simp [flagAndHalf, hf, Value.Data.bool],
      by simp [flagAndHalf, Value.sortKeys]⟩
  have hza : ¬ halfAndFlag.HoldsNegZero := by simp [HoldsNegZero, halfAndFlag, hx, hy]
  have hzb : ¬ flagAndHalf.HoldsNegZero := by simp [HoldsNegZero, flagAndHalf, hx, hy]
  exact ⟨ha, hb, hza, hzb, beq_iff_canonical_eq ha hb hza hzb⟩

/-- **A bag read back from its own text** holds the same members sorted by key, so its keys
come back in the order they were inserted exactly when that order was ascending. -/
theorem ofJson_toJson {a : Args} (ha : a.Plain) (hd : a.toValue.depth ≤ Reader.nestingLimit) :
    ∃ b, ofJson a.toJson = .ok b ∧ b.entries.Perm a.entries ∧ KeysAscend b.entries ∧
      (b.keys = a.keys ↔ KeysAscend a.entries) := by
  obtain ⟨hp, hs⟩ := sortedObject_perm ha.nodup
  exact ⟨_, ha.ofJson_toJson_eq hd, hp, hs, sortedObject_keys_iff ha.nodup⟩

/-- Eleven positional arguments, keyed `"0"` to `"10"`. -/
def elevenPositional : Args := positional ((List.range 11).map fun n => .number (.natural n))

lemma plain_elevenPositional : elevenPositional.Plain :=
  .positional fun v hv => by
    obtain ⟨n, hn, rfl⟩ := List.mem_map.1 hv
    exact ⟨.natural (by simp at hn; unfold Reader.maxNatural; omega), rfl⟩

/-- Eleven positional arguments read back, with their keys' order kept only where it is
ascending as text. -/
theorem ofJson_toJson_elevenPositional :
    elevenPositional.Plain ∧ elevenPositional.toValue.depth ≤ Reader.nestingLimit ∧
      ∃ b, ofJson elevenPositional.toJson = .ok b ∧ b.entries.Perm elevenPositional.entries ∧
        KeysAscend b.entries ∧
        (b.keys = elevenPositional.keys ↔ KeysAscend elevenPositional.entries) :=
  ⟨plain_elevenPositional, by decide, ofJson_toJson plain_elevenPositional (by decide)⟩

/-- **Positional arguments do not keep their order**: read back from their text, eleven of them
come back with `"10"` between `"1"` and `"2"`. -/
theorem positional_keys_resorted :
    ∃ b, ofJson elevenPositional.toJson = .ok b ∧ b.keys ≠ elevenPositional.keys ∧
      b.keys = ["0", "1", "10", "2", "3", "4", "5", "6", "7", "8", "9"] :=
  ⟨_, plain_elevenPositional.ofJson_toJson_eq (by decide), by decide, by decide⟩

end JobQueue.Args
