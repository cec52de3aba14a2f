import JobQueue.Args
import Mathlib.Data.List.Sort

/-!
# Compact JSON text reads back

The reader gives back every value the writer prints, as long as the value is data of the kind
the store holds: whole numbers within the ranges the reader keeps exact, and no doubles (their
printing and reading are floating-point arithmetic, outside what is proved here). Reading
keeps the members of an object in text order, so the value comes back as it was, not only as
an equal map.

The proof follows the text. Each reader step is stated by what it leaves of the text it is
given (`Cursor.rest`), never by the line and column it reports, which only errors show. A
value stands before a comma, a closing bracket or the end of the text (`Follows`), which is
what stops the digits of a number.

**Main statements**

* `Value.Plain` — the data the store holds; `Value.depth` — how deep arrays and objects nest.
* `Value.Plain.readsBack` — the reader reads a plain value from its compact text, wherever it
  stands, with fuel for the text's length and room for its nesting.
* `Reader.document_compact` — a whole text that is the compact form of a plain value nested
  at most 127 deep reads as that value.
* `Value.Plain.compact_inj` — two plain values with the same compact text are the same value.
-/

namespace JobQueue.Json

/-! ## Plain data -/

/-- **JSON data without doubles**: whole numbers within the 64-bit ranges that the reader keeps
exact, at every depth. -/
inductive Value.Plain : Value → Prop
  | null : Value.Plain .null
  | bool (b : Bool) : Value.Plain (.bool b)
  | natural {n : Nat} (h : n ≤ Reader.maxNatural) : Value.Plain (.number (.natural n))
  | negative {n : Int} (h₁ : -9223372036854775808 ≤ n) (h₂ : n < 0) :
      Value.Plain (.number (.negative n))
  | string (s : String) : Value.Plain (.string s)
  | array {items : List Value} (h : ∀ v ∈ items, Value.Plain v) : Value.Plain (.array items)
  | object {members : List (String × Value)} (h : ∀ m ∈ members, Value.Plain m.2) :
      Value.Plain (.object members)

mutual

/-- How deep arrays and objects nest in a value. -/
def Value.depth : Value → Nat
  | .array items => Value.depthList items + 1
  | .object members => Value.depthMembers members + 1
  | _ => 0

/-- The deepest nesting among the elements. -/
def Value.depthList : List Value → Nat
  | [] => 0
  | v :: rest => max (Value.depth v) (Value.depthList rest)

/-- The deepest nesting among the members' values. -/
def Value.depthMembers : List (String × Value) → Nat
  | [] => 0
  | (_, v) :: rest => max (Value.depth v) (Value.depthMembers rest)

end

namespace Value

lemma depth_le_depthList {v : Value} {items : List Value} (h : v ∈ items) :
    v.depth ≤ depthList items := by
  induction items with
  | nil => cases h
  | cons w rest ih =>
    rw [depthList]
    rcases List.mem_cons.1 h with rfl | h
    · exact Nat.le_max_left _ _
    · exact (ih h).trans (Nat.le_max_right _ _)

lemma depth_le_depthMembers {m : String × Value} {members : List (String × Value)}
    (h : m ∈ members) : m.2.depth ≤ depthMembers members := by
  induction members with
  | nil => cases h
  | cons n rest ih =>
    obtain ⟨k, w⟩ := n
    rw [depthMembers]
    rcases List.mem_cons.1 h with rfl | h
    · exact Nat.le_max_left _ _
    · exact (ih h).trans (Nat.le_max_right _ _)

end Value

/-! ## The compact text, character by character -/

/-- The text of one member: its key quoted, a colon, its value. -/
def memberText (m : String × Value) : List Char := (quote m.1).toList ++ ':' :: m.2.compact.toList

/-- The text of elements after the first: each after a comma. -/
def restText (items : List Value) : List Char := items.flatMap fun v => ',' :: v.compact.toList

/-- The text of members after the first: each after a comma. -/
def restMembersText (members : List (String × Value)) : List Char :=
  members.flatMap fun m => ',' :: memberText m

lemma toList_quote (s : String) :
    (quote s).toList = '"' :: s.toList.flatMap (fun ch => (escapeChar ch).toList) ++ ['"'] := by
  simp [quote, String.toList_join, List.flatMap_map]

namespace Value

lemma toList_compactList_cons (v : Value) (rest : List Value) :
    (compactList (v :: rest)).toList = v.compact.toList ++ restText rest := by
  induction rest generalizing v with
  | nil => simp [compactList, restText]
  | cons w rest ih => simp [compactList, restText, ih w]

lemma toList_compactMembers_cons (m : String × Value) (rest : List (String × Value)) :
    (compactMembers (m :: rest)).toList = memberText m ++ restMembersText rest := by
  induction rest generalizing m with
  | nil => simp [compactMembers, memberText, restMembersText]
  | cons n rest ih =>
    obtain ⟨k, v⟩ := m
    simp [compactMembers, memberText, restMembersText, ih n]

lemma toList_compact_array (items : List Value) :
    (compact (.array items)).toList = '[' :: (compactList items).toList ++ [']'] := by
  simp [compact]

lemma toList_compact_object (members : List (String × Value)) :
    (compact (.object members)).toList = '{' :: (compactMembers members).toList ++ ['}'] := by
  simp [compact]

end Value

/-! ## Cursor steps -/

/-- **What may follow a value** in compact text: nothing, a comma, or a closing bracket. -/
def Follows (r : List Char) : Prop :=
  r.head? = none ∨ r.head? = some ',' ∨ r.head? = some ']' ∨ r.head? = some '}'

/-- **Elements after the first, taken apart at the first**: a comma, the element, and the
elements after it, which may follow a value; the lengths add up. -/
lemma restText_cons (v : Value) (items : List Value) (r : List Char) :
    restText (v :: items) ++ ']' :: r = ',' :: (v.compact.toList ++ (restText items ++ ']' :: r)) ∧
      Follows (restText items ++ ']' :: r) ∧
      (restText (v :: items)).length = v.compact.toList.length + (restText items).length + 1 := by
  refine ⟨by simp [restText], by cases items <;> simp [Follows, restText], ?_⟩
  simp only [restText, List.flatMap_cons, List.length_append, List.length_cons]
  omega

/-- **Members after the first, taken apart at the first**: a comma, the member, and the members
after it, which may follow a value; the lengths add up. -/
lemma restMembersText_cons (k : String) (v : Value) (ms : List (String × Value)) (r : List Char) :
    restMembersText ((k, v) :: ms) ++ '}' :: r =
        ',' :: (memberText (k, v) ++ (restMembersText ms ++ '}' :: r)) ∧
      Follows (restMembersText ms ++ '}' :: r) ∧
      (restMembersText ((k, v) :: ms)).length =
        (memberText (k, v)).length + (restMembersText ms).length + 1 := by
  refine ⟨by simp [restMembersText], by cases ms <;> simp [Follows, restMembersText], ?_⟩
  simp only [restMembersText, List.flatMap_cons, List.length_append, List.length_cons]
  omega

namespace Cursor

variable {c : Cursor} {ch : Char} {t : List Char}

lemma peek_of_rest (h : c.rest = ch :: t) : c.peek = some ch := by
  simp [peek, h]

lemma rest_bump (h : c.rest = ch :: t) : c.bump.rest = t := by
  simp only [bump, h]
  split <;> rfl

/-- Whitespace is skipped only where it stands: every character past the space is kept. -/
lemma skipSpace_of_rest (h : c.rest = ch :: t) (hch : 33 ≤ ch.toNat) : c.skipSpace = c := by
  rw [skipSpace]
  split
  · next ch' t' h' =>
    rw [h] at h'
    cases h'
    have hb : (ch == ' ' || ch == '\t' || ch == '\r' || ch == '\n') = false := by
      simp only [Bool.or_eq_false_iff, beq_eq_false_iff_ne]
      refine ⟨⟨⟨?_, ?_⟩, ?_⟩, ?_⟩ <;> rintro rfl <;> simp at hch
    simp [hb]
  · next h' => simp [h] at h'

lemma skipSpace_of_nil (h : c.rest = []) : c.skipSpace = c := by
  rw [skipSpace]
  split
  · next h' => simp [h] at h'
  · rfl

end Cursor

/-! ## Numbers -/

namespace Reader

/-- The value of a run of decimal digits read from the left onto `acc`, as the reader
accumulates it. -/
def digitsValue (acc : Nat) (ds : List Char) : Nat :=
  ds.foldl (fun a ch => a * 10 + digitValue ch) acc

lemma le_digitsValue (acc : Nat) (ds : List Char) : acc ≤ digitsValue acc ds := by
  induction ds generalizing acc with
  | nil => exact le_refl acc
  | cons d ds ih =>
    have hstep : acc ≤ acc * 10 + digitValue d := by omega
    exact hstep.trans (ih _)

lemma digitValue_digitChar {d : Nat} (hd : d < 10) : digitValue (Nat.digitChar d) = d := by
  simp only [digitValue, Nat.toNat_digitChar_of_lt_ten hd]
  show 48 + d - 48 = d
  omega

/-- The digits of `n` read back as `n`. -/
lemma digitsValue_toDigits (n : Nat) : digitsValue 0 (Nat.toDigits 10 n) = n := by
  induction n using Nat.strong_induction_on with
  | _ n ih =>
    rcases Nat.lt_or_ge n 10 with hlt | hge
    · rw [Nat.toDigits_of_lt_base hlt]
      simp [digitsValue, digitValue_digitChar hlt]
    · have hq := ih (n / 10) (by omega)
      rw [Nat.toDigits_of_base_le (by decide) hge]
      simp only [digitsValue, List.foldl_append, List.foldl_cons, List.foldl_nil] at hq ⊢
      rw [hq, digitValue_digitChar (Nat.mod_lt n (by decide))]
      omega

lemma isDigit_of_mem_toDigits {n : Nat} {ch : Char} (h : ch ∈ Nat.toDigits 10 n) :
    ch.isDigit = true := by
  induction n using Nat.strong_induction_on with
  | _ n ih =>
    rcases Nat.lt_or_ge n 10 with hlt | hge
    · rw [Nat.toDigits_of_lt_base hlt, List.mem_singleton] at h
      rw [h, Nat.isDigit_digitChar, decide_eq_true hlt]
    · rw [Nat.toDigits_of_base_le (by decide) hge, List.mem_append, List.mem_singleton] at h
      rcases h with h | rfl
      · exact ih (n / 10) (by omega) h
      · rw [Nat.isDigit_digitChar, decide_eq_true (Nat.mod_lt n (by decide))]

/-- The numeral of a positive number starts with a digit other than zero. -/
lemma toDigits_head {n : Nat} (hn : 0 < n) :
    ∃ d ds, Nat.toDigits 10 n = d :: ds ∧ d ≠ '0' := by
  induction n using Nat.strong_induction_on with
  | _ n ih =>
    rcases Nat.lt_or_ge n 10 with hlt | hge
    · refine ⟨_, [], Nat.toDigits_of_lt_base hlt, fun h => ?_⟩
      have := congrArg Char.toNat h
      rw [Nat.toNat_digitChar_of_lt_ten hlt] at this
      simp at this
      omega
    · obtain ⟨d, ds, hds, hd⟩ := ih (n / 10) (by omega) (by omega)
      exact ⟨d, ds ++ [Nat.digitChar (n % 10)], by
        rw [Nat.toDigits_of_base_le (by decide) hge, hds, List.cons_append], hd⟩

end Reader

lemma toNat_of_isDigit {ch : Char} (h : ch.isDigit = true) : 48 ≤ ch.toNat ∧ ch.toNat ≤ 57 := by
  simp only [Char.isDigit, Bool.and_eq_true, decide_eq_true_eq] at h
  exact ⟨h.1, h.2⟩

namespace Follows

variable {r : List Char}

lemma not_digit (h : Follows r) {ch : Char} {t : List Char} (hr : r = ch :: t) :
    ch.isDigit = false := by
  subst hr
  rcases h with h | h | h | h <;> simp at h <;> subst h <;> rfl

lemma peek_ne {c : Cursor} (hc : c.rest = r) (h : Follows r) :
    c.peek ≠ some '.' ∧ c.peek ≠ some 'e' ∧ c.peek ≠ some 'E' := by
  simp only [Cursor.peek, hc]
  rcases h with h | h | h | h <;> rw [h] <;> simp

end Follows

namespace Reader

variable {c : Cursor} {r : List Char}

/-- **A run of digits** is read to its end while its value stays a 64-bit number. -/
lemma wholeDigits_digits (positive : Bool) :
    ∀ (ds : List Char) (c : Cursor) (sig : Nat), (∀ ch ∈ ds, ch.isDigit = true) →
      c.rest = ds ++ r → (∀ ch t, r = ch :: t → ch.isDigit = false) →
      digitsValue sig ds ≤ maxNatural →
      ∃ c', c'.rest = r ∧
        wholeDigits c positive sig = afterWhole c' positive (digitsValue sig ds)
  | [], c, sig, _, h, hr, _ => by
    refine ⟨c, h, ?_⟩
    rw [wholeDigits]
    split
    · next ch t h' =>
      rw [h', List.nil_append] at h
      simp [hr ch t h.symm, digitsValue]
    · rfl
  | d :: ds, c, sig, hds, h, hr, hmax => by
    have hd := hds d (List.mem_cons_self ..)
    have hnext : sig * 10 + digitValue d ≤ maxNatural :=
      (le_digitsValue _ ds).trans hmax
    obtain ⟨c', hc', heq⟩ := wholeDigits_digits positive ds c.bump (sig * 10 + digitValue d)
      (fun ch hch => hds ch (List.mem_cons_of_mem _ hch)) (Cursor.rest_bump h) hr hmax
    refine ⟨c', hc', ?_⟩
    rw [wholeDigits]
    split
    · next ch t h' =>
      rw [h] at h'
      obtain ⟨rfl, -⟩ := List.cons.inj h'
      simp only [hd, if_true, gt_iff_lt, not_lt.2 hnext, if_false]
      exact heq
    · next h' => simp [h] at h'

lemma afterWhole_natural (hc : c.rest = r) (hr : Follows r) (sig : Nat) :
    afterWhole c true sig = .ok (.natural sig, c) := by
  obtain ⟨h₁, h₂, h₃⟩ := hr.peek_ne hc
  rw [afterWhole]
  split
  · contradiction
  · contradiction
  · contradiction
  · rfl

lemma afterWhole_negative (hc : c.rest = r) (hr : Follows r) {sig : Nat} (h₁ : 0 < sig)
    (h₂ : sig ≤ 9223372036854775808) :
    afterWhole c false sig = .ok (.negative (-(sig : Int)), c) := by
  obtain ⟨hp₁, hp₂, hp₃⟩ := hr.peek_ne hc
  rw [afterWhole]
  split
  · contradiction
  · contradiction
  · contradiction
  · simp [Nat.pos_iff_ne_zero.1 h₁, h₂]

/-- **A numeral is read as its value**, when a value may follow it. -/
lemma number_toDigits (positive : Bool) {n : Nat} (hc : c.rest = Nat.toDigits 10 n ++ r)
    (hr : Follows r) (hmax : n ≤ maxNatural) :
    ∃ c', c'.rest = r ∧ number c positive = afterWhole c' positive n := by
  have hdig : ∀ ch t, r = ch :: t → ch.isDigit = false := fun _ _ h => hr.not_digit h
  rcases Nat.eq_zero_or_pos n with rfl | hn
  · -- Zero is the one numeral that starts with `0`.
    have hc' : c.rest = '0' :: r := hc
    refine ⟨c.bump, Cursor.rest_bump hc', ?_⟩
    rw [number, Cursor.peek_of_rest hc']
    cases hr' : r with
    | nil =>
      have hnone : c.bump.peek = none := by simp [Cursor.peek, Cursor.rest_bump hc', hr']
      simp [hnone]
    | cons ch t => simp [Cursor.peek_of_rest ((Cursor.rest_bump hc').trans hr'), hdig ch t hr']
  · obtain ⟨d, ds, hds, hd⟩ := toDigits_head hn
    rw [hds, List.cons_append] at hc
    have hdigit : d.isDigit = true := isDigit_of_mem_toDigits (hds ▸ List.mem_cons_self ..)
    have hval : digitsValue (digitValue d) ds = n := by
      have := digitsValue_toDigits n
      rw [hds] at this
      simpa [digitsValue] using this
    obtain ⟨c', hc', heq⟩ := wholeDigits_digits positive ds c.bump (digitValue d)
      (fun ch hch => isDigit_of_mem_toDigits (hds ▸ List.mem_cons_of_mem _ hch))
      (Cursor.rest_bump hc) hdig (hval ▸ hmax)
    refine ⟨c', hc', ?_⟩
    rw [number, Cursor.peek_of_rest hc]
    split
    · next h => cases h
    · next h => cases h; exact absurd rfl hd
    · next ch hne h =>
      cases h
      rw [if_pos hdigit, heq, hval]

end Reader

/-! ## Strings -/

namespace Reader

variable {c : Cursor} {t r : List Char} {fuel : Nat} {acc : Array Char}

lemma hexValue_hexDigit {k : Nat} (hk : k < 16) : hexValue (hexDigit k) = some k :=
  (by decide : ∀ k < 16, hexValue (hexDigit k) = some k) k hk

/-- A two-character escape reads back as the character it stands for. -/
lemma string_shortEscape {e x : Char} (hc : c.rest = '\\' :: e :: t)
    (he : ∀ c' : Cursor, c'.peek = some e → escape c' = .ok (x, c'.bump)) :
    ∃ c', c'.rest = t ∧ string (fuel + 1) c acc = string fuel c' (acc.push x) := by
  refine ⟨c.bump.bump, Cursor.rest_bump (Cursor.rest_bump hc), ?_⟩
  rw [string, Cursor.peek_of_rest hc]
  simp only [he c.bump (Cursor.peek_of_rest (Cursor.rest_bump hc))]
  rfl

/-- A control character written as `\u00XY` reads back as itself. -/
lemma string_unicodeEscape {ch : Char} (hch : ch.toNat < 32)
    (hc : c.rest = '\\' :: 'u' :: '0' :: '0' :: hexDigit (ch.toNat / 16) ::
      hexDigit (ch.toNat % 16) :: t) :
    ∃ c', c'.rest = t ∧ string (fuel + 1) c acc = string fuel c' (acc.push ch) := by
  have h₁ := Cursor.rest_bump hc
  have h₂ := Cursor.rest_bump h₁
  refine ⟨c.bump.bump.bump.bump.bump.bump, Cursor.rest_bump (Cursor.rest_bump
    (Cursor.rest_bump (Cursor.rest_bump h₂))), ?_⟩
  have hhex : hexEscape c.bump.bump = .ok (ch.toNat, c.bump.bump.bump.bump.bump.bump) := by
    rw [hexEscape]
    split
    · next a b d e t' h' =>
      rw [h₂] at h'
      simp only [List.cons.injEq] at h'
      obtain ⟨rfl, rfl, rfl, rfl, -⟩ := h'
      rw [hexValue_hexDigit (Nat.div_lt_of_lt_mul (by omega)),
        hexValue_hexDigit (Nat.mod_lt _ (by decide))]
      simp only [show hexValue '0' = some 0 from rfl]
      congr 2
      omega
    · next h' => exact absurd h₂ (h' _ _ _ _ _)
  have hesc : escape c.bump = .ok (ch, c.bump.bump.bump.bump.bump.bump) := by
    rw [escape, Cursor.peek_of_rest h₁]
    simp only [unicodeEscape, hhex, bind, Except.bind]
    have hlo : ¬ (0xDC00 ≤ ch.toNat ∧ ch.toNat ≤ 0xDFFF) := by omega
    simp [hlo, show ch.toNat < 0xD800 by omega, Char.ofNat_toNat]
    rfl
  rw [string, Cursor.peek_of_rest hc]
  simp only [hesc]
  rfl

/-- **One written character reads back**: the reader takes its escape, or the character
itself, and goes on. -/
lemma string_escapeChar (fuel : Nat) (acc : Array Char) (ch : Char)
    (hc : c.rest = (escapeChar ch).toList ++ t) :
    ∃ c', c'.rest = t ∧ string (fuel + 1) c acc = string fuel c' (acc.push ch) := by
  unfold escapeChar at hc
  split at hc
  · exact string_shortEscape (by simpa using hc) fun c' hp => by rw [escape, hp]; rfl
  · exact string_shortEscape (by simpa using hc) fun c' hp => by rw [escape, hp]; rfl
  · exact string_shortEscape (by simpa using hc) fun c' hp => by rw [escape, hp]; rfl
  · exact string_shortEscape (by simpa using hc) fun c' hp => by rw [escape, hp]; rfl
  · exact string_shortEscape (by simpa using hc) fun c' hp => by rw [escape, hp]; rfl
  · exact string_shortEscape (by simpa using hc) fun c' hp => by rw [escape, hp]; rfl
  · exact string_shortEscape (by simpa using hc) fun c' hp => by rw [escape, hp]; rfl
  · next h₁ h₂ h₃ h₄ h₅ h₆ h₇ =>
    split at hc
    · next hlt => exact string_unicodeEscape hlt (by simpa using hc)
    · -- Any other character is written, and read, as itself.
      next hge =>
      have hc' : c.rest = ch :: t := by simpa using hc
      refine ⟨c.bump, Cursor.rest_bump hc', ?_⟩
      rw [string, Cursor.peek_of_rest hc']
      split
      · next h => cases h
      · next h => cases h; exact absurd rfl h₁
      · next h => cases h; exact absurd rfl h₂
      · next ch' _ _ h =>
        cases h
        rw [if_neg hge]
end Reader

namespace Reader

variable {c : Cursor} {r : List Char}

lemma length_le_flatMap_escapeChar (l : List Char) :
    l.length ≤ (l.flatMap fun ch => (escapeChar ch).toList).length := by
  induction l with
  | nil => exact le_refl 0
  | cons ch l ih =>
    have hpos : 0 < (escapeChar ch).toList.length := by
      unfold escapeChar
      split
      all_goals try simp
      split <;> simp
    simp only [List.flatMap_cons, List.length_append, List.length_cons]
    omega

/-- **A quoted text reads back**: from after its opening quote, the reader takes each escaped
character and the closing quote, given fuel for each character. -/
lemma string_quoted : ∀ (l : List Char) (c : Cursor) (fuel : Nat) (acc : Array Char),
    c.rest = l.flatMap (fun ch => (escapeChar ch).toList) ++ '"' :: r → l.length < fuel →
    ∃ c', c'.rest = r ∧ string fuel c acc = .ok (String.ofList (acc.toList ++ l), c')
  | _, _, 0, _, _, hl => absurd hl (Nat.not_lt_zero _)
  | [], c, fuel + 1, acc, hc, _ => by
    refine ⟨c.bump, Cursor.rest_bump hc, ?_⟩
    rw [string, Cursor.peek_of_rest hc]
    simp
  | ch :: l, c, fuel + 1, acc, hc, hl => by
    rw [List.flatMap_cons, List.append_assoc] at hc
    obtain ⟨c', hc', heq⟩ := string_escapeChar fuel acc ch hc
    obtain ⟨c'', hc'', heq'⟩ := string_quoted l c' fuel (acc.push ch) hc'
      (by simp only [List.length_cons] at hl; omega)
    refine ⟨c'', hc'', ?_⟩
    rw [heq, heq']
    simp

/-- A keyword's letters are read as they are written. -/
lemma keyword_of_rest : ∀ (l : List Char) (c : Cursor), c.rest = l ++ r →
    ∃ c', c'.rest = r ∧ keyword c l = .ok c'
  | [], c, hc => ⟨c, hc, rfl⟩
  | e :: l, c, hc => by
    obtain ⟨c', hc', heq⟩ := keyword_of_rest l c.bump (Cursor.rest_bump hc)
    refine ⟨c', hc', ?_⟩
    rw [keyword, Cursor.peek_of_rest hc]
    simp [heq]

/-- On a digit the reader reads a number. -/
lemma value_of_digit {fuel depth : Nat} {d : Char} {t : List Char} (hc : c.rest = d :: t)
    (hd : d.isDigit = true) :
    value (fuel + 1) depth c = (do let (n, c) ← number c true; return (.number n, c)) := by
  have hch : 33 ≤ d.toNat := by have := (toNat_of_isDigit hd).1; omega
  rw [value, Cursor.skipSpace_of_rest hc hch, Cursor.peek_of_rest hc]
  split
  case h_9 ch _ _ _ _ _ _ _ _ h =>
    cases h
    simp [hd]
  case h_1 h => cases h
  -- The other branches read a letter, a quote or a bracket, never a digit.
  all_goals
    rename_i h
    cases h
    exact absurd hd (by decide)

/-- After a comma, the reader reads the next element. -/
lemma elements_comma {fuel depth : Nat} {acc : List Value} {ch : Char} {t : List Char}
    (hc : c.rest = ',' :: ch :: t) (hch : 33 ≤ ch.toNat) (hne : ch ≠ ']') :
    elements (fuel + 1) depth c false acc =
      (do let (v, c) ← value fuel depth c.bump; elements fuel depth c false (v :: acc)) := by
  have hc₁ := Cursor.rest_bump hc
  rw [elements, Cursor.skipSpace_of_rest hc (by decide), Cursor.peek_of_rest hc]
  split
  · next h => exact absurd h (by decide)
  · next h => cases h
  · next h =>
    cases h
    simp only [beq_self_eq_true, Bool.not_false, Bool.and_self, ↓reduceIte,
      Cursor.skipSpace_of_rest hc₁ hch, Cursor.peek_of_rest hc₁]

/-- The first element is read where it stands. -/
lemma elements_first {fuel depth : Nat} {acc : List Value} {ch : Char} {t : List Char}
    (hc : c.rest = ch :: t) (hch : 33 ≤ ch.toNat) (hne : ch ≠ ']') :
    elements (fuel + 1) depth c true acc =
      (do let (v, c) ← value fuel depth c; elements fuel depth c false (v :: acc)) := by
  rw [elements, Cursor.skipSpace_of_rest hc hch, Cursor.peek_of_rest hc]
  split
  · next h => exact absurd (Option.some.inj h) hne
  · next h => cases h
  · next h =>
    cases h
    simp only [Bool.not_true, Bool.and_false, Bool.false_eq_true, if_false, if_true]
    rw [Cursor.peek_of_rest hc]
    split
    · next h => exact absurd (Option.some.inj h) hne
    · next h => cases h
    · rfl

/-- A closing bracket ends the elements. -/
lemma elements_close {fuel depth : Nat} {first : Bool} {acc : List Value} {t : List Char}
    (hc : c.rest = ']' :: t) :
    elements (fuel + 1) depth c first acc = .ok (acc.reverse, c.bump) := by
  rw [elements, Cursor.skipSpace_of_rest hc (by decide), Cursor.peek_of_rest hc]
  rfl

/-- After a comma, the reader reads the next member, key first. -/
lemma members_comma {fuel depth : Nat} {acc : List (String × Value)} {t : List Char}
    (hc : c.rest = ',' :: '"' :: t) :
    members (fuel + 1) depth c false acc =
      (do
        let (k, c') ← string c.bump.rest.length c.bump.bump #[]
        let c' ← colon c'
        let (v, c') ← value fuel depth c'
        members fuel depth c' false ((k, v) :: acc)) := by
  have hc₁ := Cursor.rest_bump hc
  rw [members, Cursor.skipSpace_of_rest hc (by decide), Cursor.peek_of_rest hc]
  split
  · next h => exact absurd h (by decide)
  · next h => cases h
  · next h =>
    cases h
    simp only [beq_self_eq_true, Bool.not_false, Bool.and_self, ↓reduceIte,
      Cursor.skipSpace_of_rest hc₁ (by decide), Cursor.peek_of_rest hc₁]

/-- The first member is read where it stands, key first. -/
lemma members_first {fuel depth : Nat} {acc : List (String × Value)} {t : List Char}
    (hc : c.rest = '"' :: t) :
    members (fuel + 1) depth c true acc =
      (do
        let (k, c') ← string c.rest.length c.bump #[]
        let c' ← colon c'
        let (v, c') ← value fuel depth c'
        members fuel depth c' false ((k, v) :: acc)) := by
  rw [members, Cursor.skipSpace_of_rest hc (by decide), Cursor.peek_of_rest hc]
  simp only [Bool.not_true, Bool.and_false, Bool.false_eq_true, ↓reduceIte,
    Cursor.peek_of_rest hc]
  rfl

/-- A closing brace ends the members. -/
lemma members_close {fuel depth : Nat} {first : Bool} {acc : List (String × Value)}
    {t : List Char} (hc : c.rest = '}' :: t) :
    members (fuel + 1) depth c first acc = .ok (acc.reverse, c.bump) := by
  rw [members, Cursor.skipSpace_of_rest hc (by decide), Cursor.peek_of_rest hc]
  rfl

lemma colon_of_rest {t : List Char} (hc : c.rest = ':' :: t) : colon c = .ok c.bump := by
  rw [colon, Cursor.skipSpace_of_rest hc (by decide), Cursor.peek_of_rest hc]
  rfl

end Reader

/-! ## Values -/

namespace Value

open Reader

/-- **Value `v` reads back from its compact text**, wherever the text stands before something
that may follow a value, with fuel for the text's length and room for its nesting. -/
def ReadsBack (v : Value) : Prop :=
  ∀ fuel depth (c : Cursor) r, c.rest = v.compact.toList ++ r → Follows r →
    v.compact.toList.length ≤ fuel → v.depth ≤ depth →
    ∃ c', c'.rest = r ∧ value fuel depth c = .ok (v, c')

lemma toDigits_cons (n : Nat) : ∃ d ds, Nat.toDigits 10 n = d :: ds := by
  rcases Nat.eq_zero_or_pos n with rfl | hn
  · exact ⟨'0', [], rfl⟩
  · obtain ⟨d, ds, h, -⟩ := toDigits_head hn
    exact ⟨d, ds, h⟩

lemma toList_compact_negative (m : Nat) :
    (compact (.number (.negative (Int.negSucc m)))).toList = '-' :: Nat.toDigits 10 (m + 1) := by
  simp [compact, Number.text, Int.repr, Nat.toList_repr]

/-- The compact text of plain data starts with a printing character that closes nothing. -/
lemma Plain.compact_head {v : Value} (hv : v.Plain) :
    ∃ ch t, v.compact.toList = ch :: t ∧ 33 ≤ ch.toNat ∧ ch ≠ ']' ∧ ch ≠ '}' := by
  cases hv with
  | null => exact ⟨'n', ['u', 'l', 'l'], by simp [compact], by decide, by decide, by decide⟩
  | bool b =>
    cases b
    · exact ⟨'f', ['a', 'l', 's', 'e'], by simp [compact], by decide, by decide, by decide⟩
    · exact ⟨'t', ['r', 'u', 'e'], by simp [compact], by decide, by decide, by decide⟩
  | @natural n _ =>
    obtain ⟨d, ds, hds⟩ := toDigits_cons n
    have hd := toNat_of_isDigit (isDigit_of_mem_toDigits (hds ▸ List.mem_cons_self ..))
    refine ⟨d, ds, by simp [compact, Number.text, Nat.toList_repr, hds], by omega, ?_, ?_⟩ <;>
      rintro rfl <;> simp at hd
  | @negative n _ h₂ =>
    obtain ⟨m, rfl⟩ := Int.eq_negSucc_of_lt_zero h₂
    exact ⟨'-', _, toList_compact_negative m, by decide, by decide, by decide⟩
  | string s =>
    exact ⟨'"', _, by simp [compact, toList_quote]; rfl, by decide, by decide, by decide⟩
  | array h => exact ⟨'[', _, toList_compact_array _, by decide, by decide, by decide⟩
  | object h => exact ⟨'{', _, toList_compact_object _, by decide, by decide, by decide⟩

lemma fuel_of_length {v : Value} {fuel : Nat} {ch : Char} {t : List Char}
    (hv : v.compact.toList = ch :: t) (hlen : v.compact.toList.length ≤ fuel) :
    ∃ f, fuel = f + 1 := ⟨fuel - 1, by rw [hv, List.length_cons] at hlen; omega⟩

/-- A value written as a keyword reads back, given the reader's step on its first letter. -/
lemma readsBack_keyword {v : Value} {ch : Char} {kw : List Char}
    (htext : v.compact.toList = ch :: kw)
    (hstep : ∀ fuel depth (c : Cursor) t, c.rest = ch :: t →
      value (fuel + 1) depth c = (do return (v, ← keyword c.bump kw))) :
    ReadsBack v := by
  intro fuel depth c r hc _ hlen _
  obtain ⟨f, rfl⟩ := fuel_of_length htext hlen
  rw [htext, List.cons_append] at hc
  obtain ⟨c', hc', hk⟩ := keyword_of_rest kw c.bump (Cursor.rest_bump hc)
  refine ⟨c', hc', ?_⟩
  rw [hstep f depth c _ hc, hk]
  rfl

lemma readsBack_null : ReadsBack .null :=
  readsBack_keyword (show (compact .null).toList = 'n' :: ['u', 'l', 'l'] by simp [compact])
    fun _ _ _ _ hc => by
      rw [value, Cursor.skipSpace_of_rest hc (by decide), Cursor.peek_of_rest hc]
      rfl

lemma readsBack_bool (b : Bool) : ReadsBack (.bool b) := by
  cases b
  · refine readsBack_keyword
      (show (compact (.bool false)).toList = 'f' :: ['a', 'l', 's', 'e'] by simp [compact]) ?_
    intro _ _ _ _ hc
    rw [value, Cursor.skipSpace_of_rest hc (by decide), Cursor.peek_of_rest hc]
    rfl
  · refine readsBack_keyword
      (show (compact (.bool true)).toList = 't' :: ['r', 'u', 'e'] by simp [compact]) ?_
    intro _ _ _ _ hc
    rw [value, Cursor.skipSpace_of_rest hc (by decide), Cursor.peek_of_rest hc]
    rfl

lemma readsBack_natural {n : Nat} (hn : n ≤ maxNatural) : ReadsBack (.number (.natural n)) := by
  intro fuel depth c r hc hr hlen _
  have htext : (compact (.number (.natural n))).toList = Nat.toDigits 10 n := by
    simp [compact, Number.text, Nat.toList_repr]
  obtain ⟨d, ds, hds⟩ := toDigits_cons n
  obtain ⟨f, rfl⟩ := fuel_of_length (htext.trans hds) hlen
  rw [htext] at hc
  obtain ⟨c', hc', hnum⟩ := number_toDigits true hc hr hn
  refine ⟨c', hc', ?_⟩
  rw [hds, List.cons_append] at hc
  rw [value_of_digit hc (isDigit_of_mem_toDigits (hds ▸ List.mem_cons_self ..))]
  simp [hnum, afterWhole_natural hc' hr]

lemma readsBack_negative {n : Int} (h₁ : -9223372036854775808 ≤ n) (h₂ : n < 0) :
    ReadsBack (.number (.negative n)) := by
  obtain ⟨m, rfl⟩ := Int.eq_negSucc_of_lt_zero h₂
  intro fuel depth c r hc hr hlen _
  obtain ⟨f, rfl⟩ := fuel_of_length (toList_compact_negative m) hlen
  rw [toList_compact_negative, List.cons_append] at hc
  have hm : m + 1 ≤ 9223372036854775808 := by
    rw [Int.negSucc_eq] at h₁
    omega
  obtain ⟨c', hc', hnum⟩ := number_toDigits false (Cursor.rest_bump hc) hr
    (hm.trans (by decide))
  refine ⟨c', hc', ?_⟩
  rw [value, Cursor.skipSpace_of_rest hc (by decide), Cursor.peek_of_rest hc]
  simp only [hnum, afterWhole_negative hc' hr (Nat.succ_pos m) hm]
  rfl

lemma readsBack_string (s : String) : ReadsBack (.string s) := by
  intro fuel depth c r hc _ hlen _
  have htext : (compact (.string s)).toList =
      '"' :: (s.toList.flatMap fun ch => (escapeChar ch).toList) ++ '"' :: [] := by
    simp [compact, toList_quote]
  obtain ⟨f, rfl⟩ := fuel_of_length htext hlen
  simp only [htext, List.cons_append, List.append_assoc, List.nil_append] at hc
  have hfuel : s.toList.length < c.rest.length := by
    have := length_le_flatMap_escapeChar s.toList
    rw [hc]
    simp only [List.length_cons, List.length_append]
    omega
  obtain ⟨c', hc', hstr⟩ := string_quoted s.toList c.bump c.rest.length #[]
    (Cursor.rest_bump hc) hfuel
  refine ⟨c', hc', ?_⟩
  rw [value, Cursor.skipSpace_of_rest hc (by decide), Cursor.peek_of_rest hc]
  simp [hstr]

/-! ## Arrays and objects -/

/-- **Elements after the first read back**, each after its comma, up to the closing bracket. -/
lemma elements_rest (depth : Nat) {r : List Char} :
    ∀ (items : List Value) (fuel : Nat) (c : Cursor) (acc : List Value),
      (∀ v ∈ items, v.Plain) → (∀ v ∈ items, v.ReadsBack) → (∀ v ∈ items, v.depth ≤ depth) →
      c.rest = restText items ++ ']' :: r → (restText items).length < fuel →
      ∃ c', c'.rest = r ∧ elements fuel depth c false acc = .ok (acc.reverse ++ items, c')
  | _, 0, _, _, _, _, _, _, hl => absurd hl (Nat.not_lt_zero _)
  | [], fuel + 1, c, acc, _, _, _, hc, _ =>
    ⟨c.bump, Cursor.rest_bump hc, by rw [elements_close hc, List.append_nil]⟩
  | v :: items, fuel + 1, c, acc, hp, ih, hd, hc, hl => by
    have hv : v ∈ v :: items := List.mem_cons_self ..
    obtain ⟨ch, t, htext, hch, hne, -⟩ := (hp v hv).compact_head
    obtain ⟨hsplit, hfol, hsum⟩ := restText_cons v items r
    have hc' := hc.trans hsplit
    have hlen : v.compact.toList.length + (restText items).length + 1 ≤ fuel := by omega
    have hpos : 0 < v.compact.toList.length := by simp [htext]
    obtain ⟨c₁, hc₁, hval⟩ := ih v hv fuel depth c.bump _ (Cursor.rest_bump hc') hfol
      (by omega) (hd v hv)
    obtain ⟨c₂, hc₂, hel⟩ := elements_rest depth items fuel c₁ (v :: acc)
      (fun w hw => hp w (List.mem_cons_of_mem _ hw)) (fun w hw => ih w (List.mem_cons_of_mem _ hw))
      (fun w hw => hd w (List.mem_cons_of_mem _ hw)) hc₁ (by omega)
    refine ⟨c₂, hc₂, ?_⟩
    rw [htext, List.cons_append] at hc'
    rw [elements_comma hc' hch hne, hval]
    simp only [bind, Except.bind]
    rw [hel]
    simp

/-- **The elements of an array read back**, from after its opening bracket. -/
lemma elements_all (depth : Nat) {r : List Char} (items : List Value) (fuel : Nat) (c : Cursor)
    (hp : ∀ v ∈ items, v.Plain) (ih : ∀ v ∈ items, v.ReadsBack) (hd : ∀ v ∈ items, v.depth ≤ depth)
    (hc : c.rest = (compactList items).toList ++ ']' :: r)
    (hl : (compactList items).toList.length < fuel) :
    ∃ c', c'.rest = r ∧ elements fuel depth c true [] = .ok (items, c') := by
  obtain ⟨f, rfl⟩ : ∃ f, fuel = f + 1 := ⟨fuel - 1, by omega⟩
  cases items with
  | nil =>
    have hc' : c.rest = ']' :: r := by simpa [compactList] using hc
    exact ⟨c.bump, Cursor.rest_bump hc', by rw [elements_close hc']; rfl⟩
  | cons v items =>
    have hv : v ∈ v :: items := List.mem_cons_self ..
    obtain ⟨ch, t, htext, hch, hne, -⟩ := (hp v hv).compact_head
    rw [toList_compactList_cons] at hc hl
    rw [List.append_assoc] at hc
    have hfol : Follows (restText items ++ ']' :: r) := by
      cases items <;> simp [Follows, restText]
    have hpos : 0 < v.compact.toList.length := by simp [htext]
    rw [List.length_append] at hl
    obtain ⟨c₁, hc₁, hval⟩ := ih v hv f depth c _ hc hfol (by omega) (hd v hv)
    obtain ⟨c₂, hc₂, hel⟩ := elements_rest depth items f c₁ [v]
      (fun w hw => hp w (List.mem_cons_of_mem _ hw)) (fun w hw => ih w (List.mem_cons_of_mem _ hw))
      (fun w hw => hd w (List.mem_cons_of_mem _ hw)) hc₁ (by omega)
    refine ⟨c₂, hc₂, ?_⟩
    rw [htext, List.cons_append] at hc
    rw [elements_first hc hch hne, hval]
    simp only [bind, Except.bind]
    rw [hel]
    rfl

lemma readsBack_array {items : List Value} (hp : ∀ v ∈ items, v.Plain)
    (ih : ∀ v ∈ items, v.ReadsBack) : ReadsBack (.array items) := by
  intro fuel d c r hc hr hlen hdepth
  rw [toList_compact_array] at hc hlen
  simp only [List.length_cons, List.length_append] at hlen
  obtain ⟨f, rfl⟩ : ∃ f, fuel = f + 1 := ⟨fuel - 1, by omega⟩
  rw [Value.depth] at hdepth
  obtain ⟨d, rfl⟩ : ∃ d', d = d' + 1 := ⟨d - 1, by omega⟩
  simp only [List.cons_append, List.append_assoc] at hc
  obtain ⟨c', hc', hel⟩ := elements_all d items f c.bump hp ih
    (fun v hv => (depth_le_depthList hv).trans (by omega)) (Cursor.rest_bump hc) (by omega)
  refine ⟨c', hc', ?_⟩
  rw [value, Cursor.skipSpace_of_rest hc (by decide), Cursor.peek_of_rest hc]
  simp [hel]

lemma toList_memberText (k : String) (v : Value) :
    memberText (k, v) = '"' :: (k.toList.flatMap fun ch => (escapeChar ch).toList) ++
      '"' :: ':' :: v.compact.toList := by
  simp [memberText, toList_quote]

/-- **One member reads back** from its key on: the quoted key, the colon, then the value. -/
lemma member_of_rest {depth : Nat} {k : String} {v : Value} {r : List Char}
    (hv : v.ReadsBack) (fuel : Nat) (c : Cursor) (hc : c.rest = memberText (k, v) ++ r)
    (hr : Follows r)
    (hlen : v.compact.toList.length ≤ fuel) (hd : v.depth ≤ depth) :
    ∃ c₁ c₂ : Cursor, Reader.string c.rest.length c.bump #[] = .ok (k, c₁) ∧
      colon c₁ = .ok c₁.bump ∧ value fuel depth c₁.bump = .ok (v, c₂) ∧ c₂.rest = r := by
  rw [toList_memberText] at hc
  simp only [List.cons_append, List.append_assoc] at hc
  have hfuel : k.toList.length < c.rest.length := by
    have := length_le_flatMap_escapeChar k.toList
    rw [hc]
    simp only [List.length_cons, List.length_append]
    omega
  obtain ⟨c₁, hc₁, hstr⟩ := string_quoted k.toList c.bump c.rest.length #[]
    (Cursor.rest_bump hc) hfuel
  obtain ⟨c₂, hc₂, hval⟩ := hv fuel depth c₁.bump r (Cursor.rest_bump hc₁) hr hlen hd
  exact ⟨c₁, c₂, by simpa using hstr, colon_of_rest hc₁, hval, hc₂⟩

lemma length_memberText (k : String) (v : Value) :
    (memberText (k, v)).length =
      (k.toList.flatMap fun ch => (escapeChar ch).toList).length + 3 +
        v.compact.toList.length := by
  simp only [toList_memberText, List.length_cons, List.length_append]
  omega

/-- **Members after the first read back**, each after its comma, up to the closing brace. -/
lemma members_rest (depth : Nat) {r : List Char} :
    ∀ (ms : List (String × Value)) (fuel : Nat) (c : Cursor) (acc : List (String × Value)),
      (∀ m ∈ ms, m.2.ReadsBack) → (∀ m ∈ ms, m.2.depth ≤ depth) →
      c.rest = restMembersText ms ++ '}' :: r → (restMembersText ms).length < fuel →
      ∃ c', c'.rest = r ∧ members fuel depth c false acc = .ok (acc.reverse ++ ms, c')
  | _, 0, _, _, _, _, _, hl => absurd hl (Nat.not_lt_zero _)
  | [], fuel + 1, c, acc, _, _, hc, _ =>
    ⟨c.bump, Cursor.rest_bump hc, by rw [members_close hc, List.append_nil]⟩
  | (k, v) :: ms, fuel + 1, c, acc, ih, hd, hc, hl => by
    have hm : (k, v) ∈ (k, v) :: ms := List.mem_cons_self ..
    obtain ⟨hsplit, hfol, hsum⟩ := restMembersText_cons k v ms r
    have hc' := hc.trans hsplit
    have hlen : (memberText (k, v)).length + (restMembersText ms).length + 1 ≤ fuel + 1 := by
      omega
    rw [length_memberText] at hlen
    obtain ⟨c₁, c₂, hstr, hcolon, hval, hc₂⟩ := member_of_rest (v := v) (ih _ hm) fuel c.bump
      (Cursor.rest_bump hc') hfol (by omega) (hd _ hm)
    obtain ⟨c₃, hc₃, hmem⟩ := members_rest depth ms fuel c₂ ((k, v) :: acc)
      (fun m hm' => ih m (List.mem_cons_of_mem _ hm'))
      (fun m hm' => hd m (List.mem_cons_of_mem _ hm')) hc₂ (by omega)
    refine ⟨c₃, hc₃, ?_⟩
    have ht := hc'
    rw [toList_memberText, List.cons_append] at ht
    rw [members_comma ht, hstr]
    simp only [bind, Except.bind]
    rw [hcolon]
    simp only
    rw [hval]
    simp only
    rw [hmem]
    simp

/-- **The members of an object read back**, from after its opening brace. -/
lemma members_all (depth : Nat) {r : List Char} (ms : List (String × Value)) (fuel : Nat)
    (c : Cursor) (ih : ∀ m ∈ ms, m.2.ReadsBack) (hd : ∀ m ∈ ms, m.2.depth ≤ depth)
    (hc : c.rest = (compactMembers ms).toList ++ '}' :: r)
    (hl : (compactMembers ms).toList.length < fuel) :
    ∃ c', c'.rest = r ∧ members fuel depth c true [] = .ok (ms, c') := by
  obtain ⟨f, rfl⟩ : ∃ f, fuel = f + 1 := ⟨fuel - 1, by omega⟩
  cases ms with
  | nil =>
    have hc' : c.rest = '}' :: r := by simpa [compactMembers] using hc
    exact ⟨c.bump, Cursor.rest_bump hc', by rw [members_close hc']; rfl⟩
  | cons m ms =>
    obtain ⟨k, v⟩ := m
    have hm : (k, v) ∈ (k, v) :: ms := List.mem_cons_self ..
    rw [toList_compactMembers_cons] at hc hl
    rw [List.append_assoc] at hc
    rw [List.length_append, length_memberText] at hl
    have hfol : Follows (restMembersText ms ++ '}' :: r) := by
      cases ms <;> simp [Follows, restMembersText]
    obtain ⟨c₁, c₂, hstr, hcolon, hval, hc₂⟩ := member_of_rest (v := v) (ih _ hm) f c hc hfol
      (by omega) (hd _ hm)
    obtain ⟨c₃, hc₃, hmem⟩ := members_rest depth ms f c₂ [(k, v)]
      (fun m hm' => ih m (List.mem_cons_of_mem _ hm'))
      (fun m hm' => hd m (List.mem_cons_of_mem _ hm')) hc₂ (by omega)
    refine ⟨c₃, hc₃, ?_⟩
    have ht := hc
    rw [toList_memberText, List.cons_append] at ht
    rw [members_first ht, hstr]
    simp only [bind, Except.bind]
    rw [hcolon]
    simp only
    rw [hval]
    simp only
    rw [hmem]
    rfl

lemma readsBack_object {ms : List (String × Value)} (ih : ∀ m ∈ ms, m.2.ReadsBack) :
    ReadsBack (.object ms) := by
  intro fuel d c r hc hr hlen hdepth
  rw [toList_compact_object] at hc hlen
  simp only [List.length_cons, List.length_append] at hlen
  obtain ⟨f, rfl⟩ : ∃ f, fuel = f + 1 := ⟨fuel - 1, by omega⟩
  rw [Value.depth] at hdepth
  obtain ⟨d, rfl⟩ : ∃ d', d = d' + 1 := ⟨d - 1, by omega⟩
  simp only [List.cons_append, List.append_assoc] at hc
  obtain ⟨c', hc', hmem⟩ := members_all d ms f c.bump ih
    (fun m hm => (depth_le_depthMembers hm).trans (by omega)) (Cursor.rest_bump hc) (by omega)
  refine ⟨c', hc', ?_⟩
  rw [value, Cursor.skipSpace_of_rest hc (by decide), Cursor.peek_of_rest hc]
  simp [hmem]

/-- **Plain data reads back from its compact text**, wherever it stands before what may follow
a value, given fuel for the length of its text and room for its nesting. -/
theorem Plain.readsBack {v : Value} (hv : v.Plain) : v.ReadsBack := by
  induction hv with
  | null => exact readsBack_null
  | bool b => exact readsBack_bool b
  | natural h => exact readsBack_natural h
  | negative h₁ h₂ => exact readsBack_negative h₁ h₂
  | string s => exact readsBack_string s
  | array _ ih => exact readsBack_array (by assumption) ih
  | object _ ih => exact readsBack_object ih

end Value

/-- **A whole compact text reads back**: the text of plain data nested at most 127 deep is read
as that value. -/
theorem Reader.document_compact {v : Value} (hv : v.Plain) (hd : v.depth ≤ Reader.nestingLimit) :
    Reader.document v.compact = .ok v := by
  obtain ⟨c', hc', hval⟩ := hv.readsBack (Reader.fuelFor (Cursor.start v.compact))
    Reader.nestingLimit (Cursor.start v.compact) [] (by simp [Cursor.start]) (Or.inl rfl)
    (by simp only [Reader.fuelFor, Cursor.start]; omega) hd
  rw [Reader.document]
  simp only [hval, bind, Except.bind, Reader.finish, Cursor.skipSpace_of_nil hc', Cursor.peek, hc']
  rfl

/-- **Plain data is told apart by its compact text**: the reader, run on the one text, gives
back each of two plain values that print alike, so they are the same value. -/
theorem Value.Plain.compact_inj {v w : Value} (hv : v.Plain) (hw : w.Plain)
    (h : v.compact = w.compact) : v = w := by
  let c := Cursor.start v.compact
  obtain ⟨_, _, hrv⟩ := hv.readsBack v.compact.toList.length (max v.depth w.depth) c []
    (by simp [c, Cursor.start]) (Or.inl rfl) le_rfl (le_max_left ..)
  obtain ⟨_, _, hrw⟩ := hw.readsBack v.compact.toList.length (max v.depth w.depth) c []
    (by simp [c, Cursor.start, h]) (Or.inl rfl) (by rw [h]) (le_max_right ..)
  rw [hrv] at hrw
  simp only [Except.ok.injEq, Prod.mk.injEq] at hrw
  exact hrw.1

end JobQueue.Json
