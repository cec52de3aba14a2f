import JobQueue.Proofs.DoubleText
import JobQueue.Proofs.JsonText

/-!
# JSON data: its compact text and its equality

`Value.Data` is a value as a JSON map holds it: a negative whole number is below zero, since
zero and up are natural, and a double is finite. The compact text of such a value is a prefix
code: whatever may stand after a value ends it, so two data whose texts start one text are one
value and stop at one place (`Value.Data.delimited`). Doubles are told apart by reading their
text back (`Decimal.renderBits_inj`), whole numbers by their sign and digits, and strings by the
reader's own scan of the quoted text.

Equality of data (`Value.beq`) is equality but for the doubles `0.0` and `-0.0`, which test
equal and are written differently; away from negative zero the two agree.

**Main statements**

* `Value.Data.delimited`, `Value.Data.compact_inj` — data is told apart by its compact text.
* `Decimal.Double.beq_iff` — IEEE equality is equality away from NaN and negative zero.
* `Value.Data.beq_iff` — data tests equal exactly when it is equal, away from negative zero.
-/

namespace JobQueue.Decimal.Double

/-- A zero other than negative zero is positive zero. -/
lemma eq_zero_of_kind {x : Double} {negative : Bool} (h : x.kind = .zero negative)
    (hx : x ≠ negZero) : x = zero := by
  obtain ⟨bits⟩ := x
  have hm : bits.toNat % 2 ^ 63 = 0 := (Binary.classifyBits_zero h).2
  have hlt := bits.toNat_lt
  rcases (by omega : bits.toNat = 0 ∨ bits.toNat = 2 ^ 63) with h0 | h1
  · exact congrArg Double.mk (UInt64.toNat_inj.1 h0)
  · exact absurd (congrArg Double.mk (UInt64.toNat_inj.1 h1)) hx

/-- **IEEE equality is equality away from NaN and negative zero.** -/
theorem beq_iff {x y : Double} (hx : x.kind ≠ .nan) (hx0 : x ≠ negZero) (hy0 : y ≠ negZero) :
    x.beq y = true ↔ x = y := by
  unfold beq
  split
  · -- NaN equals nothing, and `x` is not NaN
    contradiction
  · rename_i hy _
    simp only [Bool.false_eq_true, false_iff]
    rintro rfl
    exact hx hy
  · -- the two zeros are both positive zero
    rename_i hxk hyk
    rw [eq_zero_of_kind hxk hx0, eq_zero_of_kind hyk hy0]
    simp
  · rw [beq_iff_eq]
    exact ⟨fun h => by cases x; cases y; simp_all, fun h => h ▸ rfl⟩

end JobQueue.Decimal.Double

namespace JobQueue.Json

open Decimal

/-! ## Data -/

/-- **A JSON number as a map holds it**: a negative whole number is below zero, since zero and
up are natural, and a double is finite. -/
inductive Number.Data : Number → Prop
  | natural (n : Nat) : Number.Data (.natural n)
  | negative {n : Int} (h : n < 0) : Number.Data (.negative n)
  | float {f : Double} (hnan : f.kind ≠ .nan) (hinf : f.isInf = false) : Number.Data (.float f)

/-- **JSON data**: numbers as a map holds them, at every depth. -/
inductive Value.Data : Value → Prop
  | null : Value.Data .null
  | bool (b : Bool) : Value.Data (.bool b)
  | number {n : Number} (h : n.Data) : Value.Data (.number n)
  | string (s : String) : Value.Data (.string s)
  | array {items : List Value} (h : ∀ v ∈ items, Value.Data v) : Value.Data (.array items)
  | object {members : List (String × Value)} (h : ∀ m ∈ members, Value.Data m.2) :
      Value.Data (.object members)

/-- **A negative zero somewhere in a value**: the double that tests equal to positive zero and
is written differently. -/
inductive Value.HoldsNegZero : Value → Prop
  | here : Value.HoldsNegZero (.number (.float Double.negZero))
  | array {items : List Value} {v : Value} (hv : v ∈ items) (h : v.HoldsNegZero) :
      Value.HoldsNegZero (.array items)
  | object {members : List (String × Value)} {m : String × Value} (hm : m ∈ members)
      (h : m.2.HoldsNegZero) : Value.HoldsNegZero (.object members)

/-- A double that is not infinite reads as no infinity. -/
lemma not_infinite {f : Double} (hinf : f.isInf = false) :
    ∀ negative, Binary.classifyBits f.bits ≠ .infinite negative := fun negative h => by
  simp [Double.isInf, Double.kind, h] at hinf

/-- A number holds a negative zero when it is one. -/
@[simp]
lemma Value.holdsNegZero_number {n : Number} :
    (Value.number n).HoldsNegZero ↔ n = .float Double.negZero :=
  ⟨fun h => by cases h; rfl, fun h => h ▸ .here⟩

/-! ## Where a text stops -/

/-- Text without a comma or a closing bracket: whatever may follow a value ends it. -/
def Unbroken (xs : List Char) : Prop := ∀ x ∈ xs, x ≠ ',' ∧ x ≠ ']' ∧ x ≠ '}'

lemma not_follows {y : Char} {t : List Char} (hr : Follows (y :: t))
    (hy : y ≠ ',' ∧ y ≠ ']' ∧ y ≠ '}') : False := by
  simp only [Follows, List.head?_cons, Option.some.injEq, reduceCtorEq, false_or] at hr
  rcases hr with rfl | rfl | rfl <;> simp at hy

/-- **Unbroken texts end where what follows them begins.** -/
lemma Unbroken.append_inj {xs ys r r' : List Char} (hx : Unbroken xs) (hy : Unbroken ys)
    (hr : Follows r) (hr' : Follows r') (h : xs ++ r = ys ++ r') : xs = ys ∧ r = r' := by
  induction xs generalizing ys with
  | nil =>
    cases ys with
    | nil => exact ⟨rfl, h⟩
    | cons y ys =>
      rw [List.nil_append, List.cons_append] at h
      exact (not_follows (h ▸ hr) (hy y (List.mem_cons_self ..))).elim
  | cons x xs ih =>
    cases ys with
    | nil =>
      rw [List.nil_append, List.cons_append] at h
      exact (not_follows (h ▸ hr') (hx x (List.mem_cons_self ..))).elim
    | cons y ys =>
      simp only [List.cons_append, List.cons.injEq] at h
      obtain ⟨rfl, h⟩ := h
      obtain ⟨rfl, rfl⟩ := ih (fun z hz => hx z (List.mem_cons_of_mem _ hz))
        (fun z hz => hy z (List.mem_cons_of_mem _ hz)) h
      exact ⟨rfl, rfl⟩

/-- **A quoted text ends at its closing quote**: the reader, run on one text, gives back each of
two quoted texts that start it, and stops at the same place. -/
lemma quote_append_inj {s s' : String} {r r' : List Char}
    (h : (quote s).toList ++ r = (quote s').toList ++ r') : s = s' ∧ r = r' := by
  simp only [toList_quote, List.cons_append, List.cons.injEq, true_and, List.append_assoc,
    List.nil_append] at h
  let c : Cursor := ⟨s.toList.flatMap (fun ch => (escapeChar ch).toList) ++ '"' :: r, 1, 0⟩
  have hfuel : ∀ t : String, t.length ≤ s.length + s'.length → t.toList.length <
      s.length + s'.length + 1 := fun t ht => by
    rw [String.length_toList]
    omega
  obtain ⟨c₁, hc₁, h₁⟩ := Reader.string_quoted s.toList c _ #[] rfl (hfuel s (by omega))
  obtain ⟨c₂, hc₂, h₂⟩ := Reader.string_quoted s'.toList c _ #[] h (hfuel s' (by omega))
  rw [h₁] at h₂
  simp only [Except.ok.injEq, Prod.mk.injEq, List.nil_append, String.ofList_toList] at h₂
  exact ⟨h₂.1, hc₁ ▸ hc₂ ▸ congrArg Cursor.rest h₂.2⟩

/-! ## Texts joined by commas -/

section Joined

variable {α : Type} {text : α → List Char} {close : Char}

/-- Texts each after a comma, before a closing bracket, may follow a value. -/
lemma follows_commaText (hclose : close = ']' ∨ close = '}') (zs : List α) (r : List Char) :
    Follows (zs.flatMap (fun z => ',' :: text z) ++ close :: r) := by
  cases zs <;> rcases hclose with rfl | rfl <;> simp [Follows]

/-- **Texts each after a comma end where the closing bracket stands**, when each text of `xs`
ends where it ends against each text of `ys`. -/
lemma commaText_delimited (hclose : close = ']' ∨ close = '}') {xs ys : List α}
    (hd : ∀ x ∈ xs, ∀ y ∈ ys, ∀ r r', Follows r → Follows r' →
      text x ++ r = text y ++ r' → x = y ∧ r = r') {r r' : List Char}
    (h : xs.flatMap (fun x => ',' :: text x) ++ close :: r =
      ys.flatMap (fun y => ',' :: text y) ++ close :: r') :
    xs = ys ∧ r = r' := by
  -- induction on the first list; a comma never stands where the closing bracket does
  induction xs generalizing ys with
  | nil =>
    cases ys with
    | nil => simpa using h
    | cons y ys => rcases hclose with rfl | rfl <;> simp at h
  | cons x xs ih =>
    cases ys with
    | nil => rcases hclose with rfl | rfl <;> simp at h
    | cons y ys =>
      simp only [List.flatMap_cons, List.cons_append, List.append_assoc, List.cons.injEq,
        true_and] at h
      obtain ⟨rfl, hrest⟩ := hd x (List.mem_cons_self ..) y (List.mem_cons_self ..) _ _
        (follows_commaText hclose xs r) (follows_commaText hclose ys r') h
      obtain ⟨rfl, rfl⟩ := ih (fun u hu v hv =>
        hd u (List.mem_cons_of_mem _ hu) v (List.mem_cons_of_mem _ hv)) hrest
      exact ⟨rfl, rfl⟩

end Joined

/-! ## Numbers -/

/-- Whole numbers print to distinct texts. -/
lemma repr_injective : Function.Injective Nat.repr := fun m n h => by
  rw [← Reader.digitsValue_toDigits m, ← Reader.digitsValue_toDigits n, ← Nat.toList_repr,
    ← Nat.toList_repr, h]

namespace Number

lemma toList_text_natural (n : Nat) : (Number.natural n).text.toList = Nat.toDigits 10 n := by
  simp [text, Nat.toList_repr]

lemma toList_text_negative (m : Nat) :
    (Number.negative (Int.negSucc m)).text.toList = '-' :: Nat.toDigits 10 (m + 1) := by
  simp [text, Int.repr, Nat.toList_repr]

/-- **A number is written in decimal characters**, and the text of a whole number is a sign at
most and digits. -/
lemma Data.text_decimal {n : Number} (hn : n.Data) :
    n.text.toList ≠ [] ∧ ∀ x ∈ n.text.toList, DecimalChar x := by
  cases hn with
  | natural n =>
    rw [toList_text_natural]
    exact ⟨Nat.toDigits_ne_nil, fun x hx => .inl (Reader.isDigit_of_mem_toDigits hx)⟩
  | negative h =>
    obtain ⟨m, rfl⟩ := Int.eq_negSucc_of_lt_zero h
    rw [toList_text_negative]
    refine ⟨List.cons_ne_nil _ _, fun x hx => ?_⟩
    rcases List.mem_cons.1 hx with rfl | hx
    · exact .inr (.inr (.inr (.inr rfl)))
    · exact .inl (Reader.isDigit_of_mem_toDigits hx)
  | float hnan hinf =>
    obtain ⟨hc, hp⟩ := renderBits_decimal hnan (not_infinite hinf)
    refine ⟨fun h => ?_, hc⟩
    simp only [text] at h
    simp [h] at hp

/-- Whole numbers are written without a point or an exponent. -/
lemma whole_text {n : Number} (hn : n.Data) (h : ∀ f, n ≠ .float f) :
    '.' ∉ n.text.toList ∧ 'e' ∉ n.text.toList := by
  cases hn with
  | natural n =>
    rw [toList_text_natural]
    exact ⟨fun hx => by simpa using Reader.isDigit_of_mem_toDigits hx,
      fun hx => by simpa using Reader.isDigit_of_mem_toDigits hx⟩
  | negative hneg =>
    -- after the minus come digits only
    obtain ⟨m, rfl⟩ := Int.eq_negSucc_of_lt_zero hneg
    rw [toList_text_negative]
    have hnot : ∀ c : Char, c.isDigit = false → c ≠ '-' →
        c ∉ '-' :: Nat.toDigits 10 (m + 1) := fun c hc hc' hx => by
        simpa [hc] using Reader.isDigit_of_mem_toDigits (List.mem_of_ne_of_mem hc' hx)
    exact ⟨hnot '.' rfl (by decide), hnot 'e' rfl (by decide)⟩
  | float => exact absurd rfl (h _)

/-- The text of a double has a point or an exponent. -/
lemma Data.float_text {f : Double} (hf : (Number.float f).Data) :
    '.' ∈ (Number.float f).text.toList ∨ 'e' ∈ (Number.float f).text.toList := by
  cases hf with
  | float hnan hinf => exact (renderBits_decimal hnan (not_infinite hinf)).2

/-- A whole number and a double never print alike. -/
lemma whole_ne_float {n : Number} (hn : n.Data) (hw : ∀ f, n ≠ .float f) {f : Double}
    (hf : (Number.float f).Data) : n.text ≠ (Number.float f).text := fun h => by
  have := whole_text hn hw
  rw [h] at this
  rcases hf.float_text with hp | hp
  exacts [this.1 hp, this.2 hp]

/-- A natural and a negative number never print alike: one starts with a digit, the other with
a minus. -/
lemma natural_ne_negative (a : Nat) {b : Int} (hb : b < 0) :
    (Number.natural a).text ≠ (Number.negative b).text := fun h => by
  obtain ⟨k, rfl⟩ := Int.eq_negSucc_of_lt_zero hb
  have h' := congrArg String.toList h
  rw [toList_text_natural, toList_text_negative] at h'
  have := Reader.isDigit_of_mem_toDigits (h' ▸ List.mem_cons_self (a := '-') ..)
  simp at this

/-- **Numbers are told apart by their text**: whole numbers by their digits and sign, doubles
by reading their text back. -/
lemma Data.text_inj {n m : Number} (hn : n.Data) (hm : m.Data) (h : n.text = m.text) :
    n = m := by
  cases hn with
  | natural a =>
    cases hm with
    | natural b => exact congrArg _ (repr_injective h)
    | negative hb => exact absurd h (natural_ne_negative a hb)
    | float hg hgi => exact absurd h (whole_ne_float (.natural a) (fun _ => nofun) (.float hg hgi))
  | @negative a ha =>
    cases hm with
    | natural b => exact absurd h.symm (natural_ne_negative b ha)
    | @negative b hb =>
      obtain ⟨k, rfl⟩ := Int.eq_negSucc_of_lt_zero ha
      obtain ⟨l, rfl⟩ := Int.eq_negSucc_of_lt_zero hb
      have h' := congrArg String.toList h
      rw [toList_text_negative, toList_text_negative, List.cons.injEq] at h'
      have := congrArg (Reader.digitsValue 0) h'.2
      rw [Reader.digitsValue_toDigits, Reader.digitsValue_toDigits] at this
      rw [show k = l by omega]
    | float hg hgi =>
      exact absurd h (whole_ne_float (.negative ha) (fun _ => nofun) (.float hg hgi))
  | @float f hf hfi =>
    cases hm with
    | natural b =>
      exact absurd h.symm (whole_ne_float (.natural b) (fun _ => nofun) (.float hf hfi))
    | negative hb =>
      exact absurd h.symm (whole_ne_float (.negative hb) (fun _ => nofun) (.float hf hfi))
    | @float g hg hgi =>
      -- a double's text reads back as its bits
      have := renderBits_inj hf hg h
      cases f
      cases g
      simp_all

end Number

/-! ## The compact text of data ends where it ends -/

namespace Value

/-- The index of the constructor that a compact text starting with `c` writes. -/
def leadIdx (c : Char) : Nat :=
  if c = 'n' then 0 else if c = 't' ∨ c = 'f' then 1 else if c = '"' then 3
  else if c = '[' then 4 else if c = '{' then 5 else 2

/-- **The first character of the compact text of data tells its constructor**, and closes
nothing. -/
lemma Data.compact_lead {v : Value} (hv : v.Data) :
    ∃ c t, v.compact.toList = c :: t ∧ leadIdx c = v.ctorIdx ∧ c ≠ ']' ∧ c ≠ '}' := by
  cases hv with
  | null => exact ⟨'n', ['u', 'l', 'l'], by simp [compact], rfl, by decide, by decide⟩
  | bool b =>
    cases b
    · exact ⟨'f', ['a', 'l', 's', 'e'], by simp [compact], rfl, by decide, by decide⟩
    · exact ⟨'t', ['r', 'u', 'e'], by simp [compact], rfl, by decide, by decide⟩
  | number hn =>
    obtain ⟨hne, hc⟩ := hn.text_decimal
    obtain ⟨c, t, hct⟩ := List.exists_cons_of_ne_nil hne
    have hcd := hc c (hct ▸ List.mem_cons_self ..)
    refine ⟨c, t, by simp [compact, hct], ?_, hcd.unbroken.2.1,
      hcd.unbroken.2.2⟩
    -- a decimal character starts none of the other constructors' texts
    rcases hcd with hd | rfl | rfl | rfl | rfl
    · have hne : ∀ x : Char, x.isDigit = false → c ≠ x := by
        rintro x hx rfl
        simp [hd] at hx
      show leadIdx c = 2
      simp [leadIdx, hne 'n' rfl, hne 't' rfl, hne 'f' rfl, hne '"' rfl, hne '[' rfl,
        hne '{' rfl]
    all_goals rfl
  | string s => exact ⟨'"', _, toList_quote s, rfl, by decide, by decide⟩
  | array h => exact ⟨'[', _, toList_compact_array _, rfl, by decide, by decide⟩
  | object h => exact ⟨'{', _, toList_compact_object _, rfl, by decide, by decide⟩

/-- Two data whose texts start one text are of one constructor. -/
lemma Data.ctorIdx_eq {v w : Value} (hv : v.Data) (hw : w.Data) {r r' : List Char}
    (h : v.compact.toList ++ r = w.compact.toList ++ r') : v.ctorIdx = w.ctorIdx := by
  obtain ⟨c, t, hc, hi, -⟩ := hv.compact_lead
  obtain ⟨d, u, hd, hj, -⟩ := hw.compact_lead
  rw [hc, hd, List.cons_append, List.cons_append, List.cons.injEq] at h
  rw [← hi, ← hj, h.1]

/-- **Value `v`'s compact text ends where it ends**: data whose text starts the same text,
each before something that may follow a value, is `v`, and stops where `v` stops. -/
def Delimited (v : Value) : Prop :=
  ∀ w, w.Data → ∀ r r', Follows r → Follows r' →
    v.compact.toList ++ r = w.compact.toList ++ r' → v = w ∧ r = r'

lemma delimited_null : Delimited .null := by
  intro w hw r r' _ _ h
  have hidx := Data.null.ctorIdx_eq hw h
  cases hw <;> simp only [Value.ctorIdx] at hidx <;> try omega
  exact ⟨rfl, List.append_cancel_left h⟩

lemma delimited_bool (b : Bool) : Delimited (.bool b) := by
  intro w hw r r' _ _ h
  have hidx := (Data.bool b).ctorIdx_eq hw h
  cases hw <;> simp only [Value.ctorIdx] at hidx <;> try omega
  rename_i b'
  cases b <;> cases b' <;> simp [compact] at h ⊢ <;> exact h

lemma delimited_number {n : Number} (hn : n.Data) : Delimited (.number n) := by
  intro w hw r r' hr hr' h
  have hidx := (Data.number hn).ctorIdx_eq hw h
  cases hw <;> simp only [Value.ctorIdx] at hidx <;> try omega
  rename_i m hm
  -- a number's text is unbroken, so it ends where what follows begins
  have hu : ∀ {k : Number}, k.Data → Unbroken k.text.toList := fun hk x hx =>
    (hk.text_decimal.2 x hx).unbroken
  obtain ⟨htext, rfl⟩ := (hu hn).append_inj (hu hm) hr hr' h
  exact ⟨congrArg _ (hn.text_inj hm (String.toList_inj.1 htext)), rfl⟩

lemma delimited_string (s : String) : Delimited (.string s) := by
  intro w hw r r' _ _ h
  have hidx := (Data.string s).ctorIdx_eq hw h
  cases hw <;> simp only [Value.ctorIdx] at hidx <;> try omega
  obtain ⟨rfl, rfl⟩ := quote_append_inj h
  exact ⟨rfl, rfl⟩

/-- **Elements end where the closing bracket stands.** -/
lemma compactList_delimited {items items' : List Value} (hd : ∀ v ∈ items, v.Data)
    (hd' : ∀ w ∈ items', w.Data) (ih : ∀ v ∈ items, v.Delimited) {r r' : List Char}
    (h : (compactList items).toList ++ ']' :: r = (compactList items').toList ++ ']' :: r') :
    items = items' ∧ r = r' := by
  cases items with
  | nil =>
    cases items' with
    | nil => simpa [compactList] using h
    | cons w ws =>
      -- no element starts with a closing bracket
      obtain ⟨c, t, hc, -, hc', -⟩ := (hd' w (List.mem_cons_self ..)).compact_lead
      simp [compactList, toList_compactList_cons, hc] at h
      exact absurd h.1.symm hc'
  | cons v vs =>
    cases items' with
    | nil =>
      obtain ⟨c, t, hc, -, hc', -⟩ := (hd v (List.mem_cons_self ..)).compact_lead
      simp [compactList, toList_compactList_cons, hc] at h
      exact absurd h.1 hc'
    | cons w ws =>
      -- with a comma before the first element, every element stands after a comma
      have hcomma : ∀ u us, ',' :: (compactList (u :: us)).toList =
          (u :: us).flatMap fun x => ',' :: x.compact.toList := fun u us => by
        simp [toList_compactList_cons, restText]
      have h' := congrArg (List.cons ',') h
      rw [← List.cons_append, ← List.cons_append, hcomma, hcomma] at h'
      exact commaText_delimited (.inl rfl) (fun x hx y hy => ih x hx y (hd' y hy)) h'

lemma delimited_array {items : List Value} (hd : ∀ v ∈ items, v.Data)
    (ih : ∀ v ∈ items, v.Delimited) : Delimited (.array items) := by
  intro w hw r r' _ _ h
  have hidx := (Data.array hd).ctorIdx_eq hw h
  cases hw <;> simp only [Value.ctorIdx] at hidx <;> try omega
  rename_i items' hd'
  rw [toList_compact_array, toList_compact_array] at h
  simp only [List.cons_append, List.cons.injEq, true_and, List.append_assoc] at h
  obtain ⟨rfl, rfl⟩ := compactList_delimited hd hd' ih h
  exact ⟨rfl, rfl⟩

/-- A member ends where its value ends: its key is quoted, and a colon stands before the
value. -/
lemma member_delimited {m n : String × Value} (ih : m.2.Delimited) (hw : n.2.Data)
    {r r' : List Char} (hr : Follows r) (hr' : Follows r')
    (h : memberText m ++ r = memberText n ++ r') : m = n ∧ r = r' := by
  obtain ⟨k, v⟩ := m
  obtain ⟨k', w⟩ := n
  simp only [memberText, List.append_assoc, List.cons_append] at h
  obtain ⟨rfl, hv⟩ := quote_append_inj h
  rw [List.cons.injEq] at hv
  obtain ⟨rfl, rfl⟩ := ih w hw _ _ hr hr' hv.2
  exact ⟨rfl, rfl⟩

/-- **Members end where the closing brace stands.** -/
lemma compactMembers_delimited {ms ms' : List (String × Value)} (ih : ∀ m ∈ ms, m.2.Delimited)
    (hd' : ∀ m ∈ ms', m.2.Data) {r r' : List Char}
    (h : (compactMembers ms).toList ++ '}' :: r = (compactMembers ms').toList ++ '}' :: r') :
    ms = ms' ∧ r = r' := by
  cases ms with
  | nil =>
    cases ms' with
    | nil => simpa [compactMembers] using h
    | cons n ns => simp [compactMembers, toList_compactMembers_cons, memberText, toList_quote] at h
  | cons m ms =>
    cases ms' with
    | nil => simp [compactMembers, toList_compactMembers_cons, memberText, toList_quote] at h
    | cons n ns =>
      -- with a comma before the first member, every member stands after a comma
      have hcomma : ∀ u us, ',' :: (compactMembers (u :: us)).toList =
          (u :: us).flatMap fun x => ',' :: memberText x := fun u us => by
        simp [toList_compactMembers_cons, restMembersText]
      have h' := congrArg (List.cons ',') h
      rw [← List.cons_append, ← List.cons_append, hcomma, hcomma] at h'
      exact commaText_delimited (.inr rfl)
        (fun x hx y hy _ _ hr hr' => member_delimited (ih x hx) (hd' y hy) hr hr') h'

lemma delimited_object {ms : List (String × Value)} (hd : ∀ m ∈ ms, m.2.Data)
    (ih : ∀ m ∈ ms, m.2.Delimited) : Delimited (.object ms) := by
  intro w hw r r' _ _ h
  have hidx := (Data.object hd).ctorIdx_eq hw h
  cases hw <;> simp only [Value.ctorIdx] at hidx <;> try omega
  rename_i ms' hd'
  rw [toList_compact_object, toList_compact_object] at h
  simp only [List.cons_append, List.cons.injEq, true_and, List.append_assoc] at h
  obtain ⟨rfl, rfl⟩ := compactMembers_delimited ih hd' h
  exact ⟨rfl, rfl⟩

/-- **The compact text of data is a prefix code**: it ends where it ends, so no other data's
text starts it. -/
theorem Data.delimited {v : Value} (hv : v.Data) : v.Delimited := by
  induction hv with
  | null => exact delimited_null
  | bool b => exact delimited_bool b
  | number hn => exact delimited_number hn
  | string s => exact delimited_string s
  | array hd ih => exact delimited_array hd ih
  | object hd ih => exact delimited_object hd ih

/-- **Data is told apart by its compact text.** -/
theorem Data.compact_inj {v w : Value} (hv : v.Data) (hw : w.Data) (h : v.compact = w.compact) :
    v = w :=
  (hv.delimited w hw [] [] (Or.inl rfl) (Or.inl rfl) (by rw [h])).1

end Value

/-! ## Equality of data -/

namespace Number

/-- **Numbers of data test equal exactly when they are equal**, away from negative zero. -/
lemma Data.beq_iff {n m : Number} (hn : n.Data) (hn0 : n ≠ .float Double.negZero)
    (hm0 : m ≠ .float Double.negZero) : (n == m) = true ↔ n = m := by
  cases hn with
  | natural a => cases m <;> simp [BEq.beq, Number.beq]
  | negative _ => cases m <;> simp [BEq.beq, Number.beq]
  | @float f hnan _ =>
    cases m with
    | float g =>
      show Double.beq f g = true ↔ _
      rw [Double.beq_iff hnan (fun h => hn0 (h ▸ rfl)) (fun h => hm0 (h ▸ rfl))]
      simp
    | _ => simp [BEq.beq, Number.beq]

end Number

namespace Value

/-- Element-wise equality is equality, for elements whose equality is equality against values
with property `P`. -/
lemma beqList_iff {P : Value → Prop} {as : List Value}
    (h : ∀ v ∈ as, ∀ w, P w → (Value.beq v w = true ↔ v = w)) :
    ∀ bs, (∀ w ∈ bs, P w) → (Value.beqList as bs = true ↔ as = bs) := by
  induction as with
  | nil => intro bs _; cases bs <;> simp [beqList]
  | cons a as ih =>
    intro bs hbs
    cases bs with
    | nil => simp [beqList]
    | cons b bs =>
      rw [beqList, Bool.and_eq_true, h a (List.mem_cons_self ..) b (hbs b (List.mem_cons_self ..)),
        ih (fun v hv => h v (List.mem_cons_of_mem _ hv)) bs
          (fun w hw => hbs w (List.mem_cons_of_mem _ hw)), List.cons.injEq]

/-- Member-wise equality is equality, for members whose values' equality is equality against
values with property `P`. -/
lemma beqMembers_iff {P : Value → Prop} {ms : List (String × Value)}
    (h : ∀ m ∈ ms, ∀ w, P w → (Value.beq m.2 w = true ↔ m.2 = w)) :
    ∀ ns, (∀ n ∈ ns, P n.2) → (Value.beqMembers ms ns = true ↔ ms = ns) := by
  induction ms with
  | nil => intro ns _; cases ns <;> simp [beqMembers]
  | cons m ms ih =>
    intro ns hns
    obtain ⟨k, a⟩ := m
    cases ns with
    | nil => simp [beqMembers]
    | cons n ns =>
      obtain ⟨l, b⟩ := n
      rw [beqMembers, Bool.and_eq_true, Bool.and_eq_true, beq_iff_eq,
        h (k, a) (List.mem_cons_self ..) b (hns (l, b) (List.mem_cons_self ..)),
        ih (fun m hm => h m (List.mem_cons_of_mem _ hm)) ns
          (fun n hn => hns n (List.mem_cons_of_mem _ hn))]
      simp [and_assoc]

/-- **Data tests equal exactly when it is equal**, away from negative zero: the one double that
tests equal to another, positive zero, while being a different value. -/
theorem Data.beq_iff {v : Value} (hv : v.Data) (hz : ¬ v.HoldsNegZero) :
    ∀ w, ¬ w.HoldsNegZero → (Value.beq v w = true ↔ v = w) := by
  induction hv with
  | null => intro w _; cases w <;> simp [beq]
  | bool b => intro w _; cases w <;> simp [beq]
  | number hn =>
    intro w hw
    cases w <;> simp only [beq, Bool.false_eq_true, reduceCtorEq, Value.number.injEq]
    exact hn.beq_iff (fun h => hz (h ▸ .here)) (fun h => hw (h ▸ .here))
  | string s => intro w _; cases w <;> simp [beq]
  | array hd ih =>
    intro w hw
    cases w <;> simp only [beq, Bool.false_eq_true, reduceCtorEq, Value.array.injEq]
    exact beqList_iff (P := fun w => ¬ w.HoldsNegZero)
      (fun v hv => ih v hv fun h => hz (.array hv h)) _ fun u hu h => hw (.array hu h)
  | object hd ih =>
    intro w hw
    cases w <;> simp only [beq, Bool.false_eq_true, reduceCtorEq, Value.object.injEq]
    exact beqMembers_iff (P := fun w => ¬ w.HoldsNegZero)
      (fun m hm => ih m hm fun h => hz (.object hm h)) _ fun n hn h => hw (.object hn h)

end Value

end JobQueue.Json
