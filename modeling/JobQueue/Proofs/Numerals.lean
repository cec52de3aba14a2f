import JobQueue.Text.Numeral
import JobQueue.Decimal.Reading
import Mathlib.Tactic.Lemma

/-!
# Decimal numerals

`parseInteger` reads a numeral digit by digit and gives up as soon as the value it has so far
leaves the range. The value only grows away from zero as digits are read, so giving up early
loses nothing: a text is accepted exactly when it is a numeral whose value lies in the range.
That is the grammar of the integer readers of the standard library: an optional sign, `-` only
for signed types, then at least one ASCII digit.

**Main statements**

* `Numeral.Spells` — a text is a numeral for a value.
* `parseInteger_eq_ok_iff` — the reader accepts exactly the numerals in range.
* `parseNatural?_eq_some_iff` — the unsigned reader accepts exactly the unsigned numerals below
  the bound.
-/

namespace JobQueue

namespace Numeral

/-- One more digit on the right of a value. -/
def push (acc : Nat) (c : Char) : Nat := acc * 10 + digit c

/-- **`cs` is a numeral for `n`**: one or more ASCII digits, with `+` or nothing in front, or
with `-` in front where `signed` allows it; `n` is the value of the digits with the sign. -/
def Spells (signed : Bool) (cs : List Char) (n : Int) : Prop :=
  ∃ ds : List Char, ds ≠ [] ∧ (∀ c ∈ ds, c.isDigit = true) ∧
    ((cs = ds ∨ cs = '+' :: ds) ∧ n = (ds.foldl push 0 : Nat) ∨
      signed = true ∧ cs = '-' :: ds ∧ n = -((ds.foldl push 0 : Nat) : Int))

/-- Reading more digits never lowers the value. -/
lemma le_foldl_push (ds : List Char) (acc : Nat) : acc ≤ ds.foldl push acc := by
  induction ds generalizing acc with
  | nil => exact Nat.le_refl _
  | cons c ds ih => exact Nat.le_trans (by unfold push; omega) (ih (push acc c))

variable {lo hi : Int}

/-- **Reading digits towards `+∞`** succeeds exactly when they are all digits and the value
they end at is at most `hi`; every value on the way is smaller. -/
lemma scan_positive (hlo : lo ≤ 0) :
    ∀ (ds : List Char) (acc : Nat) (n : Int), (acc : Int) ≤ hi →
      (scan true lo hi acc ds = .ok n ↔
        (∀ c ∈ ds, c.isDigit = true) ∧ n = (ds.foldl push acc : Nat) ∧ n ≤ hi)
  | [], acc, n, hacc => by
    simp only [scan, Except.ok.injEq, List.not_mem_nil, false_implies, implies_true, true_and,
      List.foldl_nil]
    constructor
    · rintro rfl
      exact ⟨rfl, hacc⟩
    · exact fun h => h.1.symm
  | c :: ds, acc, n, hacc => by
    have hnext : ((acc : Int) * 10 + digit c) = ((push acc c : Nat) : Int) := by
      unfold push
      push_cast
      rfl
    by_cases hc : c.isDigit = true
    · simp only [scan, hc, if_true, hnext, List.forall_mem_cons, true_and,
        List.foldl_cons]
      by_cases hbig : ((push acc c : Nat) : Int) > hi
      · -- The value has left the range, and the digits after it only make it larger.
        have := le_foldl_push ds (push acc c)
        simp only [hbig, if_true, reduceCtorEq, false_iff, not_and]
        intro _ hn
        omega
      · rw [if_neg hbig, if_neg (by omega)]
        exact scan_positive hlo ds (push acc c) n (by omega)
    · simp [scan, hc]

/-- **Reading digits towards `-∞`** succeeds exactly when they are all digits and the value
they end at is at least `lo`. -/
lemma scan_negative (hhi : 0 ≤ hi) :
    ∀ (ds : List Char) (acc : Nat) (n : Int), lo ≤ -(acc : Int) →
      (scan false lo hi (-(acc : Int)) ds = .ok n ↔
        (∀ c ∈ ds, c.isDigit = true) ∧ n = -((ds.foldl push acc : Nat) : Int) ∧ lo ≤ n)
  | [], acc, n, hacc => by
    simp only [scan, Except.ok.injEq, List.not_mem_nil, false_implies, implies_true, true_and,
      List.foldl_nil]
    constructor
    · rintro rfl
      exact ⟨rfl, hacc⟩
    · exact fun h => h.1.symm
  | c :: ds, acc, n, hacc => by
    have hnext : -(acc : Int) * 10 - digit c = -((push acc c : Nat) : Int) := by
      unfold push
      push_cast
      omega
    by_cases hc : c.isDigit = true
    · simp only [scan, hc, if_true, Bool.false_eq_true, if_false, hnext, List.forall_mem_cons,
        true_and, List.foldl_cons]
      rw [if_neg (by omega)]
      by_cases hsmall : -((push acc c : Nat) : Int) < lo
      · -- The value has left the range, and the digits after it only take it further.
        have := le_foldl_push ds (push acc c)
        simp only [hsmall, if_true, reduceCtorEq, false_iff, not_and]
        intro _ hn
        omega
      · rw [if_neg hsmall]
        exact scan_negative hhi ds (push acc c) n (by omega)
    · simp [scan, hc]

/-- A numeral has digits. -/
lemma not_spells_nil (signed : Bool) (n : Int) : ¬ Spells signed [] n := by
  rintro ⟨ds, hne, -, ⟨rfl | h, -⟩ | ⟨-, h, -⟩⟩ <;> simp_all

/-- A numeral is not a sign alone. -/
lemma not_spells_sign {signed : Bool} {c : Char} (hc : c.isDigit = false) (n : Int) :
    ¬ Spells signed [c] n := by
  rintro ⟨ds, hne, hd, ⟨rfl | h, -⟩ | ⟨-, h, -⟩⟩
  · exact absurd (hd c List.mem_cons_self) (by simp [hc])
  all_goals
    obtain ⟨-, rfl⟩ := List.cons.inj h
    exact hne rfl

/-- Past a `+`, a numeral is its digits. -/
lemma spells_plus_iff {signed : Bool} {ds : List Char} {n : Int} :
    Spells signed ('+' :: ds) n ↔
      ds ≠ [] ∧ (∀ c ∈ ds, c.isDigit = true) ∧ n = (ds.foldl push 0 : Nat) := by
  constructor
  · rintro ⟨ds', hne, hd, ⟨rfl | h, rfl⟩ | ⟨-, h, -⟩⟩
    · exact absurd (hd '+' List.mem_cons_self) (by decide)
    · obtain ⟨-, rfl⟩ := List.cons.inj h
      exact ⟨hne, hd, rfl⟩
    · exact absurd (List.cons.inj h).1 (by decide)
  · rintro ⟨hne, hd, rfl⟩
    exact ⟨ds, hne, hd, .inl ⟨.inr rfl, rfl⟩⟩

/-- Past a `-`, a numeral is its digits, negated, where negative numerals are allowed. -/
lemma spells_minus_iff {signed : Bool} {ds : List Char} {n : Int} :
    Spells signed ('-' :: ds) n ↔ signed = true ∧
      ds ≠ [] ∧ (∀ c ∈ ds, c.isDigit = true) ∧ n = -((ds.foldl push 0 : Nat) : Int) := by
  constructor
  · rintro ⟨ds', hne, hd, ⟨rfl | h, rfl⟩ | ⟨hs, h, rfl⟩⟩
    · exact absurd (hd '-' List.mem_cons_self) (by decide)
    · exact absurd (List.cons.inj h).1 (by decide)
    · obtain ⟨-, rfl⟩ := List.cons.inj h
      exact ⟨hs, hne, hd, rfl⟩
  · rintro ⟨hs, hne, hd, rfl⟩
    exact ⟨ds, hne, hd, .inr ⟨hs, rfl, rfl⟩⟩

/-- Without a sign in front, a numeral is all digits. -/
lemma spells_plain_iff {signed : Bool} {cs : List Char} {n : Int} (hp : ∀ r, cs ≠ '+' :: r)
    (hm : ∀ r, cs ≠ '-' :: r) :
    Spells signed cs n ↔
      cs ≠ [] ∧ (∀ c ∈ cs, c.isDigit = true) ∧ n = (cs.foldl push 0 : Nat) := by
  constructor
  · rintro ⟨ds, hne, hd, ⟨rfl | h, rfl⟩ | ⟨-, h, -⟩⟩
    · exact ⟨hne, hd, rfl⟩
    · exact absurd h (hp ds)
    · exact absurd h (hm ds)
  · rintro ⟨hne, hd, rfl⟩
    exact ⟨cs, hne, hd, .inl ⟨.inl rfl, rfl⟩⟩

end Numeral

/-- **The reader accepts exactly the numerals in range**, for a range around zero: a `-` only
where the range reaches below zero. -/
theorem parseInteger_eq_ok_iff {s : String} {lo hi n : Int} (hlo : lo ≤ 0) (hhi : 0 ≤ hi) :
    parseInteger s lo hi = .ok n ↔
      Numeral.Spells (decide (lo < 0)) s.toList n ∧ lo ≤ n ∧ n ≤ hi := by
  have hpos := @Numeral.scan_positive lo hi hlo
  have hneg := @Numeral.scan_negative lo hi hhi
  unfold parseInteger
  split
  next hs => simp [hs, Numeral.not_spells_nil]
  next hs => simp [hs, Numeral.not_spells_sign]
  next hs => simp [hs, Numeral.not_spells_sign]
  next rest hrest hs =>
    -- After `+`: the digits, towards `+∞`.
    have h : Numeral.scan true lo hi 0 rest = .ok n ↔ _ := hpos rest 0 n (by omega)
    rw [hs, Numeral.spells_plus_iff, h]
    constructor
    · rintro ⟨hd, rfl, hn⟩
      exact ⟨⟨hrest, hd, rfl⟩, by omega, hn⟩
    · rintro ⟨⟨-, hd, rfl⟩, -, hn⟩
      exact ⟨hd, rfl, hn⟩
  next rest hrest hs =>
    -- After `-`: the digits, towards `-∞`, where the range reaches below zero.
    rw [hs, Numeral.spells_minus_iff]
    split
    next hlt =>
      have h : Numeral.scan false lo hi 0 rest = .ok n ↔ _ := hneg rest 0 n (by omega)
      rw [h]
      constructor
      · rintro ⟨hd, rfl, hn⟩
        exact ⟨⟨by simpa using hlt, hrest, hd, rfl⟩, hn, by omega⟩
      · rintro ⟨⟨-, -, hd, rfl⟩, hn, -⟩
        exact ⟨hd, rfl, hn⟩
    next hlt => simp [hlt]
  next hnil _ _ hp hm =>
    -- No sign: the digits, towards `+∞`.
    have h : Numeral.scan true lo hi 0 s.toList = .ok n ↔ _ := hpos s.toList 0 n (by omega)
    rw [Numeral.spells_plain_iff (fun r h => hp r h) (fun r h => hm r h), h]
    constructor
    · rintro ⟨hd, rfl, hn⟩
      exact ⟨⟨hnil, hd, rfl⟩, by omega, hn⟩
    · rintro ⟨⟨-, hd, rfl⟩, -, hn⟩
      exact ⟨hd, rfl, hn⟩

/-- **The unsigned reader accepts exactly the unsigned numerals below its bound.** -/
theorem parseNatural?_eq_some_iff {s : String} {bound n : Nat} :
    parseNatural? s bound = some n ↔ Numeral.Spells false s.toList n ∧ n < bound := by
  have hiff : ∀ k : Int, parseInteger s 0 ((bound - 1 : Nat) : Int) = .ok k ↔
      Numeral.Spells false s.toList k ∧ 0 ≤ k ∧ k ≤ ((bound - 1 : Nat) : Int) := fun k => by
    simpa using parseInteger_eq_ok_iff (s := s) (n := k) (Int.le_refl 0) (Int.natCast_nonneg _)
  unfold parseNatural?
  cases h : parseInteger s 0 ((bound - 1 : Nat) : Int) with
  | error e =>
    simp only [reduceCtorEq, false_iff, not_and]
    intro hs hn
    have hok := (hiff n).2 ⟨hs, by omega, by omega⟩
    rw [h] at hok
    cases hok
  | ok m =>
    obtain ⟨hs, hm₀, hm⟩ := (hiff m).1 h
    by_cases hb : bound = 0
    · simp [hb]
    · simp only [hb, beq_iff_eq, if_false, Option.some.injEq]
      constructor
      · rintro rfl
        refine ⟨?_, by omega⟩
        rwa [Int.toNat_of_nonneg hm₀]
      · rintro ⟨hn, hlt⟩
        have hok := (hiff n).2 ⟨hn, by omega, by omega⟩
        rw [h] at hok
        cases hok
        rfl

end JobQueue
