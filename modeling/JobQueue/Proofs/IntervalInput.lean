import JobQueue.Schedule.Basic
import JobQueue.Proofs.Numerals
import Mathlib.Algebra.Order.Field.Basic
import Mathlib.Data.Rat.Cast.Order
import Mathlib.Tactic.Positivity
import Mathlib.Tactic.Linarith
import Mathlib.Tactic.Ring

/-!
# Which interval inputs are accepted

An interval schedule is built from a signed count of seconds, from a double, or from text.

**The number of a double.** `Binary.value?` reads the number a double stands for off its 64
bits, by IEEE 754: infinities and NaN stand for none. Classifying a double keeps that number
(`Binary.value?_eq_classifyBits`), and the whole-number test on it succeeds exactly on the
doubles whose number is whole, giving that number (`Binary.wholeBits?_eq_some_iff`).

**The three readers.**

* A count is accepted exactly when it is positive (and below `2^64`), and is the period.
* A double is accepted exactly when its number is whole, from 1 to `2^63 - 1`, and is the
  period (`Schedule.FromDouble`); its number `2^63`, just past the signed range, is taken as
  `2^63 - 1`.
* A text, without the blanks around it, is read as a signed 64-bit numeral first; a text that
  is none goes to the double reader, which rounds a decimal to the nearest double before the
  double is checked. So `1.0000000000000001` is accepted as 1 second
  (`decimal_rounds_before_whole_check`).

`interval_inputs_accepted_iff` puts the three together.
-/

namespace JobQueue.Decimal

namespace Binary

/-- The number a finite double stands for: `(-1)^negative · mant · 2^exp`. -/
def value (b : Binary) : ℚ :=
  if b.negative then -((b.mant : ℚ) * 2 ^ b.exp) else (b.mant : ℚ) * 2 ^ b.exp

/-- **The number a double stands for**, read from its 64 bits by IEEE 754 binary64: a sign
bit, 11 exponent bits and 52 fraction bits. An exponent field of zero is subnormal; all ones
is an infinity or NaN, which stand for no number. Both zeros are 0. -/
def value? (bits : UInt64) : Option ℚ :=
  let raw : Nat := bits.toNat
  let field : Nat := raw / 2 ^ 52 % 2 ^ 11
  let frac : Nat := raw % 2 ^ 52
  if field = 2047 then none
  else
    let significand : Nat := if field = 0 then frac else 2 ^ 52 + frac
    let power : ℤ := if field = 0 then -1074 else (field : ℤ) - 1075
    let magnitude : ℚ := (significand : ℚ) * 2 ^ power
    some (if 2 ^ 63 ≤ raw then -magnitude else magnitude)

end Binary

/-- The number of each kind of double. -/
def Kind.value? : Kind → Option ℚ
  | .finite b => some b.value
  | .zero _ => some 0
  | _ => none

namespace Binary

/-- **Classifying a double keeps its number.** -/
lemma value?_eq_classifyBits (bits : UInt64) : value? bits = (classifyBits bits).value? := by
  have hraw : bits.toNat < 2 ^ 64 := bits.toNat_lt
  -- The code reads the sign as the top bit by division.
  have hsign : (bits.toNat / 9223372036854775808 == 1) = decide (2 ^ 63 ≤ bits.toNat) := by
    by_cases h : 2 ^ 63 ≤ bits.toNat
    · simp only [h, decide_true, beq_iff_eq]
      omega
    · simp only [h, decide_false, beq_eq_false_iff_ne]
      omega
  unfold value? classifyBits
  simp only [Nat.reducePow, hsign]
  by_cases hf : bits.toNat / 4503599627370496 % 2048 = 2047
  · by_cases hfr : bits.toNat % 4503599627370496 = 0 <;> simp [hf, hfr, Kind.value?]
  · by_cases hz : bits.toNat / 4503599627370496 % 2048 = 0
    · by_cases hfr : bits.toNat % 4503599627370496 = 0
      · simp [hz, hfr, Kind.value?]
      · simp [hz, hfr, Kind.value?, value]
    · simp [hf, hz, Kind.value?, value, add_comm]

/-- A whole number scaled down by `2^k` is whole exactly when `2^k` divides it. -/
lemma natCast_div_pow_eq_intCast_iff {m k : Nat} {v : Int} :
    (m : ℚ) / 2 ^ k = v ↔ 2 ^ k ∣ m ∧ v = ((m / 2 ^ k : Nat) : Int) := by
  have hpos : (0 : ℚ) < 2 ^ k := by positivity
  rw [div_eq_iff hpos.ne']
  constructor
  · intro h
    have hz : (m : ℤ) = v * 2 ^ k := by exact_mod_cast h
    have hv : 0 ≤ v := by
      by_contra hneg
      have : v * 2 ^ k < 0 := Int.mul_neg_of_neg_of_pos (by omega) (by positivity)
      omega
    obtain ⟨n, rfl⟩ := Int.eq_ofNat_of_zero_le hv
    have hm : m = n * 2 ^ k := by exact_mod_cast hz
    subst hm
    refine ⟨Dvd.intro_left n rfl, ?_⟩
    rw [Nat.mul_div_cancel _ (by positivity)]
  · rintro ⟨⟨q, rfl⟩, rfl⟩
    rw [Nat.mul_div_cancel_left _ (by positivity)]
    push_cast
    ring

/-- A sign applied to a number gives a whole number exactly when the number is that whole
number with the sign. -/
lemma signed_eq_intCast_iff (neg : Bool) (x : ℚ) (v : Int) :
    (if neg then -x else x) = v ↔ x = ((if neg then -v else v : Int) : ℚ) := by
  cases neg
  · simp
  · simp only [if_true, Int.cast_neg]
    constructor <;> intro h <;> linarith

/-- **The whole-number test on a finite double**: it gives a value exactly when the double's
number is whole, and then that number. -/
lemma whole_iff (b : Binary) (v : Int) :
    (((if b.exp ≥ 0 then some (b.mant * Nat.pow 2 b.exp.toNat)
      else if b.mant % Nat.pow 2 (-b.exp).toNat == 0 then some (b.mant / Nat.pow 2 (-b.exp).toNat)
      else none : Option Nat) : Option Int).map fun m => if b.negative then -m else m) = some v ↔
      b.value = v := by
  obtain ⟨neg, m, e, lc⟩ := b
  simp only [value]
  rw [signed_eq_intCast_iff]
  rcases le_or_gt 0 e with he | he
  · -- A nonnegative exponent scales up: the number is always whole.
    obtain ⟨k, rfl⟩ := Int.eq_ofNat_of_zero_le he
    simp only [ge_iff_le, he, if_true, Int.toNat_natCast, Nat.pow_eq, zpow_natCast,
      Option.bind_eq_bind, Option.bind_some, Option.pure_def, Option.map_some, Option.some.injEq]
    cases neg
    · simp only [Bool.false_eq_true, if_false]
      constructor
      · rintro rfl
        push_cast
        rfl
      · intro h
        exact_mod_cast h
    · simp only [if_true]
      constructor
      · rintro rfl
        push_cast
        ring
      · intro h
        have : ((m * 2 ^ k : Nat) : ℤ) = -v := by exact_mod_cast h
        omega
  · -- A negative exponent scales down by `2^k`: whole exactly when `2^k` divides.
    obtain ⟨k, hk⟩ : ∃ k : Nat, e = -(k : Int) := ⟨(-e).toNat, by omega⟩
    subst hk
    have hval : (m : ℚ) * 2 ^ (-(k : Int)) = (m : ℚ) / 2 ^ k := by
      rw [zpow_neg, zpow_natCast, div_eq_mul_inv]
    rw [hval]
    have hne : ¬ (-(k : Int) ≥ 0) := by omega
    simp only [hne, if_false, neg_neg, Int.toNat_natCast, Nat.pow_eq]
    rw [natCast_div_pow_eq_intCast_iff]
    by_cases hd : m % 2 ^ k = 0
    · have hdvd : 2 ^ k ∣ m := Nat.dvd_of_mod_eq_zero hd
      simp only [hd, beq_self_eq_true, if_true, Option.bind_eq_bind, Option.bind_some,
        Option.pure_def, Option.map_some, Option.some.injEq, hdvd, true_and]
      cases neg <;> simp <;> omega
    · have hdvd : ¬ 2 ^ k ∣ m := fun h => hd (Nat.mod_eq_zero_of_dvd h)
      simp [hd, hdvd]

/-- **A double's whole value is its number**: the test succeeds exactly on the doubles whose
number is whole. -/
lemma wholeBits?_eq_some_iff (bits : UInt64) (v : Int) :
    wholeBits? bits = some v ↔ value? bits = some (v : ℚ) := by
  rw [value?_eq_classifyBits]
  unfold wholeBits?
  cases classifyBits bits with
  | finite b =>
    simp only [Kind.value?, Option.some.injEq]
    exact whole_iff b v
  | zero n => simp [Kind.value?, eq_comm]
  | infinite n => simp [Kind.value?]
  | nan => simp [Kind.value?]

end Binary

end JobQueue.Decimal

namespace JobQueue.Schedule

/-- `s` is the interval schedule from `start`, every `n` seconds. -/
def IsEvery (s : Schedule) (start : Instant) (n : Int) : Prop :=
  ∃ p : Period, s = .interval start p ∧ (p.secs : Int) = n

/-- **What a double gives as an interval**: its number is whole, from 1 to `2^63 - 1`, and is
the period; or its number is `2^63`, just past the signed range, and the period is
`2^63 - 1`. -/
def FromDouble (s : Schedule) (start : Instant) (bits : UInt64) : Prop :=
  ∃ v : Int, Decimal.Binary.value? bits = some (v : ℚ) ∧
    (1 ≤ v ∧ v ≤ wordMax ∧ s.IsEvery start v ∨ v = 2 ^ 63 ∧ s.IsEvery start wordMax)

/-- **A count is accepted exactly when it is positive**, below `2^64`, and is the period. -/
lemma interval?_eq_ok_iff {start : Instant} {n : Int} {s : Schedule} :
    interval? start n = .ok s ↔ 0 < n ∧ n < 2 ^ 64 ∧ s.IsEvery start n := by
  have hbound : (2 : Int) ^ 64 = 18446744073709551616 := by norm_num
  rw [hbound]
  unfold interval?
  split
  · next h =>
    simp only [Except.ok.injEq]
    constructor
    · rintro rfl
      exact ⟨h.1, h.2, _, rfl, Int.toNat_of_nonneg (by omega)⟩
    · rintro ⟨-, -, ⟨secs, hpos, hsmall⟩, rfl, hp⟩
      have hsecs : (secs : Int) = n := hp
      simp only [Schedule.interval.injEq, Period.mk.injEq, true_and]
      omega
  · next h =>
    simp only [reduceCtorEq, false_iff, not_and]
    intro h1 h2
    exact absurd ⟨h1, h2⟩ h

/-- A whole number up to `2^63`, brought into the signed range, is accepted exactly as the
double reader says. -/
lemma interval?_clamp_iff {start : Instant} {v : Int} {s : Schedule} (hv : v ≤ 2 ^ 63) :
    interval? start (max wordMin (min wordMax v)) = .ok s ↔
      1 ≤ v ∧ v ≤ wordMax ∧ s.IsEvery start v ∨ v = 2 ^ 63 ∧ s.IsEvery start wordMax := by
  rw [interval?_eq_ok_iff]
  have hmin : wordMin = -9223372036854775808 := rfl
  have hmax : wordMax = 9223372036854775807 := rfl
  have htop : (2 : Int) ^ 63 = 9223372036854775808 := by norm_num
  rw [htop] at hv ⊢
  by_cases hpos : 1 ≤ v
  · by_cases hin : v ≤ wordMax
    · -- Inside the signed range the value is its own period.
      have hc : max wordMin (min wordMax v) = v := by omega
      rw [hc]
      constructor
      · rintro ⟨-, -, he⟩
        exact .inl ⟨hpos, hin, he⟩
      · rintro (⟨-, -, he⟩ | ⟨rfl, -⟩)
        · exact ⟨by omega, by omega, he⟩
        · omega
    · -- Just past it, `2^63` is taken as the largest word.
      have hv' : v = 9223372036854775808 := by omega
      have hc : max wordMin (min wordMax v) = wordMax := by omega
      rw [hc]
      constructor
      · rintro ⟨-, -, he⟩
        exact .inr ⟨hv', he⟩
      · rintro (⟨-, h, -⟩ | ⟨-, he⟩)
        · omega
        · exact ⟨by omega, by omega, he⟩
  · -- Nothing below 1 is a period.
    constructor
    · rintro ⟨h, -, -⟩
      omega
    · rintro (⟨h, -, -⟩ | ⟨rfl, -⟩) <;> omega

/-- **A double is accepted exactly when its number is whole and in range**, see
`FromDouble`. -/
lemma intervalOfBits_eq_ok_iff {start : Instant} {bits : UInt64} {s : Schedule} :
    intervalOfBits start bits = .ok s ↔ s.FromDouble start bits := by
  unfold intervalOfBits FromDouble
  cases hw : Decimal.Binary.wholeBits? bits with
  | none =>
    simp only [reduceCtorEq, false_iff, not_exists, not_and]
    intro v hv
    rw [← Decimal.Binary.wholeBits?_eq_some_iff, hw] at hv
    cases hv
  | some v =>
    have hval := (Decimal.Binary.wholeBits?_eq_some_iff bits v).1 hw
    -- The number of the double is the whole value the test gave.
    have huniq : ∀ w : Int, Decimal.Binary.value? bits = some (w : ℚ) ↔ w = v := by
      intro w
      rw [hval, Option.some.injEq, Int.cast_inj, eq_comm]
    simp only [huniq, exists_eq_left]
    split
    · next hbig =>
      simp only [reduceCtorEq, false_iff, not_or, not_and]
      have htop : (2 : Int) ^ 63 = 9223372036854775808 := by norm_num
      have hmax : wordMax = 9223372036854775807 := rfl
      exact ⟨fun _ h => by omega, fun h => by omega⟩
    · next hle => exact interval?_clamp_iff (by norm_num; omega)

/-- **A text is read as a signed 64-bit numeral, failing that as a double**: it is accepted
exactly when, without the blanks around it, it is a numeral of a positive signed 64-bit word,
or it is no numeral of a signed 64-bit word and the double reader reads a double from it that
is accepted as one. -/
lemma intervalOfText_eq_ok_iff {start : Instant} {text : String} {s : Schedule} :
    intervalOfText start text = .ok s ↔
      (∃ n, Numeral.Spells true (Text.trimBlank text).toList n ∧ wordMin ≤ n ∧ n ≤ wordMax ∧
          0 < n ∧ s.IsEvery start n) ∨
        ((∀ n, Numeral.Spells true (Text.trimBlank text).toList n → n < wordMin ∨ wordMax < n) ∧
          ∃ bits, Decimal.parseBits? (Text.trimBlank text) = some bits ∧ s.FromDouble start bits) := by
  unfold intervalOfText
  dsimp only
  generalize Text.trimBlank text = t
  have hread : ∀ n, parseInteger t wordMin wordMax = .ok n ↔
      Numeral.Spells true t.toList n ∧ wordMin ≤ n ∧ n ≤ wordMax := fun n =>
    parseInteger_eq_ok_iff (by decide) (by decide)
  have hmax : wordMax = 9223372036854775807 := rfl
  cases hp : parseInteger t wordMin wordMax with
  | ok n =>
    -- A numeral of a signed word decides alone: a count that is not positive is refused.
    obtain ⟨hs, hlo, hhi⟩ := (hread n).1 hp
    rw [interval?_eq_ok_iff]
    constructor
    · rintro ⟨hpos, -, he⟩
      exact .inl ⟨n, hs, hlo, hhi, hpos, he⟩
    · rintro (⟨n', hs', hlo', hhi', hpos, he⟩ | ⟨hnone, -⟩)
      · have hn' : parseInteger t wordMin wordMax = .ok n' := (hread n').2 ⟨hs', hlo', hhi'⟩
        rw [hp, Except.ok.injEq] at hn'
        subst hn'
        exact ⟨hpos, by norm_num; omega, he⟩
      · rcases hnone n hs with h | h <;> omega
  | error e =>
    -- No numeral of a signed word: the text goes to the double reader.
    have hnone : ∀ n, Numeral.Spells true t.toList n → n < wordMin ∨ wordMax < n := by
      intro n hs
      by_contra hin
      have hn : parseInteger t wordMin wordMax = .ok n := (hread n).2 ⟨hs, by omega, by omega⟩
      rw [hp] at hn
      cases hn
    have hfirst : ¬ ∃ n, Numeral.Spells true t.toList n ∧ wordMin ≤ n ∧ n ≤ wordMax ∧ 0 < n ∧
        s.IsEvery start n := by
      rintro ⟨n, hs, hlo, hhi, -⟩
      rcases hnone n hs with h | h <;> omega
    simp only [hfirst, false_or]
    cases hb : Decimal.parseBits? t with
    | some bits =>
      rw [intervalOfBits_eq_ok_iff]
      constructor
      · intro h
        exact ⟨hnone, bits, rfl, h⟩
      · rintro ⟨-, bits', hbits', h⟩
        cases hbits'
        exact h
    | none =>
      simp only [reduceCtorEq, false_iff, not_and, not_exists]
      intro _ bits hbits
      cases hbits

/-- **Which interval inputs are accepted.** A count is accepted exactly when it is positive
(and below `2^64`), and is the period. A double is accepted exactly when its number is whole,
from 1 to `2^63 - 1`, and is the period; `2^63` is taken as `2^63 - 1`. A text, blanks around
it dropped, is accepted as a positive numeral of a signed 64-bit word, or, when it is no such
numeral, as the double the double reader reads from it. -/
theorem interval_inputs_accepted_iff (start : Instant) (s : Schedule) :
    (∀ n : Int, interval? start n = .ok s ↔ 0 < n ∧ n < 2 ^ 64 ∧ s.IsEvery start n) ∧
    (∀ x : Float, intervalOfFloat start x = .ok s ↔ s.FromDouble start x.toBits) ∧
    ∀ text : String, intervalOfText start text = .ok s ↔
      (∃ n, Numeral.Spells true (Text.trimBlank text).toList n ∧ wordMin ≤ n ∧ n ≤ wordMax ∧
          0 < n ∧ s.IsEvery start n) ∨
        ((∀ n, Numeral.Spells true (Text.trimBlank text).toList n → n < wordMin ∨ wordMax < n) ∧
          ∃ bits, Decimal.parseBits? (Text.trimBlank text) = some bits ∧
            s.FromDouble start bits) :=
  ⟨fun _ => interval?_eq_ok_iff, fun _ => intervalOfBits_eq_ok_iff,
    fun _ => intervalOfText_eq_ok_iff⟩

/-- The double reader rounds before the whole-number check: `1.0000000000000001` is no whole
number, but its nearest double is 1, so the text is accepted as every second. -/
theorem decimal_rounds_before_whole_check :
    intervalOfText (.ofSeconds 1704067200) "1.0000000000000001" =
      .ok (.interval (.ofSeconds 1704067200) ⟨1, by decide, by decide⟩) := by
  have htrim : Text.trimBlank "1.0000000000000001" = "1.0000000000000001" := by decide
  have hint : parseInteger "1.0000000000000001" wordMin wordMax = .error .invalidDigit := rfl
  have hbits : Decimal.parseBits? "1.0000000000000001" = some 0x3FF0000000000000 := by decide
  unfold intervalOfText
  simp only [htrim, hint, hbits]
  rfl

end JobQueue.Schedule
