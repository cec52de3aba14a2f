import JobQueue.Decimal.Nearest
import JobQueue.Decimal.Shortest
import Mathlib.Algebra.Order.Field.Power
import Mathlib.Data.Int.Log
import Mathlib.Data.Rat.Cast.Order
import Mathlib.Data.Rat.Floor
import Mathlib.Tactic.FieldSimp
import Mathlib.Tactic.GCongr
import Mathlib.Tactic.Linarith
import Mathlib.Tactic.Positivity
import Mathlib.Tactic.Ring

/-!
# The double a rational rounds to

`nearestBits` and `Binary.accepts` work on whole numbers scaled by powers of two and ten;
read as exact rationals they are the two halves of one fact. A finite double `b = m · 2^e`
is the rounding of the rationals between the two half-gap bounds around it (`Binary.Rounds`:
a quarter gap below at a power of two, ends included when `m` is even), `accepts` tests
exactly that interval, and `nearestBits` sends every rational of the interval to the bits of
`b`.

**Main statements**

* `compareScaled_eq` — the cross-multiplied comparison is the comparison of `a · 10^q` with
  `b · 2^e`.
* `Binary.accepts_iff` — `accepts` is membership in the rounding interval.
* `floorLog2_eq_log` — the exponent estimate is the integer logarithm.
* `nearestBits_of_rounds` — a rational in the rounding interval of a double reads as that
  double.
-/

namespace JobQueue.Decimal

/-! ## Scaled whole numbers as rationals -/

/-- An integer power split into a whole-number numerator and denominator. -/
lemma zpow_eq_toNat_div (x : ℚ) (z : ℤ) : x ^ z = x ^ z.toNat / x ^ (-z).toNat := by
  rcases Int.eq_nat_or_neg z with ⟨n, rfl | rfl⟩ <;> simp [zpow_neg]

/-- Two comparisons agree when their strict orders and their equalities do. -/
lemma compare_eq_of_iff {α β : Type*} [LinearOrder α] [LinearOrder β] {a b : α} {x y : β}
    (hlt : a < b ↔ x < y) (heq : a = b ↔ x = y) : compare a b = compare x y := by
  rcases lt_trichotomy a b with h | h | h
  · rw [compare_lt_iff_lt.2 h, compare_lt_iff_lt.2 (hlt.1 h)]
  · rw [compare_eq_iff_eq.2 h, compare_eq_iff_eq.2 (heq.1 h)]
  · have hxy : ¬ x < y := fun h' => lt_asymm h (hlt.2 h')
    have hne : x ≠ y := fun h' => h.ne' (heq.2 h')
    rw [compare_gt_iff_gt.2 h, compare_gt_iff_gt.2 (lt_of_le_of_ne (not_lt.1 hxy) hne.symm)]

/-- **`compareScaled` compares exact values**: both sides are put over the common denominator
`10^(-q) · 2^(-e)`, which the whole-number products leave out. -/
lemma compareScaled_eq (a : Nat) (q : Int) (b : Nat) (e : Int) :
    compareScaled a q b e = compare ((a : ℚ) * 10 ^ q) ((b : ℚ) * 2 ^ e) := by
  have hD : (0 : ℚ) < 10 ^ (-q).toNat * 2 ^ (-e).toNat := by positivity
  have ha : (a : ℚ) * 10 ^ q =
      (a * 10 ^ q.toNat * 2 ^ (-e).toNat : ℕ) / (10 ^ (-q).toNat * 2 ^ (-e).toNat) := by
    rw [zpow_eq_toNat_div]
    push_cast
    field_simp
  have hb : (b : ℚ) * 2 ^ e =
      (b * 2 ^ e.toNat * 10 ^ (-q).toNat : ℕ) / (10 ^ (-q).toNat * 2 ^ (-e).toNat) := by
    rw [zpow_eq_toNat_div]
    push_cast
    field_simp
  rw [compareScaled, ha, hb]
  simp only [Nat.pow_eq]
  exact compare_eq_of_iff (by rw [div_lt_div_iff_of_pos_right hD]; exact_mod_cast Iff.rfl)
    (by rw [div_left_inj' hD.ne']; exact_mod_cast Iff.rfl)

namespace Binary

/-- **What `classifyBits` gives a finite double**: a significand of at most 53 bits, full
(at least `2^52`) above the exponent floor, an exponent from `-1074` to `971`, and
`lowerCloser` set exactly at a power of two above the floor. -/
structure Valid (b : Binary) : Prop where
  mant_pos : 0 < b.mant
  mant_lt : b.mant < 2 ^ 53
  exp_ge : -1074 ≤ b.exp
  exp_le : b.exp ≤ 971
  full : -1074 < b.exp → 2 ^ 52 ≤ b.mant
  lowerCloser_iff : b.lowerCloser = true ↔ b.mant = 2 ^ 52 ∧ -1074 < b.exp

/-- The finite doubles `classifyBits` reads are valid. -/
lemma classifyBits_valid {bits : UInt64} {b : Binary} (h : classifyBits bits = .finite b) :
    b.Valid := by
  have hraw := bits.toNat_lt
  unfold classifyBits at h
  simp only at h
  split_ifs at h <;> cases h <;> constructor <;> simp_all <;> omega

/-- **The rationals that round to `b`**: between the half-gap bounds around `m · 2^e`, counted
in quarters of `2^e` — a quarter below at a power of two, where the next smaller double is
twice as close — with the ends included when `m` is even, since ties go to the even
significand. -/
def Rounds (b : Binary) (x : ℚ) : Prop :=
  let unit : ℚ := 2 ^ (b.exp - 2)
  let low : ℚ := (4 * b.mant - if b.lowerCloser then 1 else 2) * unit
  let high : ℚ := (4 * b.mant + 2) * unit
  (low < x ∨ low = x ∧ b.mant % 2 = 0) ∧ (x < high ∨ x = high ∧ b.mant % 2 = 0)

/-- **`accepts` tests the rounding interval.** -/
lemma accepts_iff {b : Binary} (hm : 0 < b.mant) (c : Nat) (q : Int) :
    b.accepts c q = true ↔ b.Rounds (c * 10 ^ q) := by
  have hlow : ((4 * b.mant - if b.lowerCloser then 1 else 2 : ℕ) : ℚ) =
      4 * b.mant - if b.lowerCloser then 1 else 2 := by
    split <;> rw [Nat.cast_sub (by omega)] <;> simp
  simp only [accepts, compareScaled_eq, Bool.and_eq_true, Rounds, hlow]
  push_cast
  -- each bound is one comparison; its three outcomes give the strict, tied and failed cases
  split <;> rename_i h1 <;> split <;> rename_i h2 <;>
    simp only [compare_gt_iff_gt, compare_lt_iff_lt, compare_eq_iff_eq] at h1 h2 <;>
    grind

end Binary

/-! ## The exponent `nearestBits` scales by -/

/-- An integer logarithm is pinned by the two powers around its argument. -/
lemma log_eq_of_bounds {β : ℕ} (hβ : 1 < β) {r : ℚ} {L : ℤ} (h₁ : (β : ℚ) ^ L ≤ r)
    (h₂ : r < (β : ℚ) ^ (L + 1)) : Int.log β r = L := by
  have hr : 0 < r := lt_of_lt_of_le (zpow_pos (by exact_mod_cast (by omega : 0 < β)) L) h₁
  have h₃ := (Int.zpow_le_iff_le_log hβ hr).1 h₁
  have h₄ := (Int.lt_zpow_iff_log_lt hβ hr).1 h₂
  omega

/-- **`floorLog2` is the integer logarithm**: the difference of the bit lengths is the
logarithm or one more, and the comparison picks which. -/
lemma floorLog2_eq_log {num den : Nat} (hn : 0 < num) (hd : 0 < den) :
    floorLog2 num den = Int.log 2 ((num : ℚ) / den) := by
  set g : ℤ := (num.log2 : ℤ) - den.log2 with hg
  have hn1 : (2 : ℚ) ^ num.log2 ≤ num := by exact_mod_cast Nat.log2_self_le hn.ne'
  have hn2 : (num : ℚ) < 2 ^ (num.log2 + 1) := by exact_mod_cast Nat.lt_log2_self
  have hd1 : (2 : ℚ) ^ den.log2 ≤ den := by exact_mod_cast Nat.log2_self_le hd.ne'
  have hd2 : (den : ℚ) < 2 ^ (den.log2 + 1) := by exact_mod_cast Nat.lt_log2_self
  have hden : (0 : ℚ) < den := by exact_mod_cast hd
  have hlow : (2 : ℚ) ^ (g - 1) < num / den := by
    rw [show g - 1 = ((num.log2 : ℕ) : ℤ) - ((den.log2 + 1 : ℕ) : ℤ) by push_cast; ring,
      zpow_sub₀ two_ne_zero, zpow_natCast, zpow_natCast, div_lt_div_iff₀ (by positivity) hden]
    calc (2 : ℚ) ^ num.log2 * den ≤ num * den := by gcongr
      _ < num * 2 ^ (den.log2 + 1) := by gcongr
  have hhigh : (num : ℚ) / den < 2 ^ (g + 1) := by
    rw [show g + 1 = ((num.log2 + 1 : ℕ) : ℤ) - ((den.log2 : ℕ) : ℤ) by push_cast; ring,
      zpow_sub₀ two_ne_zero, zpow_natCast, zpow_natCast, div_lt_div_iff₀ hden (by positivity)]
    calc (num : ℚ) * 2 ^ den.log2 < 2 ^ (num.log2 + 1) * 2 ^ den.log2 := by gcongr
      _ ≤ 2 ^ (num.log2 + 1) * den := by gcongr
  have htest : den * 2 ^ g.toNat ≤ num * 2 ^ (-g).toNat ↔ (2 : ℚ) ^ g ≤ num / den := by
    rw [zpow_eq_toNat_div, div_le_div_iff₀ (by positivity) hden]
    constructor <;> intro h
    · have := (Nat.cast_le (α := ℚ)).2 h
      push_cast at this
      linarith
    · have : ((den * 2 ^ g.toNat : ℕ) : ℚ) ≤ ((num * 2 ^ (-g).toNat : ℕ) : ℚ) := by
        push_cast
        linarith
      exact_mod_cast this
  change (if num * 2 ^ (-g).toNat ≥ den * 2 ^ g.toNat then g else g - 1) = _
  split_ifs with h
  · exact (log_eq_of_bounds one_lt_two (by exact_mod_cast htest.1 h)
      (by exact_mod_cast hhigh)).symm
  · refine (log_eq_of_bounds one_lt_two (by exact_mod_cast hlow.le) ?_).symm
    rw [sub_add_cancel]
    exact_mod_cast lt_of_not_ge (mt htest.2 h)

/-- **The scaling exponent of a rational inside a binade** `[2^52 · 2^e, 2^53 · 2^e)`, or
below `2^53 · 2^e` at the subnormal floor `e = -1074`, is `e`. -/
lemma nearestExp_eq {x : ℚ} {e : ℤ} (he : -1074 ≤ e) (hx : 0 < x)
    (hlow : e = -1074 ∨ 2 ^ 52 * 2 ^ e ≤ x) (hhigh : x < 2 ^ 53 * 2 ^ e) :
    max (-1074) (Int.log 2 x - 52) = e := by
  have hshift : ∀ k : ℤ, (2 : ℚ) ^ (e + k) = 2 ^ k * 2 ^ e := fun k => by
    rw [zpow_add₀ two_ne_zero, mul_comm]
  rcases hlow with rfl | hlow
  · -- below the smallest normal power, the floor wins
    have hsmall : x < 2 ^ (-1021 : ℤ) := by
      have hpow : (2 : ℚ) ^ 53 * 2 ^ (-1074 : ℤ) = 2 ^ (-1021 : ℤ) := by
        rw [← zpow_natCast, ← zpow_add₀ two_ne_zero]
        congr 1
      rwa [← hpow]
    have := (Int.lt_zpow_iff_log_lt one_lt_two hx).1 (by exact_mod_cast hsmall)
    omega
  · have hlog : Int.log 2 x = e + 52 := by
      refine log_eq_of_bounds one_lt_two ?_ ?_
      · rw [Nat.cast_ofNat, hshift]; norm_num at hlow ⊢; linarith
      · rw [Nat.cast_ofNat, add_assoc, hshift]; norm_num at hhigh ⊢; linarith
    omega

/-! ## Rounding half to even -/

/-- Division rounded to the nearest whole number, ties to the even one: the rounding step of
`nearestBits`. -/
def roundHalfEven (n d : Nat) : Nat :=
  if 2 * (n % d) > d || (2 * (n % d) == d && n / d % 2 == 1) then n / d + 1 else n / d

/-- `nearestBits` as its three steps: the exponent, the rounded significand, and the carry
into the next binade. -/
lemma nearestBits_eq {num den : Nat} (hn : 0 < num) (hd : 0 < den) :
    nearestBits num den =
      let e := max (-1074) (floorLog2 num den - 52)
      let q := roundHalfEven (num * 2 ^ (-e).toNat) (den * 2 ^ e.toNat)
      if q = 2 ^ 53 then Binary.toBits (2 ^ 52) (e + 1) else Binary.toBits q e := by
  unfold nearestBits roundHalfEven
  rw [if_neg (by simp [hn.ne', hd.ne'])]
  simp only [Nat.pow_eq]
  split_ifs <;> simp_all

/-- **Rounding half to even gives `m`** when `n / d` is within a half of `m`, a half away
only for an even `m`; stated over whole numbers, doubled. -/
lemma roundHalfEven_eq {n d m : Nat} (hd : 0 < d)
    (hlo : 2 * (m * d) < 2 * n + d ∨ 2 * (m * d) = 2 * n + d ∧ m % 2 = 0)
    (hhi : 2 * n < 2 * (m * d) + d ∨ 2 * n = 2 * (m * d) + d ∧ m % 2 = 0) :
    roundHalfEven n d = m := by
  have hdiv := Nat.div_add_mod n d
  have hmod := Nat.mod_lt n hd
  set q := n / d
  set r := n % d
  -- the quotient is `m` or `m - 1`; the remainder decides the rest
  have hq : q = m ∨ q + 1 = m := by
    rcases lt_trichotomy q m with h | h | h
    · have h2 : ¬ q + 2 ≤ m := by
        intro h2
        have := Nat.mul_le_mul_left d h2
        rw [Nat.mul_add, Nat.mul_comm d m] at this
        omega
      omega
    · exact .inl h
    · have := Nat.mul_le_mul_left d (show m + 1 ≤ q from h)
      rw [Nat.mul_add, Nat.mul_comm d m] at this
      omega
  unfold roundHalfEven
  rcases hq with hq | hq
  · subst hq
    rw [Nat.mul_comm q d] at hlo hhi
    split_ifs with h <;> simp only [Bool.or_eq_true, decide_eq_true_eq, Bool.and_eq_true,
      beq_iff_eq] at h <;> omega
  · subst hq
    rw [Nat.mul_comm (q + 1) d, Nat.mul_add] at hlo hhi
    split_ifs with h <;> simp only [Bool.or_eq_true, decide_eq_true_eq, Bool.and_eq_true,
      beq_iff_eq, not_or, not_and] at h <;> omega

/-- The same, for the exact quotient `n / d`. -/
lemma roundHalfEven_eq_of_near {n d m : Nat} (hd : 0 < d)
    (hlo : (m : ℚ) - 1 / 2 < n / d ∨ (m : ℚ) - 1 / 2 = n / d ∧ m % 2 = 0)
    (hhi : (n : ℚ) / d < m + 1 / 2 ∨ (n : ℚ) / d = m + 1 / 2 ∧ m % 2 = 0) :
    roundHalfEven n d = m := by
  have hd' : (0 : ℚ) < d := by exact_mod_cast hd
  apply roundHalfEven_eq hd
  · rcases hlo with h | ⟨h, hm⟩
    · rw [lt_div_iff₀ hd'] at h
      have : ((2 * (m * d) : ℕ) : ℚ) < ((2 * n + d : ℕ) : ℚ) := by push_cast; linarith
      exact .inl (by exact_mod_cast this)
    · rw [eq_div_iff hd'.ne'] at h
      have : ((2 * (m * d) : ℕ) : ℚ) = ((2 * n + d : ℕ) : ℚ) := by push_cast; linarith
      exact .inr ⟨by exact_mod_cast this, hm⟩
  · rcases hhi with h | ⟨h, hm⟩
    · rw [div_lt_iff₀ hd'] at h
      have : ((2 * n : ℕ) : ℚ) < ((2 * (m * d) + d : ℕ) : ℚ) := by push_cast; linarith
      exact .inl (by exact_mod_cast this)
    · rw [div_eq_iff hd'.ne'] at h
      have : ((2 * n : ℕ) : ℚ) = ((2 * (m * d) + d : ℕ) : ℚ) := by push_cast; linarith
      exact .inr ⟨by exact_mod_cast this, hm⟩

/-- The quotient `nearestBits` rounds is the rational over a power of two. -/
lemma scaled_div {num den : Nat} (hd : 0 < den) (e : Int) :
    ((num * 2 ^ (-e).toNat : ℕ) : ℚ) / ((den * 2 ^ e.toNat : ℕ) : ℚ) =
      (num / den) / 2 ^ e := by
  have hd' : (den : ℚ) ≠ 0 := by exact_mod_cast hd.ne'
  rw [zpow_eq_toNat_div]
  push_cast
  field_simp

/-! ## Reading back -/

/-- **A rational in the rounding interval of a valid double reads as that double.** Inside
the binade the rational scaled by `2^e` is within a half of `m`, and rounds to it. Just below
a power of two it lies in the binade beneath, where the gap is half as wide; there it is
within a half of `2^53`, and the carry brings it back up to `2^52 · 2^e`. -/
theorem nearestBits_of_rounds {b : Binary} (hb : b.Valid) {num den : Nat} (hn : 0 < num)
    (hd : 0 < den) (h : b.Rounds (num / den)) :
    nearestBits num den = Binary.toBits b.mant b.exp := by
  obtain ⟨hm0, hm53, hge, hle, hfull, hlc⟩ := hb
  set x : ℚ := (num : ℚ) / den with hx
  set P : ℚ := (2 : ℚ) ^ b.exp with hP
  have hxpos : 0 < x := div_pos (by exact_mod_cast hn) (by exact_mod_cast hd)
  have hPpos : 0 < P := zpow_pos two_pos _
  have hscale : ∀ k : ℤ, (2 : ℚ) ^ (b.exp - k) = P / 2 ^ k := fun k => by
    rw [zpow_sub₀ two_ne_zero]
  have hm53' : (b.mant : ℚ) + 1 ≤ 2 ^ 53 := by exact_mod_cast hm53
  simp only [Binary.Rounds, hscale 2] at h
  obtain ⟨hlo, hhi⟩ := h
  have hxhi : x ≤ (b.mant + 1 / 2) * P := by
    rcases hhi with h | ⟨h, -⟩ <;> norm_num at h <;> linarith
  have hx53 : x < 2 ^ 53 * P := by nlinarith
  rw [nearestBits_eq hn hd, floorLog2_eq_log hn hd, ← hx]
  by_cases hB : b.lowerCloser = true ∧ x < 2 ^ 52 * P
  · -- just below a power of two: the binade beneath, rounded up to the power
    obtain ⟨hlc', hxlt⟩ := hB
    obtain ⟨hm, he⟩ := hlc.1 hlc'
    rw [if_pos hlc', hm] at hlo
    have hxlo : (2 ^ 52 - 1 / 4) * P ≤ x := by
      rcases hlo with h | ⟨h, -⟩ <;> norm_num at h <;> linarith
    have hexp := nearestExp_eq (e := b.exp - 1) (by omega) hxpos
      (.inr (by rw [hscale]; norm_num; linarith)) (by rw [hscale]; norm_num; linarith)
    have hround : roundHalfEven (num * 2 ^ (-(b.exp - 1)).toNat) (den * 2 ^ (b.exp - 1).toNat) =
        2 ^ 53 := by
      apply roundHalfEven_eq_of_near (Nat.mul_pos hd (Nat.two_pow_pos _)) <;>
        rw [scaled_div hd, ← hx, hscale 1, zpow_one]
      · rcases hlo with h | ⟨h, -⟩
        · left; rw [lt_div_iff₀ (div_pos hPpos two_pos)]; norm_num at h ⊢; linarith
        · right; refine ⟨?_, by norm_num⟩; rw [eq_div_iff (div_pos hPpos two_pos).ne']
          norm_num at h ⊢; linarith
      · left; rw [div_lt_iff₀ (div_pos hPpos two_pos)]; norm_num; linarith
    simp only [hexp, hround, if_true]
    rw [hm, sub_add_cancel]
  · -- within the binade of `b`
    have hexp : max (-1074) (Int.log 2 x - 52) = b.exp := by
      refine nearestExp_eq hge hxpos ?_ hx53
      by_cases he : b.exp = -1074
      · exact .inl he
      · right
        by_cases hlc' : b.lowerCloser = true
        · exact not_lt.1 fun hlt => hB ⟨hlc', hlt⟩
        · have hne : b.mant ≠ 2 ^ 52 := fun hm => hlc' (hlc.2 ⟨hm, by omega⟩)
          have hm52 : (2 : ℚ) ^ 52 + 1 ≤ b.mant := by
            exact_mod_cast (by have := hfull (by omega); omega : 2 ^ 52 + 1 ≤ b.mant)
          rw [if_neg hlc'] at hlo
          rcases hlo with h | ⟨h, -⟩ <;> nlinarith
    have hround : roundHalfEven (num * 2 ^ (-b.exp).toNat) (den * 2 ^ b.exp.toNat) = b.mant := by
      apply roundHalfEven_eq_of_near (Nat.mul_pos hd (Nat.two_pow_pos _)) <;>
        rw [scaled_div hd, ← hx]
      · by_cases hlc' : b.lowerCloser = true
        · have hx52 : 2 ^ 52 * P ≤ x := not_lt.1 fun hlt => hB ⟨hlc', hlt⟩
          rw [(hlc.1 hlc').1]
          left; rw [lt_div_iff₀ hPpos]; push_cast; linarith
        · rw [if_neg hlc'] at hlo
          rcases hlo with h | ⟨h, hm⟩
          · left; rw [lt_div_iff₀ hPpos]; norm_num at h; linarith
          · right; refine ⟨?_, hm⟩; rw [eq_div_iff hPpos.ne']; norm_num at h; linarith
      · rcases hhi with h | ⟨h, hm⟩
        · left; rw [div_lt_iff₀ hPpos]; norm_num at h; linarith
        · right; refine ⟨?_, hm⟩; rw [div_eq_iff hPpos.ne']; norm_num at h; linarith
    simp only [hexp, hround, if_neg (Nat.ne_of_lt hm53)]

end JobQueue.Decimal
