import JobQueue.Proofs.Rounding

/-!
# The shortest decimal rounds to its double

`Binary.shortest` searches `k = 1, 2, …, 17` digits for a decimal that `accepts` takes, and
falls back to the significand itself if none is found. The fallback is never taken: the
exponent estimate `floorLog10` is exact (`floorLog10_eq_log`), and with seventeen digits the
grid step is narrower than the rounding interval, so one of the two neighbours of the
double on that grid lies inside it (`candidate_isSome`). Every decimal the search returns
lies in the interval, and normalizing keeps its value.

**Main statements**

* `Digits.value`, `Binary.magnitude` — the exact values of a decimal and of a double.
* `floorLog10_eq_log` — the decimal exponent estimate is the integer logarithm.
* `Binary.shortest_rounds` — the shortest decimal of a valid double rounds to it, and has
  positive digits without a trailing zero.
* `Binary.nearestBits_shortest` — read as a rational, it gives back the double's bits.
-/

namespace JobQueue.Decimal

/-- The exact value `digits · 10^exp` of a decimal. -/
def Digits.value (d : Digits) : ℚ := d.digits * 10 ^ d.exp

/-- The magnitude `mant · 2^exp` of a finite double. -/
def Binary.magnitude (b : Binary) : ℚ := b.mant * 2 ^ b.exp

/-! ## Normalizing -/

/-- **Removing trailing zeros keeps the value** and leaves positive digits without a trailing
zero, given fuel for at least the digits' value: each step divides by ten. -/
lemma normalize_go : ∀ (fuel n : Nat) (q : Int), 0 < n → n ≤ fuel →
    (Digits.normalize.go n q fuel).value = (n : ℚ) * 10 ^ q ∧
      0 < (Digits.normalize.go n q fuel).digits ∧ (Digits.normalize.go n q fuel).digits % 10 ≠ 0
  | 0, n, _, hn, hf => absurd hf (by omega)
  | fuel + 1, n, q, hn, hf => by
    rw [Digits.normalize.go]
    split_ifs with h
    · simp only [Bool.and_eq_true, bne_iff_ne, ne_eq, beq_iff_eq] at h
      obtain ⟨h1, h2⟩ := normalize_go fuel (n / 10) (q + 1) (by omega) (by omega)
      refine ⟨?_, h2⟩
      rw [h1, zpow_add₀ (by norm_num), zpow_one]
      have : (n : ℚ) = (n / 10 : ℕ) * 10 := by
        exact_mod_cast (Nat.div_mul_cancel (Nat.dvd_of_mod_eq_zero h.2)).symm
      rw [this]; ring
    · simp only [Bool.and_eq_true, bne_iff_ne, ne_eq, beq_iff_eq, not_and] at h
      exact ⟨rfl, hn, fun h' => h (by omega) h'⟩

/-! ## The decimal exponent -/

/-- `powTenLe` compares exact values. -/
lemma powTenLe_iff (p : Int) (m : Nat) (e : Int) :
    powTenLe p m e = true ↔ (10 : ℚ) ^ p ≤ m * 2 ^ e := by
  simp [powTenLe, compareScaled_eq, compare_gt_iff_gt]

/-- Whether the estimate of the decimal exponent for bit length `bits` is at most two below
and two above every exponent that bit length allows. -/
def windowHolds (bits : Int) : Bool :=
  let guess := bits * 78913 / 262144
  powTenLe (guess - 2) 1 bits && compareScaled 1 (guess + 3) 2 bits != .lt

/-- The estimate holds for every bit length a double has, checked by evaluation. -/
lemma windowHolds_all :
    (List.range 2098).all (fun i => windowHolds ((i : Int) - 1074)) = true := by
  decide +kernel

/-- **The estimate is within two**: `10^(guess - 2) ≤ 2^bits` and
`2^(bits + 1) ≤ 10^(guess + 3)` for every bit length from `-1074` to `1023`. -/
lemma guess_window {bits : Int} (h₁ : -1074 ≤ bits) (h₂ : bits ≤ 1023) :
    (10 : ℚ) ^ (bits * 78913 / 262144 - 2) ≤ 2 ^ bits ∧
      (2 : ℚ) ^ (bits + 1) ≤ 10 ^ (bits * 78913 / 262144 + 3) := by
  have h := List.all_eq_true.1 windowHolds_all (bits + 1074).toNat (List.mem_range.2 (by omega))
  rw [show ((bits + 1074).toNat : Int) - 1074 = bits by omega] at h
  simp only [windowHolds, Bool.and_eq_true, powTenLe_iff, bne_iff_ne, ne_eq,
    compareScaled_eq, compare_lt_iff_lt, not_lt] at h
  refine ⟨by simpa using h.1, ?_⟩
  rw [zpow_add_one₀ two_ne_zero, mul_comm]
  simpa using h.2

/-- **`floorLog10` is the integer logarithm** of a valid double: the logarithm lies in the
estimate's window, and the first candidate whose power of ten fits is the logarithm. -/
lemma floorLog10_eq_log {b : Binary} (hb : b.Valid) :
    floorLog10 b.mant b.exp = Int.log 10 b.magnitude := by
  have hm : b.mant ≠ 0 := hb.mant_pos.ne'
  have hlog2 : b.mant.log2 < 53 := (Nat.log2_lt hm).2 hb.mant_lt
  set bits : Int := (b.mant.log2 : Int) + b.exp with hbits
  have hv2lo : (2 : ℚ) ^ bits ≤ b.magnitude := by
    rw [hbits, zpow_add₀ two_ne_zero, zpow_natCast, Binary.magnitude]
    gcongr
    exact_mod_cast Nat.log2_self_le hm
  have hv2hi : b.magnitude < 2 ^ (bits + 1) := by
    rw [hbits, add_right_comm, zpow_add₀ two_ne_zero, ← Nat.cast_succ, zpow_natCast,
      Binary.magnitude]
    gcongr
    exact_mod_cast Nat.lt_log2_self
  have hv : 0 < b.magnitude := lt_of_lt_of_le (zpow_pos two_pos _) hv2lo
  obtain ⟨hw₁, hw₂⟩ := @guess_window bits (by have := hb.exp_ge; omega)
    (by have := hb.exp_le; omega)
  set P := Int.log 10 b.magnitude
  set g := bits * 78913 / 262144
  have hPlo : g - 2 ≤ P :=
    (Int.zpow_le_iff_le_log (by norm_num) hv).1 (by exact_mod_cast hw₁.trans hv2lo)
  have hPhi : P < g + 3 :=
    (Int.lt_zpow_iff_log_lt (by norm_num) hv).1 (by exact_mod_cast hv2hi.trans_le hw₂)
  have htest : ∀ p, powTenLe p b.mant b.exp = decide (p ≤ P) := fun p => by
    rw [Bool.eq_iff_iff, powTenLe_iff, decide_eq_true_iff,
      ← Int.zpow_le_iff_le_log (by norm_num) hv]
    rfl
  show (List.find? (fun p => powTenLe p b.mant b.exp) [g + 2, g + 1, g, g - 1, g - 2]).getD
    (g - 3) = P
  simp only [htest, List.find?_cons, List.find?_nil]
  rcases (by omega : P = g + 2 ∨ P = g + 1 ∨ P = g ∨ P = g - 1 ∨ P = g - 2) with
    h | h | h | h | h <;>
    simp (disch := omega) only [h, decide_eq_true, decide_eq_false, Option.getD_some]

namespace Binary

/-- Whatever a candidate search returns is accepted and has positive digits. -/
lemma candidate_accepts {b : Binary} {top : Int} {k : Nat} {d : Digits}
    (h : b.candidate top k = some d) : b.accepts d.digits d.exp = true ∧ 0 < d.digits := by
  unfold candidate at h
  dsimp only at h
  split at h
  · rename_i hboth
    simp only [Bool.and_eq_true, bne_iff_ne, ne_eq, Bool.not_eq_true'] at hboth
    obtain ⟨⟨hfl, hlow⟩, -, hhigh⟩ := hboth
    split at h <;> try split at h
    all_goals cases h
    all_goals first
      | exact ⟨hlow, Nat.pos_of_ne_zero hfl⟩
      | exact ⟨hhigh, Nat.succ_pos _⟩
  · split at h
    · rename_i hlow
      simp only [Bool.and_eq_true, bne_iff_ne, ne_eq] at hlow
      cases h
      exact ⟨hlow.2, Nat.pos_of_ne_zero hlow.1⟩
    · split at h
      · rename_i hhigh
        simp only [Bool.and_eq_true, Bool.not_eq_true'] at hhigh
        cases h
        exact ⟨hhigh.2, Nat.succ_pos _⟩
      · cases h

/-- A double rounds to itself. -/
lemma rounds_magnitude (b : Binary) : b.Rounds b.magnitude := by
  have hU : (0 : ℚ) < 2 ^ (b.exp - 2) := zpow_pos two_pos _
  have hv : b.magnitude = 4 * b.mant * 2 ^ (b.exp - 2) := by
    rw [magnitude, zpow_sub₀ two_ne_zero]; ring
  simp only [Rounds, hv]
  constructor <;> left
  · split <;> nlinarith
  · nlinarith

/-- **Two neighbours on a fine grid cannot both miss**: if a grid step `T` is at most
`10^-16` of the double, the grid points just below and just above it are not both outside the
rounding interval, which is wider than `T`. -/
lemma rounds_neighbour {b : Binary} (hb : b.Valid) {T y : ℚ} (hT : 10 ^ 16 * T ≤ b.magnitude)
    (hy : y < b.magnitude) (hyT : b.magnitude < y + T) (hlo : ¬ b.Rounds y)
    (hhi : ¬ b.Rounds (y + T)) : False := by
  have hU : (0 : ℚ) < 2 ^ (b.exp - 2) := zpow_pos two_pos _
  have hv : b.magnitude = 4 * b.mant * 2 ^ (b.exp - 2) := by
    rw [magnitude, zpow_sub₀ two_ne_zero]; ring
  have hm53 : (b.mant : ℚ) < 2 ^ 53 := by exact_mod_cast hb.mant_lt
  simp only [Rounds, not_and_or, not_or] at hlo hhi
  rw [hv] at hT hy hyT
  set U : ℚ := 2 ^ (b.exp - 2)
  -- `y` misses below and `y + T` above, so the step spans the whole interval
  have hbelow : y ≤ (4 * b.mant - if b.lowerCloser then 1 else 2) * U := by
    rcases hlo with ⟨h, -⟩ | h
    · exact not_lt.1 h
    · exfalso; exact h.1 (by linarith)
  have habove : (4 * b.mant + 2) * U ≤ y + T := by
    rcases hhi with h | ⟨h, -⟩
    · exfalso; split at h <;> exact h.1 (by nlinarith)
    · exact not_lt.1 h
  by_cases hlc : b.lowerCloser = true
  · rw [if_pos hlc] at hbelow
    have hm : (b.mant : ℚ) = 2 ^ 52 := by exact_mod_cast (hb.lowerCloser_iff.1 hlc).1
    rw [hm] at hbelow habove hT
    nlinarith
  · rw [if_neg hlc] at hbelow
    nlinarith

/-- **Seventeen digits always find a decimal**, given a power of ten at or below the double. -/
lemma candidate_isSome {b : Binary} (hb : b.Valid) {top : Int}
    (htop : (10 : ℚ) ^ top ≤ b.magnitude) : (b.candidate top 17).isSome := by
  unfold candidate
  dsimp only
  set q : ℤ := top - ((17 : ℕ) : ℤ) + 1 with hq
  set num := b.mant * Nat.pow 2 b.exp.toNat * Nat.pow 10 (-q).toNat with hnum
  set den := Nat.pow 2 (-b.exp).toNat * Nat.pow 10 q.toNat with hden
  have hdpos : 0 < den := Nat.mul_pos (Nat.two_pow_pos _) (Nat.pow_pos (by norm_num))
  have hden' : (0 : ℚ) < den := by exact_mod_cast hdpos
  have hT : (0 : ℚ) < 10 ^ q := zpow_pos (by norm_num) _
  have hratio : (num : ℚ) / den = b.magnitude / 10 ^ q := by
    rw [magnitude, zpow_eq_toNat_div 2, zpow_eq_toNat_div 10, hnum, hden]
    simp only [Nat.pow_eq]
    push_cast
    field_simp
  have hdiv := Nat.div_add_mod num den
  have hmod := Nat.mod_lt num hdpos
  set fl := num / den with hfl
  have hlow : (fl : ℚ) * 10 ^ q ≤ b.magnitude := by
    have : (fl : ℚ) * den ≤ num := by exact_mod_cast Nat.div_mul_le_self num den
    rw [← le_div_iff₀ hT, ← hratio, le_div_iff₀ hden']
    exact this
  have hhigh : b.magnitude < (fl + 1) * 10 ^ q := by
    have : (num : ℚ) < (fl + 1) * den := by exact_mod_cast (by nlinarith : num < (fl + 1) * den)
    rw [← div_lt_iff₀ hT, ← hratio, div_lt_iff₀ hden']
    exact this
  have hexact : num % den = 0 → (fl : ℚ) * 10 ^ q = b.magnitude := fun h0 => by
    have : (fl : ℚ) * den = num := by
      exact_mod_cast (by rw [h0] at hdiv; linarith : fl * den = num)
    rw [← eq_div_iff hT.ne', ← hratio, eq_div_iff hden'.ne']
    exact this
  have hstrict : num % den ≠ 0 → (fl : ℚ) * 10 ^ q < b.magnitude := fun h0 => by
    have : (fl : ℚ) * den < num := by
      exact_mod_cast (by have := Nat.pos_of_ne_zero h0; nlinarith : fl * den < num)
    rw [← lt_div_iff₀ hT, ← hratio, lt_div_iff₀ hden']
    exact this
  have htopq : (10 : ℚ) ^ top = 10 ^ 16 * 10 ^ q := by
    rw [← zpow_natCast, ← zpow_add₀ (by norm_num)]
    congr 1
    omega
  have hfl1 : 1 ≤ fl := by
    have h1 : (1 : ℚ) ≤ num / den := by
      rw [hratio, le_div_iff₀ hT]
      nlinarith
    rw [le_div_iff₀ hden', one_mul] at h1
    exact (Nat.le_div_iff_mul_le hdpos).2 (by simpa using (show den ≤ num by exact_mod_cast h1))
  -- one of the two neighbours is accepted: the interval is wider than the grid step `10^q`
  have hok : (fl != 0 && b.accepts fl q) = true ∨
      (!(num % den == 0) && b.accepts (fl + 1) q) = true := by
    have hm := hb.mant_pos
    simp only [Bool.and_eq_true, bne_iff_ne, ne_eq, Bool.not_eq_true', beq_eq_false_iff_ne,
      accepts_iff hm]
    by_cases hex : num % den = 0
    · exact .inl ⟨by omega, by rw [hexact hex]; exact rounds_magnitude b⟩
    · by_contra hnone
      simp only [not_or, not_and] at hnone
      refine rounds_neighbour hb (T := 10 ^ q) (by rw [← htopq]; exact htop) (hstrict hex)
        (by linarith) (hnone.1 (by omega)) ?_
      have := hnone.2 hex
      push_cast at this
      rwa [add_mul, one_mul] at this
  split
  · split <;> (try split) <;> rfl
  · split
    · rfl
    · split
      · rfl
      · rename_i h2 h3
        rcases hok with hok | hok
        exacts [absurd hok h2, absurd hok h3]

/-- A valid double is positive. -/
lemma magnitude_pos {b : Binary} (hb : b.Valid) : 0 < b.magnitude :=
  mul_pos (by exact_mod_cast hb.mant_pos) (zpow_pos two_pos _)

/-- The search finds a decimal in the rounding interval, and `shortest` normalizes it. -/
lemma shortest_found {b : Binary} (hb : b.Valid) :
    ∃ c : Digits, b.Rounds c.value ∧ 0 < c.digits ∧ b.shortest = c.normalize := by
  have htop : (10 : ℚ) ^ floorLog10 b.mant b.exp ≤ b.magnitude := by
    rw [floorLog10_eq_log hb]
    exact_mod_cast Int.zpow_log_le_self (by norm_num) (magnitude_pos hb)
  have hfound : ((List.range 17).findSome? fun i =>
      b.candidate (floorLog10 b.mant b.exp) (i + 1)).isSome :=
    List.findSome?_isSome_iff.2 ⟨16, List.mem_range.2 (by norm_num), candidate_isSome hb htop⟩
  obtain ⟨c, hc⟩ := Option.isSome_iff_exists.1 hfound
  obtain ⟨i, -, hi⟩ := List.exists_of_findSome?_eq_some hc
  obtain ⟨hacc, hpos⟩ := candidate_accepts hi
  refine ⟨c, (accepts_iff hb.mant_pos _ _).1 hacc, hpos, ?_⟩
  simp only [shortest, hc, Option.getD_some]

/-- **The shortest decimal of a valid double rounds to it**, with positive digits and no
trailing zero. -/
theorem shortest_rounds {b : Binary} (hb : b.Valid) :
    b.Rounds b.shortest.value ∧ 0 < b.shortest.digits ∧ b.shortest.digits % 10 ≠ 0 := by
  obtain ⟨c, hc, hpos, hs⟩ := shortest_found hb
  obtain ⟨hv, hpos', h10⟩ := normalize_go c.digits c.digits c.exp hpos le_rfl
  rw [hs]
  refine ⟨?_, hpos', h10⟩
  rw [Digits.normalize, hv]
  exact hc


/-- **The shortest decimal reads back**: the nearest double to its value is the double. -/
theorem nearestBits_shortest {b : Binary} (hb : b.Valid) {num den : Nat} (hd : 0 < den)
    (h : (num : ℚ) / den = b.shortest.value) : nearestBits num den = toBits b.mant b.exp := by
  obtain ⟨hr, hpos, -⟩ := shortest_rounds hb
  have hv : 0 < b.shortest.value :=
    mul_pos (by exact_mod_cast hpos) (zpow_pos (by norm_num) _)
  have hn : 0 < num := by
    rw [← h] at hv
    exact_mod_cast (div_pos_iff_of_pos_right (by exact_mod_cast hd)).1 hv
  exact nearestBits_of_rounds hb hn hd (h ▸ hr)

end Binary

end JobQueue.Decimal
