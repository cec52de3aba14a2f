import JobQueue.Proofs.ShortestDigits
import JobQueue.Proofs.JsonText
import JobQueue.Decimal.Reading
import JobQueue.Decimal.Layout

/-!
# Doubles read back from their data text

`Layout.json.renderBits` writes a double as data: the shortest digits that round to it, laid
out with a point or with an exponent, after a `-` when the sign bit is set; zeros are `0.0`
and `-0.0`, infinities `inf` and `-inf`. The reader `parseBits?` gives back the bits of every
double but NaN from that text.

For a finite double the argument has three parts. Each layout of the digits is read as the
digits it was written from, at the value they stand for (`unsignedBits_digitsText`). That
value rounds to the double (`Binary.shortest_rounds`) and lies between `10^-330` and `10^309`,
where the reader rounds rather than cutting off to zero or infinity (`scaledBits_eq`). And the
sign bit set over the bits of the magnitude gives back the bits read (`signed_magnitude`).

**Main statements**

* `unsignedBits_digitsText` — every layout of a decimal reads as its digits at its value.
* `scaledBits_eq` — the reader rounds the value of a double's shortest digits to the double.
* `parseBits?_renderBits` — every double but NaN reads back from its data text.
* `renderBits_inj` — distinct doubles other than NaN have distinct data texts.
-/

namespace JobQueue.Decimal

/-! ## Scanning digits -/

/-- A rest of the text that does not start with a digit, where a run of digits stops. -/
def NoDigitHead (r : List Char) : Prop := ∀ c t, r = c :: t → c.isDigit = false

lemma noDigitHead_nil : NoDigitHead [] := fun _ _ h => nomatch h

lemma noDigitHead_cons {c : Char} {t : List Char} (h : c.isDigit = false) :
    NoDigitHead (c :: t) :=
  fun _ _ e => by cases e; exact h

/-- The reader's scan of a run of digits stops exactly where the run ends. -/
lemma scan_digits {ds r : List Char} (hd : ∀ c ∈ ds, c.isDigit = true) (hr : NoDigitHead r) :
    (ds ++ r).takeWhile Char.isDigit = ds ∧ (ds ++ r).dropWhile Char.isDigit = r := by
  rw [List.takeWhile_append_of_pos hd, List.dropWhile_append_of_pos hd]
  cases r with
  | nil => simp
  | cons c t => simp [hr c t rfl]

/-- **A decimal with a point**, digits on both sides, then nothing or an exponent: its value is
the digits together, shifted by the fraction's length. -/
lemma unsignedBits_point {W F R : List Char} {E : Int} (hW : ∀ c ∈ W, c.isDigit = true)
    (hW0 : W ≠ []) (hF : ∀ c ∈ F, c.isDigit = true) (hR : NoDigitHead R)
    (hE : R = [] ∧ E = 0 ∨ ∃ X, R = 'e' :: X ∧ exponentPart X = some E) :
    unsignedBits (W ++ '.' :: (F ++ R)) =
      some (scaledBits (digitsValue (W ++ F)) (E - F.length)) := by
  obtain ⟨h1, h2⟩ := scan_digits hW (noDigitHead_cons (c := '.') (t := F ++ R) rfl)
  obtain ⟨h3, h4⟩ := scan_digits hF hR
  unfold unsignedBits
  simp only [h1, h2, h3, h4]
  rcases hE with ⟨rfl, rfl⟩ | ⟨X, rfl, hX⟩
  · simp [hW0]
  · simp [hW0, hX]

/-- **A decimal without a point**, digits and an exponent. -/
lemma unsignedBits_exponent {W X : List Char} {E : Int} (hW : ∀ c ∈ W, c.isDigit = true)
    (hW0 : W ≠ []) (hX : exponentPart X = some E) :
    unsignedBits (W ++ 'e' :: X) = some (scaledBits (digitsValue W) E) := by
  obtain ⟨h1, h2⟩ := scan_digits hW (noDigitHead_cons (c := 'e') (t := X) rfl)
  unfold unsignedBits
  simp only [h1, h2]
  simp [hW0, hX]

/-! ## The value of a run of digits -/

/-- Digits read onto `a` are `a` shifted past them, plus the digits read alone. -/
lemma foldl_digits (a : Nat) (ys : List Char) :
    ys.foldl (fun acc c => acc * 10 + (c.toNat - '0'.toNat)) a =
      a * 10 ^ ys.length + ys.foldl (fun acc c => acc * 10 + (c.toNat - '0'.toNat)) 0 := by
  induction ys generalizing a with
  | nil => simp
  | cons y ys ih =>
    simp only [List.foldl_cons, List.length_cons]
    rw [ih, ih (0 * 10 + _)]
    ring

/-- Two runs of digits read together: the first shifted past the second. -/
lemma digitsValue_append (xs ys : List Char) :
    digitsValue (xs ++ ys) = digitsValue xs * 10 ^ ys.length + digitsValue ys := by
  unfold digitsValue
  rw [List.foldl_append, foldl_digits]

@[simp]
lemma digitsValue_zeros (k : Nat) : digitsValue (List.replicate k '0') = 0 := by
  induction k with
  | zero => rfl
  | succ k ih =>
    rw [List.replicate_succ', digitsValue_append, ih]
    rfl

@[simp]
lemma digitsValue_zero : digitsValue ['0'] = 0 := rfl

/-- The digits of `n` read back as `n`: the reader of numbers and of doubles fold digits alike. -/
lemma digitsValue_toDigits (n : Nat) : digitsValue (Nat.toDigits 10 n) = n :=
  Json.Reader.digitsValue_toDigits n

/-- A positive number has as many digits as the power of ten just above it. -/
lemma repr_bounds {n : Nat} (hn : 0 < n) :
    10 ^ (n.repr.length - 1) ≤ n ∧ n < 10 ^ n.repr.length := by
  refine ⟨?_, (Nat.length_repr_le_iff Nat.length_repr_pos).1 le_rfl⟩
  rcases Nat.lt_or_ge 1 n.repr.length with h | h
  · refine not_lt.1 fun hlt => ?_
    have := (Nat.length_repr_le_iff (by omega)).2 hlt
    omega
  · rw [show n.repr.length - 1 = 0 by omega]
    exact hn

/-! ## The layouts of a decimal -/

/-- A written exponent, with its sign always there, reads as itself. -/
lemma exponentPart_text (E : Int) :
    exponentPart ((if E < 0 then "-" else "+") ++ Nat.repr E.natAbs).toList = some E := by
  have hne : Nat.toDigits 10 E.natAbs ≠ [] := by
    obtain ⟨d, ds, h⟩ := Json.Value.toDigits_cons E.natAbs
    rw [h]
    exact List.cons_ne_nil _ _
  have hall : (Nat.toDigits 10 E.natAbs).all Char.isDigit = true :=
    List.all_eq_true.2 fun x hx => Json.Reader.isDigit_of_mem_toDigits hx
  split_ifs with h
  · simp [exponentPart, Nat.toList_repr, hne, hall, digitsValue_toDigits, abs_of_neg h]
  · simp [exponentPart, Nat.toList_repr, hne, hall, digitsValue_toDigits,
      abs_of_nonneg (not_lt.1 h)]

/-- **The exponent layout**: one digit, the others after a point, and the exponent. -/
lemma unsignedBits_sciText {c : Char} {t : List Char} (hdig : ∀ x ∈ c :: t, x.isDigit = true)
    (E : Int) :
    unsignedBits ((match c :: t with
        | [c] => String.singleton c
        | c :: rest => String.singleton c ++ "." ++ String.ofList rest
        | [] => "0") ++ "e" ++ (if E < 0 then "-" else "+") ++ Nat.repr E.natAbs).toList =
      some (scaledBits (digitsValue (c :: t)) (E - t.length)) := by
  have hX := exponentPart_text E
  have hc : c.isDigit = true := hdig c (List.mem_cons_self ..)
  cases t with
  | nil =>
    have h := unsignedBits_exponent (W := [c]) (by simpa using hc) (by simp) hX
    simpa using h
  | cons x t =>
    have h := unsignedBits_point (W := [c]) (F := x :: t) (R := 'e' :: _) (E := E)
      (by simpa using hc) (by simp) (fun y hy => hdig y (List.mem_cons_of_mem _ hy))
      (noDigitHead_cons rfl) (.inr ⟨_, rfl, hX⟩)
    simpa [List.singleton_append] using h

/-- **Every layout of a decimal reads as digits at its value**: the whole number with `.0`,
the point inside the digits, the point after `0.` and zeros, and the exponent layout. -/
lemma unsignedBits_digitsText {d : Digits} (hd : 0 < d.digits) :
    ∃ (M : ℕ) (E : ℤ), 0 < M ∧ (M : ℚ) * 10 ^ E = d.value ∧
      unsignedBits (Layout.json.digitsText d).toList = some (scaledBits M E) := by
  obtain ⟨c, t, hds, hc0⟩ := Json.Reader.toDigits_head hd
  have hdig : ∀ x ∈ c :: t, x.isDigit = true := fun x hx =>
    Json.Reader.isDigit_of_mem_toDigits (hds ▸ hx)
  have hval : digitsValue (c :: t) = d.digits := hds ▸ digitsValue_toDigits _
  have hzeros : ∀ k, ∀ x ∈ List.replicate k '0', x.isDigit = true := fun k x hx => by
    rw [List.eq_of_mem_replicate hx]
    rfl
  unfold Layout.digitsText
  simp only [Layout.json, Nat.toList_repr, Option.all_some, decide_eq_true_eq, Bool.and_eq_true,
    hds, List.length_cons]
  split_ifs with h1 h2 h3 h4
  · -- a whole number: the digits, the zeros, and `.0`
    obtain ⟨k, hk⟩ := Int.eq_ofNat_of_zero_le h1.2
    rw [hk, Int.toNat_natCast]
    have hM : digitsValue ((c :: t ++ List.replicate k '0') ++ ['0']) =
        d.digits * 10 ^ (k + 1) := by
      rw [digitsValue_append, digitsValue_append, digitsValue_zeros, hval, digitsValue_zero]
      simp [pow_succ, mul_assoc]
    have htext : (String.ofList (c :: t) ++ Layout.zeros k ++ ".0").toList =
        ((c :: t) ++ List.replicate k '0') ++ '.' :: (['0'] ++ []) := by
      simp [Layout.zeros]
    refine ⟨_, _, ?_, ?_, htext ▸ unsignedBits_point (fun x hx => ?_) (by simp) (by simp)
      noDigitHead_nil (.inl ⟨rfl, rfl⟩)⟩
    · rw [hM]
      positivity
    · rw [hM, Digits.value, hk]
      simp only [List.length_singleton, Nat.cast_one, zero_sub, zpow_neg, zpow_one, zpow_natCast]
      push_cast
      field_simp
      ring
    · rcases List.mem_append.1 hx with hx | hx
      exacts [hdig x hx, hzeros _ x hx]
  · -- the point inside the digits
    have hp : 0 < (↑(t.length + 1) + d.exp).toNat := by omega
    have htext : (String.ofList (List.take (↑(t.length + 1) + d.exp).toNat (c :: t)) ++ "." ++
        String.ofList (List.drop (↑(t.length + 1) + d.exp).toNat (c :: t))).toList =
        List.take (↑(t.length + 1) + d.exp).toNat (c :: t) ++ '.' ::
          (List.drop (↑(t.length + 1) + d.exp).toNat (c :: t) ++ []) := by
      simp
    refine ⟨_, _, ?_, ?_, htext ▸ unsignedBits_point
      (fun x hx => hdig x (List.mem_of_mem_take hx)) ?_
      (fun x hx => hdig x (List.mem_of_mem_drop hx)) noDigitHead_nil (.inl ⟨rfl, rfl⟩)⟩
    · rw [List.take_append_drop, hval]
      exact hd
    · rw [List.take_append_drop, hval, Digits.value, List.length_drop, List.length_cons]
      congr 2
      omega
    · obtain ⟨p, hp'⟩ := Nat.exists_eq_add_of_lt hp
      rw [hp']
      simp
  · -- the point before the digits, after `0.` and zeros
    have htext : ("0." ++ Layout.zeros (-(↑(t.length + 1) + d.exp)).toNat ++
        String.ofList (c :: t)).toList =
        ['0'] ++ '.' :: ((List.replicate (-(↑(t.length + 1) + d.exp)).toNat '0' ++ c :: t) ++
          []) := by
      simp [Layout.zeros]
    refine ⟨_, _, ?_, ?_, htext ▸ unsignedBits_point (by simp) (by simp) (fun x hx => ?_)
      noDigitHead_nil (.inl ⟨rfl, rfl⟩)⟩
    · rw [digitsValue_append, digitsValue_append, digitsValue_zeros, hval, digitsValue_zero]
      simpa using hd
    · simp only [digitsValue_append, digitsValue_zeros, digitsValue_zero, hval, Digits.value,
        zero_mul, zero_add, List.length_append, List.length_replicate, List.length_cons]
      congr 2
      omega
    · rcases List.mem_append.1 hx with hx | hx
      exacts [hzeros _ x hx, hdig x hx]
  all_goals
    -- the exponent layout, with either sign: the exponent is the point's place less one
    have key := unsignedBits_sciText hdig (↑(t.length + 1) + d.exp - 1)
    simp only [*, if_true, if_false] at key
    refine ⟨_, _, hval ▸ hd, ?_, key⟩
    rw [Digits.value]
    congr 2
    omega

/-- A character of a decimal's data text: a digit, the point, the exponent mark or a sign. -/
def DecimalChar (x : Char) : Prop :=
  x.isDigit = true ∨ x = '.' ∨ x = 'e' ∨ x = '+' ∨ x = '-'

/-- A decimal character is neither a comma nor a closing bracket. -/
lemma DecimalChar.unbroken {x : Char} (h : DecimalChar x) :
    x ≠ ',' ∧ x ≠ ']' ∧ x ≠ '}' := by
  rcases h with h | rfl | rfl | rfl | rfl
  · refine ⟨?_, ?_, ?_⟩ <;> rintro rfl <;> simp at h
  all_goals decide

/-- **Every layout of a decimal is written in decimal characters**, with a point or an
exponent. -/
lemma digitsText_chars (d : Digits) :
    (∀ x ∈ (Layout.json.digitsText d).toList, DecimalChar x) ∧
      ('.' ∈ (Layout.json.digitsText d).toList ∨
        'e' ∈ (Layout.json.digitsText d).toList) := by
  have hdig : ∀ n : Nat, ∀ x ∈ Nat.toDigits 10 n, DecimalChar x := fun n x hx =>
    .inl (Json.Reader.isDigit_of_mem_toDigits hx)
  have hmark : ∀ x ∈ ['0', '.', 'e', '+', '-'], DecimalChar x := by simp [DecimalChar]
  unfold Layout.digitsText
  simp only [Layout.json, Nat.toList_repr]
  split_ifs with h1 h2 h3 h4
  · refine ⟨?_, by simp⟩
    simp [Layout.zeros]
    grind
  · refine ⟨?_, by simp⟩
    simp
    grind [List.mem_of_mem_take, List.mem_of_mem_drop]
  · refine ⟨?_, by simp⟩
    simp [Layout.zeros]
    grind
  all_goals
    refine ⟨?_, by simp⟩
    split <;> simp <;> grind

/-! ## Where the reader rounds -/

lemma two_pow_bounds :
    (10 : ℚ) ^ (-330 : ℤ) ≤ 2 ^ (-1075 : ℤ) ∧
      (2 : ℚ) ^ (1024 : ℤ) < 10 ^ (309 : ℤ) := by
  have h₁ : (2 : ℚ) ^ 1075 ≤ 10 ^ 330 := by
    exact_mod_cast (by decide +kernel : (2 : ℕ) ^ 1075 ≤ 10 ^ 330)
  have h₂ : (2 : ℚ) ^ 1024 < 10 ^ 309 := by
    exact_mod_cast (by decide +kernel : (2 : ℕ) ^ 1024 < 10 ^ 309)
  simp only [zpow_neg, zpow_ofNat]
  exact ⟨inv_anti₀ (by positivity) h₁, h₂⟩

namespace Binary

/-- **Every value that rounds to a double lies between `10^-330` and `10^309`**: at least half
the smallest subnormal, and below the largest double plus half its gap. -/
lemma rounds_bounds {b : Binary} (hb : b.Valid) {x : ℚ} (h : b.Rounds x) :
    (10 : ℚ) ^ (-330 : ℤ) ≤ x ∧ x < 10 ^ (309 : ℤ) := by
  have hm1 : (1 : ℚ) ≤ b.mant := by exact_mod_cast hb.mant_pos
  have hm53 : (b.mant : ℚ) + 1 ≤ 2 ^ 53 := by exact_mod_cast hb.mant_lt
  have hlow : (2 : ℚ) ^ (-1075 : ℤ) ≤ 2 * 2 ^ (b.exp - 2) := by
    rw [← zpow_one_add₀ two_ne_zero]
    exact zpow_le_zpow_right₀ one_le_two (by linarith [hb.exp_ge])
  have hhigh : (2 : ℚ) ^ (b.exp - 2) ≤ 2 ^ (969 : ℤ) :=
    zpow_le_zpow_right₀ one_le_two (by linarith [hb.exp_le])
  have h1024 : (2 : ℚ) ^ (1024 : ℤ) = 2 ^ 55 * 2 ^ (969 : ℤ) := by
    rw [← zpow_natCast, ← zpow_add₀ two_ne_zero]
    norm_num
  obtain ⟨h₁, h₂⟩ := two_pow_bounds
  obtain ⟨hl, hh⟩ := h
  constructor
  · -- the low end is at least two quarters of `2^e`
    have : (2 : ℚ) * 2 ^ (b.exp - 2) ≤ (4 * b.mant - if b.lowerCloser then 1 else 2) *
        2 ^ (b.exp - 2) := by
      gcongr
      split <;> linarith
    rcases hl with hl | ⟨hl, -⟩ <;> linarith
  · -- the high end is below `2^1024`
    have : ((4 * b.mant + 2) : ℚ) * 2 ^ (b.exp - 2) < 2 ^ (1024 : ℤ) := by
      rw [h1024]
      calc ((4 * b.mant + 2) : ℚ) * 2 ^ (b.exp - 2) ≤ (4 * b.mant + 2) * 2 ^ (969 : ℤ) := by
            gcongr
        _ < 2 ^ 55 * 2 ^ (969 : ℤ) :=
            mul_lt_mul_of_pos_right (by linarith) (zpow_pos two_pos _)
    rcases hh with hh | ⟨rfl, -⟩
    · exact hh.trans (this.trans h₂)
    · exact this.trans h₂

end Binary

/-- **The reader rounds the value of a double's shortest digits to the double**: the value lies
where `scaledBits` rounds instead of cutting off to zero or infinity. -/
lemma scaledBits_eq {b : Binary} (hb : b.Valid) {M : ℕ} {E : ℤ} (hM : 0 < M)
    (hv : (M : ℚ) * 10 ^ E = b.shortest.value) :
    scaledBits M E = Binary.toBits b.mant b.exp := by
  obtain ⟨hr, -, -⟩ := Binary.shortest_rounds hb
  obtain ⟨hlo, hhi⟩ := Binary.rounds_bounds hb hr
  rw [← hv] at hlo hhi
  obtain ⟨h₁, h₂⟩ := repr_bounds hM
  have hpos : 0 < M.repr.length := Nat.length_repr_pos
  have hten : (0 : ℚ) < 10 ^ E := zpow_pos (by norm_num) _
  -- the value lies in `[10^(E+n-1), 10^(E+n))` for `n` the number of digits of `M`
  have hge : (10 : ℚ) ^ (E + M.repr.length - 1) ≤ M * 10 ^ E := by
    rw [show E + M.repr.length - 1 = ((M.repr.length - 1 : ℕ) : ℤ) + E by omega,
      zpow_add₀ (by norm_num), zpow_natCast]
    exact mul_le_mul_of_nonneg_right (by exact_mod_cast h₁) hten.le
  have hlt : (M : ℚ) * 10 ^ E < 10 ^ (E + M.repr.length) := by
    rw [show E + M.repr.length = (M.repr.length : ℤ) + E by ring, zpow_add₀ (by norm_num),
      zpow_natCast]
    exact mul_lt_mul_of_pos_right (by exact_mod_cast h₂) hten
  have hg₁ : ¬ E + M.repr.length > 310 := fun h => by
    have : (10 : ℚ) ^ (309 : ℤ) ≤ 10 ^ (E + M.repr.length - 1) :=
      zpow_le_zpow_right₀ (by norm_num) (by omega)
    exact lt_irrefl _ (hhi.trans_le (this.trans hge))
  have hg₂ : ¬ E + M.repr.length < -330 := fun h => by
    have : (10 : ℚ) ^ (E + M.repr.length) ≤ 10 ^ (-330 : ℤ) :=
      zpow_le_zpow_right₀ (by norm_num) (by omega)
    exact lt_irrefl _ (hlo.trans_lt (hlt.trans_le this))
  unfold scaledBits
  rw [if_neg (by simp; omega), if_neg hg₁, if_neg hg₂]
  split_ifs with hE
  · obtain ⟨k, rfl⟩ := Int.eq_ofNat_of_zero_le hE
    apply Binary.nearestBits_shortest hb one_pos
    rw [← hv]
    simp
  · obtain ⟨k, hk⟩ := Int.exists_eq_neg_ofNat (le_of_lt (not_le.1 hE))
    apply Binary.nearestBits_shortest hb (Nat.pow_pos (by norm_num))
    rw [← hv, hk]
    simp [div_eq_mul_inv]

/-! ## Sign and magnitude -/

/-- Setting the sign bit of a word below it adds `2^63`. -/
lemma toNat_xor_signBit {u : UInt64} (hu : u.toNat < 2 ^ 63) :
    (u ^^^ 0x8000000000000000).toNat = u.toNat + 2 ^ 63 := by
  rw [UInt64.toNat_xor, show (0x8000000000000000 : UInt64).toNat = 2 ^ 63 from rfl]
  have hmod : (u.toNat ^^^ 2 ^ 63) % 2 ^ 63 = u.toNat := by
    rw [Nat.xor_mod_two_pow, Nat.mod_self, Nat.xor_zero, Nat.mod_eq_of_lt hu]
  have hdiv : (u.toNat ^^^ 2 ^ 63) / 2 ^ 63 = 1 := by
    rw [Nat.xor_div_two_pow, Nat.div_eq_of_lt hu, Nat.div_self (by positivity), Nat.zero_xor]
  have := Nat.div_add_mod (u.toNat ^^^ 2 ^ 63) (2 ^ 63)
  omega

/-- **The sign bit set over the magnitude gives back the bits.** -/
lemma signed_magnitude (bits : UInt64) {u : UInt64} (hu : u.toNat = bits.toNat % 2 ^ 63) :
    (if bits.toNat / 9223372036854775808 == 1 then u ^^^ 0x8000000000000000 else u) = bits := by
  have hlt := bits.toNat_lt
  have hu' : u.toNat < 2 ^ 63 := hu ▸ Nat.mod_lt _ (by positivity)
  apply UInt64.toNat_inj.1
  split_ifs with h
  · rw [toNat_xor_signBit hu', hu]
    simp only [beq_iff_eq] at h
    omega
  · simp only [beq_iff_eq] at h
    omega

namespace Binary

/-- A zero's bits are its sign bit. -/
lemma classifyBits_zero {bits : UInt64} {negative : Bool}
    (h : classifyBits bits = .zero negative) :
    negative = (bits.toNat / 9223372036854775808 == 1) ∧ bits.toNat % 2 ^ 63 = 0 := by
  unfold classifyBits at h
  simp only at h
  split_ifs at h
  cases h
  refine ⟨rfl, ?_⟩
  simp only [beq_iff_eq] at *
  omega

/-- An infinity's bits are its sign bit over the bits of positive infinity. -/
lemma classifyBits_infinite {bits : UInt64} {negative : Bool}
    (h : classifyBits bits = .infinite negative) :
    negative = (bits.toNat / 9223372036854775808 == 1) ∧
      bits.toNat % 2 ^ 63 = (0x7FF0000000000000 : UInt64).toNat := by
  unfold classifyBits at h
  simp only at h
  split_ifs at h
  cases h
  refine ⟨rfl, ?_⟩
  simp only [beq_iff_eq] at *
  simp
  omega

/-- A finite double's bits are its sign bit over the bits `toBits` builds from its significand
and exponent, normal or subnormal. -/
lemma classifyBits_finite {bits : UInt64} {b : Binary} (h : classifyBits bits = .finite b) :
    b.negative = (bits.toNat / 9223372036854775808 == 1) ∧
      (toBits b.mant b.exp).toNat = bits.toNat % 2 ^ 63 := by
  have hlt := bits.toNat_lt
  unfold classifyBits at h
  simp only at h
  split_ifs at h <;> cases h <;> refine ⟨rfl, ?_⟩ <;>
    simp only [beq_iff_eq, Int.ofNat_eq_natCast] at * <;> unfold toBits <;> split_ifs <;>
    simp <;> omega

end Binary

/-! ## The round trip -/

/-- A digit is its own lower case. -/
lemma toLower_of_isDigit {c : Char} (h : c.isDigit = true) : c.toLower = c := by
  have := Json.toNat_of_isDigit h
  unfold Char.toLower
  rw [dif_neg]
  simp [UInt32.le_iff_toNat_le]
  omega

/-- A decimal the reader takes starts with a digit or the point. -/
lemma unsignedBits_head {cs : List Char} {u : UInt64} (h : unsignedBits cs = some u) :
    ∃ c t, cs = c :: t ∧ (c.isDigit = true ∨ c = '.') := by
  cases cs with
  | nil => simp [unsignedBits] at h
  | cons c t =>
    refine ⟨c, t, rfl, ?_⟩
    by_contra hc
    simp only [not_or, Bool.not_eq_true] at hc
    simp [unsignedBits, hc.1, hc.2] at h

/-- **A signed decimal reads as its magnitude with the sign bit set by the sign**: a text
starting with a digit or a point is none of the words the reader knows. -/
lemma parseBits?_signed {cs : List Char} {u : UInt64} (h : unsignedBits cs = some u)
    (negative : Bool) :
    parseBits? ((if negative then "-" else "") ++ String.ofList cs) =
      some (if negative then u ^^^ 0x8000000000000000 else u) := by
  obtain ⟨c, t, rfl, hc⟩ := unsignedBits_head h
  have hl : c.toLower = c := by
    rcases hc with hc | rfl
    · exact toLower_of_isDigit hc
    · rfl
  have hne : ∀ d : Char, d.isDigit = false → d ≠ '.' → d ≠ c := by
    rintro d hd hd' rfl
    rcases hc with hc | hc
    · rw [hc] at hd
      exact Bool.noConfusion hd
    · exact hd' hc
  -- the lowered text starts with `c`, so it is none of the words
  have hw : ∀ w : String, w.toList.head? ≠ some c →
      String.ofList ((c :: t).map Char.toLower) ≠ w := fun w hw he => hw (by
    rw [← he]
    simp [hl])
  have hi := hw "inf" (by simpa using hne 'i' (by decide) (by decide))
  have hf := hw "infinity" (by simpa using hne 'i' (by decide) (by decide))
  have hn := hw "nan" (by simpa using hne 'n' (by decide) (by decide))
  have hsign : c ≠ '-' ∧ c ≠ '+' :=
    ⟨(hne '-' (by decide) (by decide)).symm, (hne '+' (by decide) (by decide)).symm⟩
  simp only [List.map_cons, String.ofList_cons] at hi hf hn
  cases negative <;> simp [parseBits?, hi, hf, hn, h, hsign]

/-- The words for infinity read back with their sign. -/
lemma parseBits?_inf (negative : Bool) :
    parseBits? ((if negative then "-" else "") ++ "inf") =
      some (if negative then 0x7FF0000000000000 ^^^ 0x8000000000000000
        else 0x7FF0000000000000) := by
  cases negative <;> rfl

/-- **Every double but NaN reads back from its data text**: the text of a finite double is a
decimal that rounds to it, and zeros and infinities keep their sign. -/
theorem parseBits?_renderBits {bits : UInt64} (h : Binary.classifyBits bits ≠ .nan) :
    parseBits? (Layout.json.renderBits bits) = some bits := by
  unfold Layout.renderBits
  cases hk : Binary.classifyBits bits <;> dsimp only
  case nan => exact absurd hk h
  case infinite negative =>
    obtain ⟨rfl, hm⟩ := Binary.classifyBits_infinite hk
    rw [show Layout.json.infinity = "inf" from rfl, parseBits?_inf, signed_magnitude bits hm.symm]
  case zero negative =>
    obtain ⟨rfl, hm⟩ := Binary.classifyBits_zero hk
    have hz : unsignedBits ['0', '.', '0'] = some 0 := rfl
    rw [String.append_assoc,
      show "0" ++ Layout.json.wholeMark = String.ofList ['0', '.', '0'] from rfl,
      parseBits?_signed hz, signed_magnitude bits (by simpa using hm.symm)]
  case finite b =>
    have hb := Binary.classifyBits_valid hk
    obtain ⟨hneg, hm⟩ := Binary.classifyBits_finite hk
    obtain ⟨M, E, hM, hv, hread⟩ := unsignedBits_digitsText (Binary.shortest_rounds hb).2.1
    rw [scaledBits_eq hb hM hv] at hread
    rw [← String.ofList_toList (s := Layout.json.digitsText b.shortest), parseBits?_signed hread,
      hneg, signed_magnitude bits hm]

/-- **The data text of a finite double is a decimal**: written in decimal characters, with a
point or an exponent. -/
lemma renderBits_decimal {bits : UInt64} (hnan : Binary.classifyBits bits ≠ .nan)
    (hinf : ∀ negative, Binary.classifyBits bits ≠ .infinite negative) :
    (∀ x ∈ (Layout.json.renderBits bits).toList, DecimalChar x) ∧
      ('.' ∈ (Layout.json.renderBits bits).toList ∨
        'e' ∈ (Layout.json.renderBits bits).toList) := by
  unfold Layout.renderBits
  cases hk : Binary.classifyBits bits <;> dsimp only
  case nan => exact absurd hk hnan
  case infinite negative => exact absurd hk (hinf negative)
  case zero negative => cases negative <;> simp [Layout.json, DecimalChar]
  case finite b =>
    obtain ⟨hc, hp⟩ := digitsText_chars b.shortest
    refine ⟨?_, by cases b.negative <;> simpa using hp⟩
    cases b.negative <;> simp only [String.toList_append, List.mem_append] <;> grind [DecimalChar]

/-- **Distinct doubles other than NaN have distinct data texts.** -/
theorem renderBits_inj {x y : UInt64} (hx : Binary.classifyBits x ≠ .nan)
    (hy : Binary.classifyBits y ≠ .nan)
    (h : Layout.json.renderBits x = Layout.json.renderBits y) : x = y := by
  have := parseBits?_renderBits hx
  rw [h, parseBits?_renderBits hy] at this
  exact (Option.some.inj this).symm

end JobQueue.Decimal
