import JobQueue.Proofs.StampOrder

/-!
# Stored instants: an order embedding on the years 0 to 9999

Every timestamp column holds the text of an instant to the whole second, and every query
compares, orders and reads those texts. This module says exactly where that is sound.

The instants the clock type can hold are the `Instant.Representable` ones: inside the range
from `Instant.minimum` to `Instant.maximum`, and inside a leap second only after second 59 of
a minute. Among them, the *storable* ones (`Instant.Storable`, the years 0 to 9999) are written
in fixed width: their texts compare as the instants truncated to the second, for `≤` and for
every three-way comparison an ordering uses, and reading a text back gives the truncated
instant. Every other representable instant is written with a sign and more digits; its text
sorts before the text of every storable instant, and it cannot be read back.

**Main statements**

* `Stamp.ofInstant_order_embedding` — on storable instants, stored texts compare as the
  truncated instants and read back as them.
* `Stamp.read_ofInstant_unstorable`, `Stamp.ofInstant_lt_of_unstorable` — outside the years 0
  to 9999, reading fails and the text sorts first.
* `Stamp.read_ok_iff` — a representable instant reads back exactly when it is storable.
* `Stamp.read_secs_lt` — whatever a stored text holds, it reads back, if at all, as an instant
  before the second day of the year 10000.
* `Stamp.year_ten_thousand_sorts_first` — the first second of the year 10000 is stored as a
  text that sorts before 1970 and does not read back.
-/

namespace JobQueue

namespace Instant

/-- **An instant the clock type can hold**: within the representable range, and inside a leap
second only when that follows second 59 of a minute. -/
def Representable (t : Instant) : Prop :=
  t.inRange = true ∧ (t.isLeap = true → t.secs % 60 = 59)

instance (t : Instant) : Decidable t.Representable := inferInstanceAs (Decidable (_ ∧ _))

/-- Instants compare as their keys. -/
lemma compare_def (a b : Instant) : compare a b = compare a.key b.key := rfl

end Instant

/-! ## Years outside 0 to 9999 -/

namespace Calendar

/-- Day counts before the year 0 read as dates of negative years. -/
lemma civilFromDays_year_neg {z : Int} (h : z < -719528) : (civilFromDays z).1 < 0 := by
  have hk := dateKey_civilFromDays_lt h
  have hv := civilFromDays_valid z
  rw [civilFromDays_first] at hk
  unfold dateKey at hk
  dsimp only at hk
  omega

/-- Day counts after the year 9999 read as dates of later years. -/
lemma civilFromDays_year_gt {z : Int} (h : 2932896 < z) : 9999 < (civilFromDays z).1 := by
  have hk := dateKey_civilFromDays_lt h
  have hv := civilFromDays_valid z
  have hm := daysInMonth_le (civilFromDays z).1 (civilFromDays z).2.1
  rw [civilFromDays_last] at hk
  unfold dateKey at hk
  dsimp only at hk
  omega

end Calendar

namespace Instant

variable {t a b : Instant}

/-- A representable instant that is not storable lies in a year outside 0 to 9999. -/
lemma year_outside_of_unstorable (hr : t.Representable) (h : ¬ t.Storable) :
    (Civil.ofSeconds t.secs).year < 0 ∨ 9999 < (Civil.ofSeconds t.secs).year := by
  have hrange : t.secs < -62167219200 ∨ 253402300800 ≤ t.secs := by
    by_contra hin
    exact h ⟨by omega, by omega, hr.2⟩
  rw [Civil.ofSeconds_eq]
  rcases hrange with hlo | hhi
  · exact .inl (Calendar.civilFromDays_year_neg (by omega))
  · exact .inr (Calendar.civilFromDays_year_gt (by omega))

/-- **The stored text of a year outside 0 to 9999 starts with its sign.** -/
lemma stamp_toList_unstorable (hr : t.Representable) (h : ¬ t.Storable) :
    ∃ sign rest, (sign = '-' ∨ sign = '+') ∧ t.stamp.toList = sign :: rest := by
  have hy := year_outside_of_unstorable hr h
  have hout : ¬ (0 ≤ (Civil.ofSeconds t.secs).year ∧ (Civil.ofSeconds t.secs).year ≤ 9999) := by
    omega
  by_cases hneg : (Civil.ofSeconds t.secs).year < 0
  · exact ⟨'-', _, .inl rfl, by
      simp only [stamp, format, yearText, hout, hneg, if_false, if_true, String.toList_append]
      rfl⟩
  · exact ⟨'+', _, .inr rfl, by
      simp only [stamp, format, yearText, hout, hneg, if_false, String.toList_append]
      rfl⟩

/-- The stored text of a storable instant starts with a digit of its year. -/
lemma stamp_toList_storable (h : t.Storable) :
    ∃ d rest, d < 10 ∧ t.stamp.toList = Nat.digitChar d :: rest := by
  obtain ⟨c, l, hcl⟩ :=
    List.exists_cons_of_length_pos (by simp : 0 < (decimalDigits 4 t.written.year.toNat).length)
  obtain ⟨d, hd, rfl⟩ :=
    mem_decimalDigits (hcl ▸ List.mem_cons_self : _ ∈ decimalDigits 4 t.written.year.toNat)
  exact ⟨d, _, hd, by rw [stamp_toList h, Civil.stampText, hcl, List.cons_append]⟩

end Instant

namespace Stamp

variable {t a b : Instant}

/-- **Stored texts of storable instants compare three ways as the instants** truncated to the
second; so does every ordering and every comparison of stored instants. -/
theorem compare_ofInstant (ha : a.Storable) (hb : b.Storable) :
    Ord.compare (ofInstant a).text (ofInstant b).text = Ord.compare a.truncSeconds b.truncSeconds := by
  have hlt : (ofInstant a).text < (ofInstant b).text ↔
      a.truncSeconds.key < b.truncSeconds.key := Instant.stamp_lt_iff ha hb
  have heq : (ofInstant a).text = (ofInstant b).text ↔
      a.truncSeconds.key = b.truncSeconds.key := by
    rw [← Instant.truncSeconds_eq_iff]
    exact Instant.stamp_eq_iff ha hb
  rw [Instant.compare_def]
  -- Both sides compare by `<` and `=`, which agree.
  generalize (ofInstant a).text = x at hlt heq
  generalize (ofInstant b).text = y at hlt heq
  change compareOfLessAndEq x y = compareOfLessAndEq a.truncSeconds.key b.truncSeconds.key
  simp only [compareOfLessAndEq, hlt, heq]

/-- **Outside the years 0 to 9999 a stored text does not read back**: it starts with a sign,
which the reader refuses as an invalid character. -/
theorem read_ofInstant_unstorable (hr : t.Representable) (h : ¬ t.Storable) :
    (ofInstant t).read = .error .invalid := by
  obtain ⟨sign, rest, hsign, hs⟩ := Instant.stamp_toList_unstorable hr h
  have hdigit : sign.isDigit = false := by rcases hsign with rfl | rfl <;> rfl
  unfold read
  rw [show (ofInstant t).text = t.stamp from rfl, hs]
  simp only [hdigit, Bool.false_eq_true, if_false]

/-- **Outside the years 0 to 9999 a stored text sorts first**: before the text of every
storable instant, whatever their order in time. -/
theorem ofInstant_lt_of_unstorable (hr : a.Representable) (ha : ¬ a.Storable)
    (hb : b.Storable) : ofInstant a < ofInstant b := by
  obtain ⟨sign, rest, hsign, hs⟩ := Instant.stamp_toList_unstorable hr ha
  obtain ⟨d, rest', hd, hs'⟩ := Instant.stamp_toList_storable hb
  -- Both signs come before the digit characters.
  have hfirst : sign < Nat.digitChar d := by
    rw [Char.lt_def, UInt32.lt_iff_toNat_lt]
    change sign.toNat < (Nat.digitChar d).toNat
    have hsmall : sign.toNat < 48 := by rcases hsign with rfl | rfl <;> decide
    rw [Nat.toNat_digitChar_of_lt_ten hd]
    omega
  change a.stamp < b.stamp
  rw [String.lt_iff, hs, hs']
  exact List.Lex.rel hfirst

/-- **A representable instant reads back from its stored text exactly when it is storable.** -/
theorem read_ok_iff (hr : t.Representable) :
    (∃ u, (ofInstant t).read = .ok u) ↔ t.Storable := by
  constructor
  · rintro ⟨u, hu⟩
    by_contra h
    rw [read_ofInstant_unstorable hr h] at hu
    cases hu
  · intro h
    exact ⟨_, read_ofInstant h⟩

/-- **The stored form is an order embedding with a left inverse on the years 0 to 9999**: for
storable instants, stored texts compare, with `≤` and three ways, as the instants truncated to
the second, and reading a stored text back gives the truncated instant. -/
theorem ofInstant_order_embedding (ha : a.Storable) (hb : b.Storable) :
    (ofInstant a ≤ ofInstant b ↔ a.truncSeconds ≤ b.truncSeconds) ∧
      Ord.compare (ofInstant a).text (ofInstant b).text = Ord.compare a.truncSeconds b.truncSeconds ∧
      (ofInstant a).read = .ok a.truncSeconds :=
  ⟨ofInstant_le_iff ha hb, compare_ofInstant ha hb, read_ofInstant ha⟩

/-- The epoch and the first second of 2024 are storable, and their stored texts compare and
read back as the instants. -/
theorem order_embedding_epoch :
    (Instant.ofSeconds 0).Storable ∧ (Instant.ofSeconds 1704067200).Storable ∧
      ((ofInstant (.ofSeconds 0) ≤ ofInstant (.ofSeconds 1704067200) ↔
          (Instant.ofSeconds 0).truncSeconds ≤ (Instant.ofSeconds 1704067200).truncSeconds) ∧
        Ord.compare (ofInstant (.ofSeconds 0)).text (ofInstant (.ofSeconds 1704067200)).text =
          Ord.compare (Instant.ofSeconds 0).truncSeconds (Instant.ofSeconds 1704067200).truncSeconds ∧
        (ofInstant (.ofSeconds 0)).read = .ok (Instant.ofSeconds 0).truncSeconds) :=
  ⟨by decide, by decide, ofInstant_order_embedding (by decide) (by decide)⟩

/-- **The first second of the year 10000** is stored as a text that sorts before the epoch's,
though it comes later, and that does not read back. -/
theorem year_ten_thousand_sorts_first :
    ofInstant (.ofSeconds 253402300800) ≤ ofInstant (.ofSeconds 0) ∧
      (Instant.ofSeconds 0).truncSeconds < (Instant.ofSeconds 253402300800).truncSeconds ∧
      (ofInstant (.ofSeconds 253402300800)).read = .error .invalid := by
  have hr : (Instant.ofSeconds 253402300800).Representable := by decide
  have hs : ¬ (Instant.ofSeconds 253402300800).Storable := by decide
  have hlt := ofInstant_lt_of_unstorable hr hs (b := .ofSeconds 0) (by decide)
  refine ⟨?_, by decide, read_ofInstant_unstorable hr hs⟩
  change ¬ (Instant.ofSeconds 0).stamp < (Instant.ofSeconds 253402300800).stamp
  exact List.lt_asymm hlt

end Stamp

/-! ## What a stored text reads back as -/

/-- A step that may fail followed by another succeeds exactly when both do. -/
lemma except_bind_eq_ok {ε α β : Type} {x : Except ε α} {f : α → Except ε β} {b : β} :
    x >>= f = .ok b ↔ ∃ a, x = .ok a ∧ f a = .ok b := by
  cases x <;> simp [bind, Except.bind]

namespace Timestamp

variable {cs r : List Char}

lemma throw_ne_ok {α : Type} {e : StampError} {a : α} : (throw e : Reading α) ≠ .ok a := nofun

lemma isDigit_iff {c : Char} : c.isDigit = true ↔ 48 ≤ c.toNat ∧ c.toNat ≤ 57 := by
  simp only [Char.isDigit, Bool.and_eq_true, decide_eq_true_eq, UInt32.le_iff_toNat_le]
  rfl

lemma digit_value_lt {c : Char} (h : c.isDigit = true) : c.toNat - '0'.toNat < 10 := by
  have := isDigit_iff.1 h
  change c.toNat - 48 < 10
  omega

lemma isBlank_of_isDigit {c : Char} (h : c.isDigit = true) : Text.isBlank c = false := by
  have := isDigit_iff.1 h
  unfold Text.isBlank
  simp only [Bool.or_eq_false_iff, Bool.and_eq_false_imp, decide_eq_true_eq, beq_eq_false_iff_ne,
    decide_eq_false_iff_not]
  omega

/-- A numeral of `k` digits after `acc` stays below `(acc + 1)·10^k`. -/
lemma foldl_digits_lt {ds : List Char} (hd : ∀ c ∈ ds, c.isDigit = true) (acc : Nat) :
    ds.foldl (fun acc c => acc * 10 + (c.toNat - '0'.toNat)) acc < (acc + 1) * 10 ^ ds.length := by
  induction ds generalizing acc with
  | nil => simp
  | cons c ds ih =>
    have hc := digit_value_lt (hd c List.mem_cons_self)
    have hrest := ih (fun c h => hd c (List.mem_cons_of_mem _ h)) (acc * 10 + (c.toNat - '0'.toNat))
    calc _ < (acc * 10 + (c.toNat - '0'.toNat) + 1) * 10 ^ ds.length := hrest
      _ ≤ (acc + 1) * 10 * 10 ^ ds.length := Nat.mul_le_mul_right _ (by omega)
      _ = (acc + 1) * 10 ^ (c :: ds).length := by rw [List.length_cons, pow_succ]; ring

/-- **What a number reading consumes**: `k` characters, at most `hi`, whose value is below
`10^k`. -/
lemma digits_eq_ok {lo hi n : Nat} (h : digits cs lo hi = .ok (n, r)) :
    ∃ k ≤ hi, k ≤ cs.length ∧ r = cs.drop k ∧ n < 10 ^ k := by
  unfold digits at h
  dsimp only at h
  split_ifs at h
  cases h
  have hsub := (List.takeWhile_sublist Char.isDigit (l := cs.take hi)).length_le
  rw [List.length_take] at hsub
  refine ⟨_, by omega, by omega, rfl, ?_⟩
  simpa using foldl_digits_lt (fun c hc => List.mem_takeWhile_imp hc) 0

/-- A field read lies within its bounds. -/
lemma field_eq_ok {w lo hi n : Nat} (h : field cs w lo hi = .ok (n, r)) :
    lo ≤ n ∧ n ≤ hi := by
  unfold field at h
  simp only [except_bind_eq_ok, Prod.exists] at h
  obtain ⟨m, r', -, h⟩ := h
  split_ifs at h with hb
  · cases h
  · cases h
    simp only [Bool.or_eq_true, decide_eq_true_eq, not_or] at hb
    omega

/-- A year read from a text that starts with a digit has at most four digits. -/
lemma year_eq_ok_of_digit {c : Char} {y : Int} (hc : c.isDigit = true)
    (h : year (c :: cs) = .ok (y, r)) : 0 ≤ y ∧ y < 10000 := by
  unfold year at h
  rw [dropBlank_cons (isBlank_of_isDigit hc)] at h
  split at h
  · obtain ⟨rfl, -⟩ := List.cons.inj ‹c :: cs = '-' :: _›
    exact absurd hc (by decide)
  · obtain ⟨rfl, -⟩ := List.cons.inj ‹c :: cs = '+' :: _›
    exact absurd hc (by decide)
  · simp only [except_bind_eq_ok, Prod.exists] at h
    obtain ⟨n, r', hd, h⟩ := h
    cases h
    obtain ⟨k, hk, -, -, hn⟩ := digits_eq_ok hd
    have : 10 ^ k ≤ 10 ^ 4 := Nat.pow_le_pow_right (by decide) hk
    omega

/-- A fraction read is under a second. -/
lemma fraction_eq_ok {n : Nat} (h : fraction cs = .ok (n, r)) : n < 10 ^ 9 := by
  unfold fraction at h
  split at h
  · rename_i rest
    simp only [except_bind_eq_ok, Prod.exists] at h
    obtain ⟨m, r', hd, h⟩ := h
    cases h
    obtain ⟨k, hk, hlen, rfl, hm⟩ := digits_eq_ok hd
    have hused : rest.length - (rest.drop k).length = k := by
      rw [List.length_drop]
      omega
    rw [hused]
    calc m * Nat.pow 10 (9 - k) < 10 ^ k * 10 ^ (9 - k) :=
          Nat.mul_lt_mul_of_pos_right hm (Nat.pow_pos (by decide))
      _ = 10 ^ 9 := by rw [← pow_add]; congr 1; omega
  · cases h
    decide

/-- **The fields read lie within their bounds**, and a text that starts with a digit has a
year from 0 to 9999. -/
lemma fields_eq_ok {s : String} {f : Fields} {rest : List Char} (h : fields s = .ok (f, rest)) :
    f.month ≤ 12 ∧ f.day ≤ 31 ∧ f.hour ≤ 23 ∧ f.minute ≤ 59 ∧ f.nanos < 10 ^ 9 ∧
      ∀ c cs, s.toList = c :: cs → c.isDigit = true → 0 ≤ f.year ∧ f.year < 10000 := by
  simp only [fields, except_bind_eq_ok, Prod.exists] at h
  obtain ⟨y, cs₁, hy, cs₂, -, mo, cs₃, hmo, cs₄, -, d, cs₅, hd, h⟩ := h
  split at h
  · split_ifs at h
    · simp only [pure_bind, except_bind_eq_ok, Prod.exists] at h
      obtain ⟨hr, cs₆, hhr, cs₇, -, mi, cs₈, hmi, cs₉, -, sec, cs₁₀, -, ns, cs₁₁, hns, off, cs₁₂, -,
        h⟩ := h
      cases h
      refine ⟨(field_eq_ok hmo).2, (field_eq_ok hd).2, (field_eq_ok hhr).2, (field_eq_ok hmi).2,
        fraction_eq_ok hns, fun c cs hs hc => ?_⟩
      rw [hs] at hy
      exact year_eq_ok_of_digit hc hy
    · obtain ⟨_, h, -⟩ := except_bind_eq_ok.1 h
      cases h
  · obtain ⟨_, h, -⟩ := except_bind_eq_ok.1 h
    cases h

end Timestamp

namespace Instant

/-- **What a successful reading returns**: the wall-clock fields, moved by an offset under a
day, with second 60 as a leap second. -/
lemma parse_eq_ok {s : String} {u : Instant} (h : parse s = .ok u) :
    ∃ f rest, Timestamp.fields s = .ok (f, rest) ∧ -86400 < f.offset ∧ f.offset < 86400 ∧
      u.inRange = true ∧
      u = within (Civil.toSeconds ⟨f.year, f.month, f.day, f.hour, f.minute, min f.second 59⟩ -
        f.offset) (f.nanos + if f.second == 60 then nanosPerSecond else 0) := by
  simp only [parse, except_bind_eq_ok, Prod.exists] at h
  obtain ⟨f, rest, hf, h⟩ := h
  generalize hleap : (if (f.second == 60) = true then nanosPerSecond else 0) = leap at h
  -- Each failed check throws; only the last branch returns.
  -- Each failed check throws; only the last branch returns.
  split_ifs at h <;>
    simp only [except_bind_eq_ok, Timestamp.throw_ne_ok, false_and, exists_false, pure,
      Except.pure, Except.ok.injEq] at h
  rename_i hoff hin
  subst h hleap
  simp only [Bool.or_eq_true, decide_eq_true_eq, not_or] at hoff
  exact ⟨f, rest, hf, by omega, by omega, hin, rfl⟩


lemma within_secs {secs frac : Int} (h₀ : 0 ≤ frac) (h₁ : frac < 2000000000) :
    (within secs frac).secs = secs := by
  simp only [within, h₀, h₁, and_self, dite_true]

end Instant

namespace Civil

/-- A calendar reading of a year up to 9999 falls before the year 10000. -/
lemma toSeconds_lt {c : Civil} (hy : c.year < 10000) (hm : c.month ≤ 12) (hd : c.day ≤ 31)
    (hh : c.hour ≤ 23) (hmi : c.minute ≤ 59) (hs : c.second ≤ 59) :
    c.toSeconds < 253402300800 := by
  unfold toSeconds daysFromCivil
  dsimp only
  split_ifs <;> omega

end Civil

namespace Stamp

/-- **A stored text reads back, if at all, as an instant before the second day of the year
10000**: the reader takes a four-digit year and an offset under a day. -/
theorem read_secs_lt {s : Stamp} {u : Instant} (h : s.read = .ok u) :
    u.inRange = true ∧ u.secs < 253402387200 := by
  unfold read at h
  split at h
  · rename_i c cs hcs
    split_ifs at h with hc
    obtain ⟨f, rest, hf, ho₁, ho₂, hin, hu⟩ := Instant.parse_eq_ok h
    obtain ⟨hm, hd, hh, hmi, hn, hy⟩ := Timestamp.fields_eq_ok hf
    have hw := Civil.toSeconds_lt
      (c := ⟨f.year, f.month, f.day, f.hour, f.minute, min f.second 59⟩)
      (hy c cs hcs hc).2 hm hd hh hmi (Nat.min_le_right _ _)
    have hleap : (if (f.second == 60) = true then nanosPerSecond else 0) ≤ 1000000000 := by
      unfold nanosPerSecond; split <;> omega
    refine ⟨hin, ?_⟩
    rw [hu, Instant.within_secs (by omega) (by omega)]
    omega
  · cases h

end Stamp

end JobQueue
