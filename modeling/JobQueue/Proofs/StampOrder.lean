import JobQueue.Proofs.Calendar
import JobQueue.Queue.Stamp
import Mathlib.Tactic.Ring
import Mathlib.Data.List.TakeWhile

/-!
# Stored timestamps: their order, and reading them back

The queue stores an instant as the text `YYYY-MM-DDTHH:MM:SSZ` and compares stored instants as
texts. This module shows when that is sound. For a *storable* instant (`Instant.Storable`:
in the years 0 to 9999, and inside a leap second only in the one after second 59 of a minute)
every field of the text has its fixed width, so the texts of two storable instants compare
as the instants do, truncated to the second; and reading the text back gives that truncated
instant.

The text is handled as digits: `decimalDigits w n` is the last `w` digits of `n`, padding
writes exactly that (`padNat_toList`), fixed-width numerals compare as their values
(`decimalDigits_lt_iff`), and reading them back gives the value (`Timestamp.digits_decimalDigits`).

**Main statements**

* `Instant.stamp_lt_iff` — the stored texts of storable instants are in the order of the
  instants truncated to the second.
* `Stamp.read_ofInstant` — reading back the stored text of a storable instant gives the instant
  truncated to the second.
-/

namespace JobQueue

/-! ## Fixed-width decimal numerals -/

/-- The last `w` decimal digits of `n`, most significant first. -/
def decimalDigits : Nat → Nat → List Char
  | 0, _ => []
  | w + 1, n => decimalDigits w (n / 10) ++ [Nat.digitChar (n % 10)]

section Digits

@[simp] lemma decimalDigits_length (w n : Nat) : (decimalDigits w n).length = w := by
  induction w generalizing n with
  | zero => rfl
  | succ w ih => simp [decimalDigits, ih]

lemma decimalDigits_zero (w : Nat) : decimalDigits w 0 = List.replicate w '0' := by
  induction w with
  | zero => rfl
  | succ w ih => simp [decimalDigits, ih, List.replicate_succ']

/-- Every character of a numeral is the character of a digit. -/
lemma mem_decimalDigits {w n : Nat} {c : Char} (h : c ∈ decimalDigits w n) :
    ∃ d, d < 10 ∧ c = Nat.digitChar d := by
  induction w generalizing n with
  | zero => cases h
  | succ w ih =>
    simp only [decimalDigits, List.mem_append, List.mem_singleton] at h
    rcases h with h | rfl
    · exact ih h
    · exact ⟨_, Nat.mod_lt n (by decide), rfl⟩

/-- **Padding a number to width `w`** writes its last `w` digits, when it has at most `w`. -/
lemma padNat_toList {w n : Nat} (hw : 0 < w) (hn : n < 10 ^ w) :
    (padNat n w).toList = decimalDigits w n := by
  induction w generalizing n with
  | zero => omega
  | succ w ih =>
    simp only [padNat, String.toList_ofList, Nat.toList_repr]
    rcases Nat.lt_or_ge n 10 with hlt | hge
    · -- One digit, after `w` zeros.
      rw [Nat.toDigits_of_lt_base hlt, decimalDigits, Nat.div_eq_of_lt hlt, Nat.mod_eq_of_lt hlt,
        decimalDigits_zero]
      simp
    · -- The digits of `n / 10`, padded to `w`, then the last digit.
      have hw' : 0 < w := by
        rcases Nat.eq_zero_or_pos w with rfl | h
        · simp at hn
          omega
        · exact h
      have hq : n / 10 < 10 ^ w := by
        rw [Nat.pow_succ] at hn
        omega
      have ih' := ih hw' hq
      simp only [padNat, String.toList_ofList, Nat.toList_repr] at ih'
      rw [Nat.toDigits_of_base_le (by decide) hge, decimalDigits, ← ih', List.length_append,
        List.length_singleton, Nat.add_sub_add_right, List.append_assoc]

lemma digitChar_lt_digitChar {a b : Nat} (ha : a < 10) (hb : b < 10) :
    Nat.digitChar a < Nat.digitChar b ↔ a < b := by
  rw [Char.lt_def, UInt32.lt_iff_toNat_lt]
  change (Nat.digitChar a).toNat < (Nat.digitChar b).toNat ↔ a < b
  rw [Nat.toNat_digitChar_of_lt_ten ha, Nat.toNat_digitChar_of_lt_ten hb]
  omega

lemma digitChar_inj {a b : Nat} (ha : a < 10) (hb : b < 10) :
    Nat.digitChar a = Nat.digitChar b ↔ a = b := by
  rw [← Char.toNat_inj, Nat.toNat_digitChar_of_lt_ten ha, Nat.toNat_digitChar_of_lt_ten hb]
  omega

/-- Lists that agree in length up to a point compare first up to there, then after it. -/
lemma append_lt_append_iff {l₁ l₂ r₁ r₂ : List Char} (h : l₁.length = l₂.length) :
    l₁ ++ r₁ < l₂ ++ r₂ ↔ l₁ < l₂ ∨ (l₁ = l₂ ∧ r₁ < r₂) := by
  induction l₁ generalizing l₂ with
  | nil =>
    cases l₂ with
    | nil => simp only [List.nil_append, List.not_lt_nil, false_or, true_and]
    | cons => simp at h
  | cons a l₁ ih =>
    cases l₂ with
    | nil => simp at h
    | cons b l₂ =>
      simp only [List.cons_append, List.cons_lt_cons_iff, List.cons.injEq]
      rw [ih (by simpa using h)]
      tauto

lemma decimalDigits_inj {w a b : Nat} (ha : a < 10 ^ w) (hb : b < 10 ^ w) :
    decimalDigits w a = decimalDigits w b ↔ a = b := by
  induction w generalizing a b with
  | zero =>
    simp only [Nat.pow_zero] at ha hb
    simp only [decimalDigits, true_iff]
    omega
  | succ w ih =>
    rw [Nat.pow_succ] at ha hb
    refine ⟨fun h => ?_, fun h => h ▸ rfl⟩
    obtain ⟨hq, hr⟩ := List.append_inj h (by simp)
    have hq' := (ih (by omega) (by omega)).1 hq
    have hr' := (digitChar_inj (Nat.mod_lt a (by decide)) (Nat.mod_lt b (by decide))).1
      (List.singleton_inj.1 hr)
    omega

/-- **Fixed-width numerals compare as their values.** -/
lemma decimalDigits_lt_iff {w a b : Nat} (ha : a < 10 ^ w) (hb : b < 10 ^ w) :
    decimalDigits w a < decimalDigits w b ↔ a < b := by
  induction w generalizing a b with
  | zero =>
    simp only [Nat.pow_zero] at ha hb
    simp only [decimalDigits, List.not_lt_nil, false_iff]
    omega
  | succ w ih =>
    rw [Nat.pow_succ] at ha hb
    have hs : ∀ {c d : Char}, [c] < [d] ↔ c < d := by
      intro c d
      simp only [List.cons_lt_cons_iff, List.not_lt_nil, and_false, or_false]
    rw [decimalDigits, decimalDigits, append_lt_append_iff (by simp), ih (by omega) (by omega),
      decimalDigits_inj (by omega) (by omega), hs, digitChar_lt_digitChar (Nat.mod_lt _ (by decide))
      (Nat.mod_lt _ (by decide))]
    omega

end Digits

/-! ## Reading fixed-width numerals back -/

section Reading

/-- Reading the digits of a numeral onto `acc` appends its value. -/
lemma foldl_decimalDigits (w n acc : Nat) :
    (decimalDigits w n).foldl (fun acc c => acc * 10 + (c.toNat - '0'.toNat)) acc =
      acc * 10 ^ w + n % 10 ^ w := by
  induction w generalizing n acc with
  | zero => simp [decimalDigits, Nat.mod_one]
  | succ w ih =>
    have h0 : '0'.toNat = 48 := rfl
    have hm : n % 10 ^ (w + 1) = n % 10 + 10 * (n / 10 % 10 ^ w) := by
      rw [Nat.pow_succ', Nat.mod_mul]
    rw [decimalDigits, List.foldl_append, ih, List.foldl_cons, List.foldl_nil, h0,
      Nat.toNat_digitChar_of_lt_ten (Nat.mod_lt n (by decide)), Nat.add_sub_cancel_left, hm,
      Nat.pow_succ]
    ring

lemma isBlank_digitChar {d : Nat} (h : d < 10) : Text.isBlank (Nat.digitChar d) = false := by
  simp only [Text.isBlank, Nat.toNat_digitChar_of_lt_ten h]
  simp
  omega

lemma dropBlank_cons {c : Char} (h : Text.isBlank c = false) (cs : List Char) :
    Text.dropBlank (c :: cs) = c :: cs := by
  simp [Text.dropBlank, h]

/-- A numeral starts with no blank. -/
lemma dropBlank_decimalDigits {w : Nat} (hw : 0 < w) (n : Nat) (rest : List Char) :
    Text.dropBlank (decimalDigits w n ++ rest) = decimalDigits w n ++ rest := by
  obtain ⟨c, l, hcl⟩ :=
    List.exists_cons_of_length_pos (by simpa using hw : 0 < (decimalDigits w n).length)
  obtain ⟨d, hd, rfl⟩ := mem_decimalDigits (hcl ▸ List.mem_cons_self : _ ∈ decimalDigits w n)
  rw [hcl, List.cons_append, dropBlank_cons (isBlank_digitChar hd)]

/-- **Reading a numeral of at most four digits** gives its value and the text after it. -/
lemma Timestamp.digits_decimalDigits {w lo n : Nat} (rest : List Char) (hw : 0 < w)
    (hw4 : w ≤ 4) (hlo : lo ≤ w) (hn : n < 10 ^ w) :
    Timestamp.digits (decimalDigits w n ++ rest) lo w = .ok (n, rest) := by
  have htake : ((decimalDigits w n ++ rest).take w).takeWhile Char.isDigit = decimalDigits w n := by
    rw [List.take_left' (decimalDigits_length w n), List.takeWhile_eq_self_iff]
    intro c hc
    obtain ⟨d, hd, rfl⟩ := mem_decimalDigits hc
    rw [Nat.isDigit_digitChar]
    exact decide_eq_true hd
  have hsmall : n < 10000 :=
    Nat.lt_of_lt_of_le hn ((Nat.pow_le_pow_right (by decide) hw4).trans (by decide))
  have hne : (decimalDigits w n ++ rest).isEmpty = false := by
    obtain ⟨c, l, hcl⟩ :=
      List.exists_cons_of_length_pos (by simpa using hw : 0 < (decimalDigits w n).length)
    rw [hcl]
    rfl
  unfold Timestamp.digits
  simp only [htake, hne, decimalDigits_length, foldl_decimalDigits, Nat.zero_mul, Nat.zero_add,
    Nat.mod_eq_of_lt hn, List.drop_left' (decimalDigits_length w n), Bool.false_and,
    Bool.false_eq_true, ↓reduceIte]
  rw [if_neg (by omega), if_neg (by omega)]

lemma Timestamp.literal_cons (c : Char) (cs : List Char) : Timestamp.literal (c :: cs) c = .ok cs := by
  simp [Timestamp.literal]

/-- Reading a field of two digits in its range. -/
lemma Timestamp.field_decimalDigits {n lo hi : Nat} (rest : List Char) (hlo : lo ≤ n)
    (hhi : n ≤ hi) (hn : n < 100) :
    Timestamp.field (decimalDigits 2 n ++ rest) 2 lo hi = .ok (n, rest) := by
  unfold Timestamp.field
  rw [dropBlank_decimalDigits (by decide), Timestamp.digits_decimalDigits rest (by decide)
    (by decide) (by decide) hn]
  simp only [bind, Except.bind, pure, Except.pure]
  rw [if_neg (by simp; omega)]

/-- Reading a year of four digits. -/
lemma Timestamp.year_decimalDigits {y : Nat} (rest : List Char) (hy : y < 10000) :
    Timestamp.year (decimalDigits 4 y ++ rest) = .ok ((y : Int), rest) := by
  obtain ⟨c, l, hcl⟩ :=
    List.exists_cons_of_length_pos (by simp : 0 < (decimalDigits 4 y).length)
  obtain ⟨d, hd, hc⟩ := mem_decimalDigits (hcl ▸ List.mem_cons_self : _ ∈ decimalDigits 4 y)
  unfold Timestamp.year
  rw [dropBlank_decimalDigits (by decide)]
  -- The year starts with a digit, so with no sign.
  split
  · rename_i h
    rw [hcl, List.cons_append, List.cons.injEq] at h
    rw [h.1] at hc
    exact absurd (congrArg Char.isDigit hc) (by rw [Nat.isDigit_digitChar]; simp [hd])
  · rename_i h
    rw [hcl, List.cons_append, List.cons.injEq] at h
    rw [h.1] at hc
    exact absurd (congrArg Char.isDigit hc) (by rw [Nat.isDigit_digitChar]; simp [hd])
  · rw [Timestamp.digits_decimalDigits rest (by decide) (le_refl 4) (by decide) hy]
    rfl

end Reading

/-! ## The stored text of a calendar reading -/

namespace Civil

/-- The characters of the stored text of a calendar reading. -/
def stampText (c : Civil) : List Char :=
  decimalDigits 4 c.year.toNat ++ '-' :: (decimalDigits 2 c.month ++ '-' ::
    (decimalDigits 2 c.day ++ 'T' :: (decimalDigits 2 c.hour ++ ':' ::
      (decimalDigits 2 c.minute ++ ':' :: (decimalDigits 2 c.second ++ ['Z'])))))

/-- The fields of a calendar reading as one number, in the order of its stored text. -/
def stampKey (c : Civil) : Nat :=
  (c.year.toNat * 10000 + c.month * 100 + c.day) * 1000000 +
    (c.hour * 10000 + c.minute * 100 + c.second)

/-- A reading whose fields fit their widths in the stored text. -/
def Fits (c : Civil) : Prop :=
  c.year.toNat < 10000 ∧ c.month < 100 ∧ c.day < 100 ∧ c.hour < 100 ∧ c.minute < 100 ∧
    c.second < 100

variable {c₁ c₂ : Civil}

/-- **The key orders readings by date first**: a reading on an earlier date has the smaller
key, whatever the times of day, when the fields fit their widths. -/
lemma stampKey_lt_of_date (h₁ : c₁.Fits) (h₂ : c₂.Fits) (hy₁ : 0 ≤ c₁.year) (hy₂ : 0 ≤ c₂.year)
    (hdate : c₁.year < c₂.year ∨ c₁.year = c₂.year ∧
      (c₁.month < c₂.month ∨ c₁.month = c₂.month ∧ c₁.day < c₂.day)) :
    c₁.stampKey < c₂.stampKey := by
  obtain ⟨-, hmo₁, hd₁, hh₁, hmi₁, hs₁⟩ := h₁
  obtain ⟨-, hmo₂, hd₂, -⟩ := h₂
  unfold stampKey
  omega

/-- On one date, the key orders readings by their times of day. -/
lemma stampKey_lt_of_time (hy : c₁.year = c₂.year) (hmo : c₁.month = c₂.month)
    (hd : c₁.day = c₂.day)
    (ht : c₁.hour * 10000 + c₁.minute * 100 + c₁.second <
      c₂.hour * 10000 + c₂.minute * 100 + c₂.second) :
    c₁.stampKey < c₂.stampKey := by
  unfold stampKey
  rw [hy, hmo, hd]
  exact Nat.add_lt_add_left ht _

/-- Within a day, a later second has the larger time of day as the key writes it, a leap
second counting as the 60th second of its minute. -/
lemma timeKey_lt {x y la lb : Nat} (h : x < y) (hla : la ≤ 1) (hla59 : la = 1 → x % 60 = 59) :
    x / 3600 * 10000 + x % 3600 / 60 * 100 + (x % 60 + la) <
      y / 3600 * 10000 + y % 3600 / 60 * 100 + (y % 60 + lb) := by
  omega

/-- Two texts that go on with the same separator after numerals of one width compare on the
numerals, then on what follows. -/
lemma segment_lt_iff {w a b : Nat} {c : Char} {r₁ r₂ : List Char} (ha : a < 10 ^ w)
    (hb : b < 10 ^ w) :
    decimalDigits w a ++ c :: r₁ < decimalDigits w b ++ c :: r₂ ↔ a < b ∨ (a = b ∧ r₁ < r₂) := by
  rw [append_lt_append_iff (by simp), decimalDigits_lt_iff ha hb, decimalDigits_inj ha hb,
    List.cons_lt_cons_iff]
  simp only [Char.lt_irrefl, false_or, true_and]

/-- **Stored texts compare as their fields**, from the year down to the second. -/
lemma stampText_lt_iff (h₁ : c₁.Fits) (h₂ : c₂.Fits) :
    c₁.stampText < c₂.stampText ↔ c₁.stampKey < c₂.stampKey := by
  obtain ⟨hy₁, hmo₁, hd₁, hh₁, hmi₁, hs₁⟩ := h₁
  obtain ⟨hy₂, hmo₂, hd₂, hh₂, hmi₂, hs₂⟩ := h₂
  unfold stampText stampKey
  rw [segment_lt_iff hy₁ hy₂, segment_lt_iff hmo₁ hmo₂, segment_lt_iff hd₁ hd₂,
    segment_lt_iff hh₁ hh₂, segment_lt_iff hmi₁ hmi₂, segment_lt_iff hs₁ hs₂]
  simp only [List.not_lt_nil, and_false, or_false]
  omega

/-- Stored texts are equal exactly when their fields are. -/
lemma stampText_inj (h₁ : c₁.Fits) (h₂ : c₂.Fits) :
    c₁.stampText = c₂.stampText ↔ c₁.stampKey = c₂.stampKey := by
  constructor
  · intro h
    have hl := (stampText_lt_iff h₁ h₂).not.1 (h ▸ List.lt_irrefl _)
    have hr := (stampText_lt_iff h₂ h₁).not.1 (h ▸ List.lt_irrefl _)
    omega
  · intro h
    obtain ⟨hy₁, hmo₁, hd₁, hh₁, hmi₁, hs₁⟩ := h₁
    obtain ⟨hy₂, hmo₂, hd₂, hh₂, hmi₂, hs₂⟩ := h₂
    unfold stampKey at h
    have hy : c₁.year.toNat = c₂.year.toNat ∧ c₁.month = c₂.month ∧ c₁.day = c₂.day ∧
        c₁.hour = c₂.hour ∧ c₁.minute = c₂.minute ∧ c₁.second = c₂.second := by
      omega
    simp only [stampText, hy]

end Civil

/-- **Reading a stored text** gives its fields, when they are a date and a time of day. -/
lemma Timestamp.fields_stampText {s : String} {c : Civil} (hs : s.toList = c.stampText)
    (hy : 0 ≤ c.year ∧ c.year < 10000) (hmo : 1 ≤ c.month ∧ c.month ≤ 12)
    (hd : 1 ≤ c.day ∧ c.day ≤ 31) (hh : c.hour ≤ 23) (hmi : c.minute ≤ 59)
    (hsec : c.second ≤ 60) :
    Timestamp.fields s = .ok
      ({ year := c.year, month := c.month, day := c.day, hour := c.hour, minute := c.minute,
         second := c.second }, []) := by
  have hdash : Text.isBlank '-' = false := by decide
  have hcolon : Text.isBlank ':' = false := by decide
  have hyear : ∀ rest, Timestamp.year (decimalDigits 4 c.year.toNat ++ rest) = .ok (c.year, rest) := by
    intro rest
    rw [Timestamp.year_decimalDigits _ (by omega), Int.toNat_of_nonneg hy.1]
  unfold Timestamp.fields
  rw [hs, Civil.stampText]
  simp only [hyear, dropBlank_cons hdash, dropBlank_cons hcolon, Timestamp.literal_cons,
    Timestamp.field_decimalDigits _ hmo.1 hmo.2 (by omega),
    Timestamp.field_decimalDigits _ hd.1 hd.2 (by omega),
    Timestamp.field_decimalDigits _ (Nat.zero_le c.hour) hh (by omega),
    Timestamp.field_decimalDigits _ (Nat.zero_le c.minute) hmi (by omega),
    Timestamp.field_decimalDigits _ (Nat.zero_le c.second) hsec (by omega),
    bind, Except.bind, pure, Except.pure, beq_self_eq_true, Bool.true_or, ↓reduceIte]
  rfl

/-! ## Storable instants -/

namespace Civil

lemma ofSeconds_eq (s : Int) :
    ofSeconds s = ⟨(civilFromDays (s / 86400)).1, (civilFromDays (s / 86400)).2.1,
      (civilFromDays (s / 86400)).2.2, (s % 86400).toNat / 3600, (s % 86400).toNat % 3600 / 60,
      (s % 86400).toNat % 60⟩ := by
  unfold ofSeconds
  rfl

/-- The time of day of a second is a time of day. -/
lemma ofSeconds_time (s : Int) :
    (ofSeconds s).hour ≤ 23 ∧ (ofSeconds s).minute ≤ 59 ∧ (ofSeconds s).second ≤ 59 := by
  simp only [ofSeconds_eq]
  omega

/-- The second of a minute is the seconds since the epoch modulo 60. -/
lemma ofSeconds_second (s : Int) : ((ofSeconds s).second : Int) = s % 60 := by
  simp only [ofSeconds_eq]
  omega

/-- The date of a second is a date. -/
lemma ofSeconds_date (s : Int) :
    1 ≤ (ofSeconds s).month ∧ (ofSeconds s).month ≤ 12 ∧ 1 ≤ (ofSeconds s).day ∧
      (ofSeconds s).day ≤ daysInMonth (ofSeconds s).year (ofSeconds s).month :=
  Calendar.civilFromDays_valid (s / 86400)

end Civil

namespace Instant

variable {t a b : Instant}

/-- **An instant whose stored text reads back**: its second lies in the years 0 to 9999, and
it is inside a leap second only when that follows second 59 of a minute. -/
def Storable (t : Instant) : Prop :=
  -62167219200 ≤ t.secs ∧ t.secs < 253402300800 ∧ (t.isLeap = true → t.secs % 60 = 59)

instance (t : Instant) : Decidable t.Storable := inferInstanceAs (Decidable (_ ∧ _ ∧ _))

/-- The calendar reading an instant is written as: a leap second is second 60 of its minute. -/
def written (t : Instant) : Civil :=
  { Civil.ofSeconds t.secs with second := (Civil.ofSeconds t.secs).second + t.nanos / nanosPerSecond }

lemma written_year : t.written.year = (Civil.ofSeconds t.secs).year := by simp only [written]
lemma written_month : t.written.month = (Civil.ofSeconds t.secs).month := by simp only [written]
lemma written_day : t.written.day = (Civil.ofSeconds t.secs).day := by simp only [written]
lemma written_hour : t.written.hour = (Civil.ofSeconds t.secs).hour := by simp only [written]
lemma written_minute : t.written.minute = (Civil.ofSeconds t.secs).minute := by
  simp only [written]
lemma written_second :
    t.written.second = (Civil.ofSeconds t.secs).second + t.nanos / nanosPerSecond := by
  simp only [written]

/-- The date and time written for an instant lie in their ranges: a month of the year, a day of
that month, an hour of the day and a minute of the hour. -/
lemma written_ranges (t : Instant) :
    1 ≤ t.written.month ∧ t.written.month ≤ 12 ∧ 1 ≤ t.written.day ∧
      t.written.day ≤ daysInMonth t.written.year t.written.month ∧ t.written.day ≤ 31 ∧
      t.written.hour ≤ 23 ∧ t.written.minute ≤ 59 := by
  obtain ⟨hmo₀, hmo₁, hd₀, hd₁⟩ := Civil.ofSeconds_date t.secs
  obtain ⟨hh, hmi, -⟩ := Civil.ofSeconds_time t.secs
  have hdm := Calendar.daysInMonth_le (Civil.ofSeconds t.secs).year (Civil.ofSeconds t.secs).month
  simp only [written_year, written_month, written_day, written_hour, written_minute]
  omega

/-- A leap second adds one to the second written. -/
lemma nanos_div (t : Instant) : t.nanos / nanosPerSecond = if t.isLeap then 1 else 0 := by
  have h := t.nanos_lt
  unfold isLeap
  unfold nanosPerSecond at *
  by_cases hl : t.nanos ≥ 1000000000
  · simp only [hl, decide_true, if_true]
    omega
  · simp only [hl, decide_false, Bool.false_eq_true, if_false]
    omega

/-- Inside a leap second that follows second 59, the written second gains one. -/
lemma leap_of_minute (hl : t.isLeap = true → t.secs % 60 = 59) :
    t.nanos / nanosPerSecond ≤ 1 ∧ (t.nanos / nanosPerSecond = 1 → t.secs % 60 = 59) := by
  rw [nanos_div]
  cases hb : t.isLeap with
  | false => simp
  | true => simpa using hl hb

/-- When a leap second follows only second 59, the second written is 60 exactly inside a leap
second, and otherwise at most 59. -/
lemma written_second_of_minute (hl : t.isLeap = true → t.secs % 60 = 59) :
    t.written.second ≤ 60 ∧ (t.written.second = 60 ↔ t.isLeap = true) := by
  have hs := (Civil.ofSeconds_time t.secs).2.2
  rw [written_second, nanos_div]
  cases hb : t.isLeap with
  | false =>
    simp only [Bool.false_eq_true, if_false, iff_false]
    omega
  | true =>
    have h59 : (Civil.ofSeconds t.secs).second = 59 := by
      have := Civil.ofSeconds_second t.secs
      have := hl hb
      omega
    simp [h59]

lemma Storable.year (h : t.Storable) : 0 ≤ t.written.year ∧ t.written.year ≤ 9999 :=
  Calendar.civilFromDays_year_bounds (by have := h.1; omega) (by have := h.2.1; omega)

/-- The second written is 60 exactly inside a leap second, and otherwise at most 59. -/
lemma Storable.second (h : t.Storable) :
    t.written.second ≤ 60 ∧ (t.written.second = 60 ↔ t.isLeap = true) :=
  written_second_of_minute h.2.2

lemma Storable.fits (h : t.Storable) : t.written.Fits := by
  obtain ⟨hy₀, hy₁⟩ := h.year
  obtain ⟨-, hmo, -, -, hd, hh, hmi⟩ := written_ranges t
  have hs := h.second.1
  simp only [Civil.Fits]
  omega

/-- **The stored text of a storable instant** is the text of its written reading. -/
lemma stamp_toList (h : t.Storable) : t.stamp.toList = t.written.stampText := by
  obtain ⟨hy, hmo, hd, hh, hmi, hs⟩ := h.fits
  have hyear : (yearText t.written.year).toList = decimalDigits 4 t.written.year.toNat := by
    rw [yearText, if_pos h.year, padNat_toList (by decide) hy]
  simp only [written_year, written_month, written_day, written_hour, written_minute,
    written_second] at hy hmo hd hh hmi hs hyear
  simp (disch := omega) only [stamp, format, Civil.stampText, String.toList_append, hyear,
    padNat_toList, written_year, written_month, written_day, written_hour, written_minute,
    written_second, String.reduceToList, List.append_assoc, List.cons_append, List.nil_append,
    String.toList_empty, List.append_nil]

/-- Inside a leap second the written second gains one, and that second is the 59th. -/
lemma Storable.leap (h : t.Storable) :
    t.nanos / nanosPerSecond ≤ 1 ∧ (t.nanos / nanosPerSecond = 1 → t.secs % 60 = 59) :=
  leap_of_minute h.2.2

/-- Truncated to the second, an instant is its second and whether it lies in a leap second. -/
lemma truncSeconds_key (t : Instant) :
    t.truncSeconds.key = t.secs * 2000000000 + ((t.nanos / nanosPerSecond : Nat) : Int) * 1000000000 := by
  rw [nanos_div]
  unfold truncSeconds key
  cases t.isLeap <;> simp [nanosPerSecond]

/-- Truncating to the second never moves an instant later. -/
lemma truncSeconds_le (t : Instant) : t.truncSeconds ≤ t := by
  show t.truncSeconds.key ≤ t.key
  have h := Nat.div_mul_le_self t.nanos nanosPerSecond
  rw [truncSeconds_key, key]
  unfold nanosPerSecond at h ⊢
  omega

lemma truncSeconds_eq_iff : a.truncSeconds = b.truncSeconds ↔
    a.truncSeconds.key = b.truncSeconds.key := by
  constructor
  · intro h
    rw [h]
  · intro h
    rw [truncSeconds_key, truncSeconds_key] at h
    have hl := a.nanos_lt
    have hr := b.nanos_lt
    unfold truncSeconds isLeap
    unfold nanosPerSecond at *
    have hs : a.secs = b.secs := by omega
    have hn : a.nanos / 1000000000 = b.nanos / 1000000000 := by omega
    split <;> split <;> simp_all <;> omega

/-- The written readings of storable instants are in the order of their seconds. -/
lemma stampKey_lt_of_secs_lt (ha : a.Storable) (hb : b.Storable) (h : a.secs < b.secs) :
    a.written.stampKey < b.written.stampKey := by
  rcases Int.lt_or_eq_of_le (Int.ediv_le_ediv (by decide : (0 : Int) < 86400) h.le) with hd | hd
  · -- A later day: the dates decide, whatever the times of day.
    refine Civil.stampKey_lt_of_date ha.fits hb.fits ha.year.1 hb.year.1 ?_
    have hk := Calendar.dateKey_civilFromDays_lt hd
    unfold Calendar.dateKey at hk
    obtain ⟨hma₀, hma₁, hda₀, -, hda₁, -⟩ := written_ranges a
    obtain ⟨hmb₀, hmb₁, hdb₀, -, hdb₁, -⟩ := written_ranges b
    simp only [written_year, written_month, written_day, Civil.ofSeconds_eq]
      at hma₀ hma₁ hda₀ hda₁ hmb₀ hmb₁ hdb₀ hdb₁ ⊢
    omega
  · -- The same day: the times of day decide, a leap second being the 60th second.
    obtain ⟨hla, hla59⟩ := ha.leap
    apply Civil.stampKey_lt_of_time
    · simp only [written_year, Civil.ofSeconds_eq, hd]
    · simp only [written_month, Civil.ofSeconds_eq, hd]
    · simp only [written_day, Civil.ofSeconds_eq, hd]
    · simp only [written_hour, written_minute, written_second, Civil.ofSeconds_eq]
      exact Civil.timeKey_lt (by omega) hla fun h₁ => by have := hla59 h₁; omega

/-- The written readings of storable instants are in the order of the instants truncated to the
second. -/
lemma stampKey_lt_iff (ha : a.Storable) (hb : b.Storable) :
    a.written.stampKey < b.written.stampKey ↔ a.truncSeconds < b.truncSeconds := by
  change _ ↔ a.truncSeconds.key < b.truncSeconds.key
  rw [truncSeconds_key, truncSeconds_key]
  obtain ⟨hla, -⟩ := ha.leap
  obtain ⟨hlb, -⟩ := hb.leap
  unfold nanosPerSecond at hla hlb ⊢
  rcases lt_trichotomy a.secs b.secs with h | h | h
  · have hk := stampKey_lt_of_secs_lt ha hb h
    constructor <;> intro <;> omega
  · -- The same second: the texts differ only in a leap second.
    simp only [Civil.stampKey, written_year, written_month, written_day, written_hour,
      written_minute, written_second, nanosPerSecond, h]
    omega
  · have hk := stampKey_lt_of_secs_lt hb ha h
    constructor <;> intro <;> omega

/-- **The stored texts of storable instants are in the order of the instants** truncated to the
second. -/
theorem stamp_lt_iff (ha : a.Storable) (hb : b.Storable) :
    a.stamp < b.stamp ↔ a.truncSeconds < b.truncSeconds := by
  rw [String.lt_iff, stamp_toList ha, stamp_toList hb, Civil.stampText_lt_iff ha.fits hb.fits,
    stampKey_lt_iff ha hb]

/-- Storable instants have the same stored text exactly when they agree to the second. -/
theorem stamp_eq_iff (ha : a.Storable) (hb : b.Storable) :
    a.stamp = b.stamp ↔ a.truncSeconds = b.truncSeconds := by
  rw [← String.toList_inj, stamp_toList ha, stamp_toList hb, Civil.stampText_inj ha.fits hb.fits,
    truncSeconds_eq_iff]
  have hab := stampKey_lt_iff ha hb
  have hba := stampKey_lt_iff hb ha
  change _ ↔ _ < b.truncSeconds.key at hab
  change _ ↔ _ < a.truncSeconds.key at hba
  omega

end Instant

/-! ## Truncation -/

namespace Instant

variable {t a b : Instant}

lemma truncSeconds_secs (t : Instant) : t.truncSeconds.secs = t.secs := by
  unfold truncSeconds
  split <;> rfl

lemma truncSeconds_isLeap (t : Instant) : t.truncSeconds.isLeap = t.isLeap := by
  unfold truncSeconds
  cases h : t.isLeap <;> simp [isLeap, nanosPerSecond]

/-- Truncating to the second twice truncates once. -/
lemma truncSeconds_truncSeconds (t : Instant) : t.truncSeconds.truncSeconds = t.truncSeconds := by
  rw [truncSeconds_eq_iff, truncSeconds_key, truncSeconds_key, truncSeconds_secs, nanos_div,
    nanos_div, truncSeconds_isLeap]

lemma Storable.truncSeconds (h : t.Storable) : t.truncSeconds.Storable := by
  obtain ⟨h₀, h₁, hl⟩ := h
  rw [Storable, truncSeconds_secs, truncSeconds_isLeap]
  exact ⟨h₀, h₁, hl⟩

end Instant

namespace Stamp

/-- **Stored stamps of storable instants compare as the instants** truncated to the second. -/
theorem ofInstant_le_iff {a b : Instant} (ha : a.Storable) (hb : b.Storable) :
    ofInstant a ≤ ofInstant b ↔ a.truncSeconds ≤ b.truncSeconds := by
  change ¬ b.stamp < a.stamp ↔ a.truncSeconds.key ≤ b.truncSeconds.key
  rw [Instant.stamp_lt_iff hb ha]
  exact Int.not_lt

end Stamp

/-! ## Reading a stored text back -/

namespace Instant

variable {t : Instant}

/-- The written reading, with a leap second read as second 59, is the instant's second, when a
leap second follows only second 59. -/
lemma toSeconds_written_of_minute (hl : t.isLeap = true → t.secs % 60 = 59) :
    Civil.toSeconds ⟨t.written.year, t.written.month, t.written.day, t.written.hour,
      t.written.minute, min t.written.second 59⟩ = t.secs := by
  obtain ⟨hle, hl59⟩ := leap_of_minute hl
  unfold Civil.toSeconds
  simp only [written_year, written_month, written_day, written_hour, written_minute,
    written_second, Civil.ofSeconds_eq, Calendar.daysFromCivil_civilFromDays, nanosPerSecond]
  unfold nanosPerSecond at hle hl59
  omega

/-- The written reading, with a leap second read as second 59, is the instant's second. -/
lemma Storable.toSeconds_written (h : t.Storable) :
    Civil.toSeconds ⟨t.written.year, t.written.month, t.written.day, t.written.hour,
      t.written.minute, min t.written.second 59⟩ = t.secs :=
  toSeconds_written_of_minute h.2.2

/-- The instant a second and its leap flag stand for is the instant truncated to the second. -/
lemma within_written (h : t.Storable) :
    within t.secs ((if t.written.second = 60 then nanosPerSecond else 0 : Nat) : Int) =
      t.truncSeconds := by
  simp only [h.second.2]
  unfold within truncSeconds
  cases t.isLeap <;> simp [nanosPerSecond]

lemma Storable.truncSeconds_inRange (h : t.Storable) : t.truncSeconds.inRange = true := by
  obtain ⟨h₀, h₁, -⟩ := h
  simp only [inRange, truncSeconds_secs, minimum, maximum, Bool.and_eq_true, decide_eq_true_eq]
  omega

end Instant

namespace Stamp

/-- **Reading back the stored text of a storable instant** gives the instant truncated to the
second. -/
theorem read_ofInstant {t : Instant} (h : t.Storable) :
    (ofInstant t).read = .ok t.truncSeconds := by
  have hs : (ofInstant t).text.toList = t.written.stampText := Instant.stamp_toList h
  obtain ⟨hy₀, hy₁⟩ := h.year
  obtain ⟨hmo₀, hmo₁, hd₀, hd₁, hdm, hh, hmi⟩ := Instant.written_ranges t
  have hf := Timestamp.fields_stampText hs ⟨hy₀, by omega⟩ ⟨hmo₀, hmo₁⟩ ⟨hd₀, hdm⟩ hh hmi
    h.second.1
  -- The text starts with a digit of the year, so it is read as a timestamp.
  obtain ⟨c, l, hcl⟩ :=
    List.exists_cons_of_length_pos (by simp : 0 < (decimalDigits 4 t.written.year.toNat).length)
  obtain ⟨d, hd, rfl⟩ :=
    mem_decimalDigits (hcl ▸ List.mem_cons_self : _ ∈ decimalDigits 4 t.written.year.toNat)
  have hday : ¬ t.written.day > daysInMonth t.written.year t.written.month := Nat.not_lt.2 hd₁
  unfold read Instant.parse
  rw [hs, Civil.stampText, hcl, List.cons_append]
  simp only [Nat.isDigit_digitChar, hd, decide_true, if_true, hf, bind, Except.bind, pure,
    Except.pure, Text.dropBlank, hday, Int.sub_zero, h.toSeconds_written,
    Nat.cast_zero, Int.zero_add, beq_iff_eq, Instant.within_written h, h.truncSeconds_inRange]
  simp only [decide_eq_false (by omega : ¬ t.written.year < -262143),
    decide_eq_false (by omega : ¬ t.written.year > 262142)]
  rfl

end Stamp

end JobQueue
