import JobQueue.Proofs.StoredTime
import JobQueue.Proofs.JsonText

/-!
# Written instants read back

Wherever an instant is shown it is written in full: a year of four digits, or a sign and as
many digits as it needs, the date and time, a fraction of three, six or nine digits when the
instant is not on a whole second, a leap second as second 60, and `Z`. This module shows that
the reader undoes the writer on every instant the clock type can hold, to the nanosecond, and
that the reader never gives any other instant.

The text is taken apart as the reader goes through it: a run of digits followed by something
else reads as its value (`Timestamp.digits_of_run`), so a signed year of any length reads back
(`Timestamp.year_yearText`), and so does the fraction (`Timestamp.fraction_fractionText`). The
date and time fields are the fixed-width numerals of the stored form.

**Main statements**

* `Instant.parse_text` — the written form of a representable instant reads as that instant.
* `Instant.parse_representable` — whatever the reader returns is representable: in range, and
  in a leap second only after second 59 of a minute, offsets being whole minutes.
-/

namespace JobQueue

open Json.Reader (digitsValue)

/-! ## Runs of digits -/

namespace Timestamp

lemma takeWhile_take_of_head {rest : List Char} (hr : ∀ c ∈ rest.head?, c.isDigit = false)
    (k : Nat) : (rest.take k).takeWhile Char.isDigit = [] := by
  cases rest with
  | nil => simp
  | cons c r =>
    cases k with
    | zero => simp
    | succ k => simp [hr c rfl]

/-- **A run of digits that stops before a non-digit** reads as its value, when it fits the
widths asked for and a signed 64-bit word. -/
lemma digits_of_run {ds rest : List Char} {lo hi : Nat} (hd : ∀ c ∈ ds, c.isDigit = true)
    (hne : ds ≠ []) (hlo : lo ≤ ds.length) (hhi : ds.length ≤ hi)
    (hr : ∀ c ∈ rest.head?, c.isDigit = false) (hv : digitsValue 0 ds ≤ 9223372036854775807) :
    digits (ds ++ rest) lo hi = .ok (digitsValue 0 ds, rest) := by
  have htake : ((ds ++ rest).take hi).takeWhile Char.isDigit = ds := by
    obtain ⟨k, rfl⟩ : ∃ k, hi = ds.length + k := ⟨hi - ds.length, by omega⟩
    rw [List.take_length_add_append, List.takeWhile_append_of_pos hd,
      takeWhile_take_of_head hr, List.append_nil]
  have hempty : (ds ++ rest).isEmpty = false := by
    cases ds with
    | nil => exact absurd rfl hne
    | cons c cs => rfl
  unfold digits
  simp only [htake, hempty, Bool.false_and, Bool.false_eq_true, ↓reduceIte, List.drop_left]
  unfold digitsValue Json.Reader.digitValue at hv
  rw [if_neg (by omega), if_neg (by omega)]
  rfl

/-- Leading zeros add nothing to a run's value. -/
lemma digitsValue_replicate_zero (k : Nat) (ds : List Char) :
    digitsValue 0 (List.replicate k '0' ++ ds) = digitsValue 0 ds := by
  induction k with
  | zero => rfl
  | succ k ih =>
    rw [List.replicate_succ, List.cons_append, digitsValue, List.foldl_cons]
    exact ih

/-- **A padded numeral is a run of digits worth the number.** -/
lemma padNat_run (n w : Nat) :
    (∀ c ∈ (padNat n w).toList, c.isDigit = true) ∧ (padNat n w).toList ≠ [] ∧
      digitsValue 0 (padNat n w).toList = n := by
  simp only [padNat, String.toList_ofList, Nat.toList_repr]
  refine ⟨fun c hc => ?_, ?_, ?_⟩
  · rcases List.mem_append.1 hc with hz | hd
    · rw [List.eq_of_mem_replicate hz]
      rfl
    · exact Json.Reader.isDigit_of_mem_toDigits hd
  · obtain ⟨d, ds, hds⟩ := Json.Value.toDigits_cons n
    simp [hds]
  · rw [digitsValue_replicate_zero]
    exact Json.Reader.digitsValue_toDigits n

lemma isBlank_sign {c : Char} (h : c = '-' ∨ c = '+') : Text.isBlank c = false := by
  rcases h with rfl | rfl <;> decide

/-- **A written year reads back**, whatever its sign and number of digits, before a text that
does not go on with a digit. -/
lemma year_yearText {y : Int} (rest : List Char) (hr : ∀ c ∈ rest.head?, c.isDigit = false)
    (hy : y.natAbs ≤ 9223372036854775807) :
    year ((yearText y).toList ++ rest) = .ok (y, rest) := by
  obtain ⟨hdig, hne, hval⟩ := padNat_run y.natAbs 4
  -- After a sign, the reader takes every digit that follows.
  have hrun : digits ((padNat y.natAbs 4).toList ++ rest) 1
      ((padNat y.natAbs 4).toList ++ rest).length = .ok (y.natAbs, rest) := by
    rw [digits_of_run hdig hne (List.length_pos_iff.2 hne) (by simp) hr (by rw [hval]; exact hy),
      hval]
  unfold yearText
  split_ifs with hin hneg
  · rw [padNat_toList (by decide) (by omega), year_decimalDigits rest (by omega),
      Int.toNat_of_nonneg hin.1]
  · rw [String.toList_append]
    simp only [show (String.toList "-") = ['-'] from rfl, List.cons_append]
    unfold year
    rw [dropBlank_cons (isBlank_sign (.inl rfl))]
    simp only [List.nil_append, hrun, bind, Except.bind, pure, Except.pure]
    rw [show -(y.natAbs : Int) = y by omega]
  · rw [String.toList_append]
    simp only [show (String.toList "+") = ['+'] from rfl, List.cons_append]
    unfold year
    rw [dropBlank_cons (isBlank_sign (.inr rfl))]
    simp only [List.nil_append, hrun, bind, Except.bind, pure, Except.pure]
    rw [show (y.natAbs : Int) = y by omega]

/-- A point and a fraction padded to `w` digits, `w` at most nine, read as those digits scaled
to nanoseconds. -/
lemma fraction_padNat {w m : Nat} (r : List Char) (hw : 0 < w) (hw9 : w ≤ 9)
    (hm : m < 10 ^ w) :
    fraction (("." ++ padNat m w).toList ++ 'Z' :: r) = .ok (m * 10 ^ (9 - w), 'Z' :: r) := by
  rw [String.toList_append, padNat_toList hw hm, show (String.toList ".") = ['.'] from rfl,
    List.singleton_append, List.cons_append]
  have hdig : ∀ c ∈ decimalDigits w m, c.isDigit = true := by
    intro c hc
    obtain ⟨d, hd, rfl⟩ := mem_decimalDigits hc
    rw [Nat.isDigit_digitChar]
    exact decide_eq_true hd
  have hne : decimalDigits w m ≠ [] := by
    rw [← List.length_pos_iff, decimalDigits_length]
    exact hw
  have hval : digitsValue 0 (decimalDigits w m) = m := by
    show (decimalDigits w m).foldl (fun acc c => acc * 10 + (c.toNat - '0'.toNat)) 0 = m
    rw [foldl_decimalDigits, Nat.zero_mul, Nat.zero_add, Nat.mod_eq_of_lt hm]
  have hm9 : m < 10 ^ 9 := lt_of_lt_of_le hm (Nat.pow_le_pow_right (by decide) hw9)
  have hrun : digits (decimalDigits w m ++ 'Z' :: r) 1 9 =
      .ok (digitsValue 0 (decimalDigits w m), 'Z' :: r) := digits_of_run hdig hne
    (by rw [decimalDigits_length]; exact hw) (by rw [decimalDigits_length]; exact hw9)
    (fun c hc => by cases hc; rfl) (by rw [hval]; omega)
  unfold fraction
  simp only [hrun, hval, bind, Except.bind, pure, Except.pure, List.length_append,
    decimalDigits_length, List.length_cons, Nat.add_sub_cancel, Nat.pow_eq, List.dropWhile_cons,
    show Char.isDigit 'Z' = false from rfl]
  rfl

/-- **The fraction written in the automatic style reads back** as the nanoseconds it shows. -/
lemma fraction_fractionText (n : Nat) (r : List Char) (hn : n < 1000000000) :
    fraction ((fractionText n).toList ++ 'Z' :: r) = .ok (n, 'Z' :: r) := by
  unfold fractionText
  split_ifs with h₀ h₆ h₃
  · -- A whole second has no fraction.
    simp only [beq_iff_eq] at h₀
    subst h₀
    rfl
  · -- Whole milliseconds: three digits.
    simp only [beq_iff_eq] at h₆
    rw [fraction_padNat r (by decide) (by decide) (by omega)]
    congr 2
    omega
  · -- Whole microseconds: six digits.
    simp only [beq_iff_eq] at h₃
    rw [fraction_padNat r (by decide) (by decide) (by omega)]
    congr 2
    omega
  · -- Otherwise all nine digits.
    rw [fraction_padNat r (by decide) (by decide) (by omega), Nat.sub_self, Nat.pow_zero,
      Nat.mul_one]

lemma offset_utc : offset ['Z'] = .ok (0, []) := rfl

end Timestamp

/-! ## The written form of a representable instant -/

namespace Calendar

/-- The first day of the representable range. -/
lemma civilFromDays_minimum : civilFromDays (Instant.minimum.secs / 86400) = (-262143, 1, 1) := by
  decide

/-- The last day of the representable range. -/
lemma civilFromDays_maximum : civilFromDays (Instant.maximum.secs / 86400) = (262142, 12, 31) := by
  decide

end Calendar

namespace Instant

variable {t : Instant}

/-- **The years of representable instants** run from -262143 to 262142. -/
lemma Representable.year (h : t.Representable) :
    -262143 ≤ t.written.year ∧ t.written.year ≤ 262142 := by
  obtain ⟨hin, -⟩ := h
  simp only [inRange, Bool.and_eq_true, decide_eq_true_eq] at hin
  have h₀ := Calendar.civilFromDays_year_le (Int.ediv_le_ediv (by decide : (0 : Int) < 86400) hin.1)
  have h₁ := Calendar.civilFromDays_year_le (Int.ediv_le_ediv (by decide : (0 : Int) < 86400) hin.2)
  rw [Calendar.civilFromDays_minimum] at h₀
  rw [Calendar.civilFromDays_maximum] at h₁
  simp only [written_year, Civil.ofSeconds_eq]
  exact ⟨h₀, h₁⟩

/-- **The written form of a representable instant**, field by field. -/
lemma text_toList (h : t.Representable) :
    t.text.toList = (yearText t.written.year).toList ++ '-' :: (decimalDigits 2 t.written.month ++
      '-' :: (decimalDigits 2 t.written.day ++ 'T' :: (decimalDigits 2 t.written.hour ++
        ':' :: (decimalDigits 2 t.written.minute ++ ':' :: (decimalDigits 2 t.written.second ++
          ((fractionText (t.nanos % nanosPerSecond)).toList ++ ['Z'])))))) := by
  obtain ⟨hmo₀, hmo₁, hd₀, hd₁⟩ := Civil.ofSeconds_date t.secs
  obtain ⟨hh, hmi, -⟩ := Civil.ofSeconds_time t.secs
  have hdm := Calendar.daysInMonth_le (Civil.ofSeconds t.secs).year (Civil.ofSeconds t.secs).month
  have hs := (written_second_of_minute h.2).1
  simp only [written_second] at hs
  simp (disch := omega) only [text, format, String.toList_append, padNat_toList, written_year,
    written_month, written_day, written_hour, written_minute, written_second, String.reduceToList,
    List.append_assoc, List.cons_append, List.nil_append]

end Instant

/-- **Reading the written form of a representable instant** gives its written reading and the
nanoseconds into the second, with no offset and nothing left over. -/
lemma Timestamp.fields_text {t : Instant} (h : t.Representable) :
    Timestamp.fields t.text = .ok
      ({ year := t.written.year, month := t.written.month, day := t.written.day,
         hour := t.written.hour, minute := t.written.minute, second := t.written.second,
         nanos := t.nanos % nanosPerSecond }, []) := by
  obtain ⟨hy₀, hy₁⟩ := h.year
  obtain ⟨hmo₀, hmo₁, hd₀, -, hd₁, hh, hmi⟩ := Instant.written_ranges t
  have hs := (Instant.written_second_of_minute h.2).1
  have hdash : Text.isBlank '-' = false := by decide
  have hcolon : Text.isBlank ':' = false := by decide
  have hZ : Text.isBlank 'Z' = false := by decide
  unfold Timestamp.fields
  rw [Instant.text_toList h]
  dsimp only
  -- The year is followed by a dash, so the reader stops there whatever its length.
  rw [Timestamp.year_yearText _ (fun c hc => by cases hc; rfl) (by omega)]
  simp only [bind, Except.bind, pure, Except.pure, dropBlank_cons hdash, dropBlank_cons hcolon,
    Timestamp.literal_cons, Timestamp.field_decimalDigits _ hmo₀ hmo₁ (by omega),
    Timestamp.field_decimalDigits _ hd₀ hd₁ (by omega),
    Timestamp.field_decimalDigits _ (Nat.zero_le _) hh (by omega),
    Timestamp.field_decimalDigits _ (Nat.zero_le _) hmi (by omega),
    Timestamp.field_decimalDigits _ (Nat.zero_le _) hs (by omega),
    Timestamp.fraction_fractionText (t.nanos % nanosPerSecond) [] (Nat.mod_lt _ (by decide)),
    dropBlank_cons hZ, Timestamp.offset_utc, beq_self_eq_true, Bool.true_or, ↓reduceIte]

namespace Instant

lemma within_nanos {secs frac : Int} (h₀ : 0 ≤ frac) (h₁ : frac < 2000000000) :
    (within secs frac).nanos = frac.toNat := by
  simp only [within, h₀, h₁, and_self, dite_true]

/-- The second a reading shows and its nanoseconds, a leap second adding a second's worth,
give the instant back. -/
lemma within_written_of_minute {t : Instant} (hl : t.isLeap = true → t.secs % 60 = 59) :
    within t.secs (((t.nanos % nanosPerSecond : Nat) : Int) +
      ((if t.written.second = 60 then nanosPerSecond else 0 : Nat) : Int)) = t := by
  have hn := t.nanos_lt
  have hd := nanos_div t
  simp only [(written_second_of_minute hl).2]
  unfold within
  unfold nanosPerSecond at *
  cases hb : t.isLeap with
  | false =>
    simp only [hb, Bool.false_eq_true, if_false] at hd ⊢
    rw [dif_pos (by omega)]
    congr
    omega
  | true =>
    simp only [hb, if_true] at hd ⊢
    rw [dif_pos (by omega)]
    congr
    omega

/-- **The written form of a representable instant reads back as the instant**, to the
nanosecond, a leap second included. -/
theorem parse_text {t : Instant} (h : t.Representable) : parse t.text = .ok t := by
  obtain ⟨hy₀, hy₁⟩ := h.year
  obtain ⟨-, -, -, hd₁, -⟩ := written_ranges t
  have hday : ¬ t.written.day > daysInMonth t.written.year t.written.month := Nat.not_lt.2 hd₁
  unfold parse
  simp only [Timestamp.fields_text h, bind, Except.bind, pure, Except.pure, Text.dropBlank,
    List.dropWhile_nil, List.isEmpty_nil, hday, Int.sub_zero, toSeconds_written_of_minute h.2,
    beq_iff_eq]
  simp only [decide_eq_false (by omega : ¬ t.written.year < -262143),
    decide_eq_false (by omega : ¬ t.written.year > 262142), within_written_of_minute h.2, h.1,
    Bool.false_or, decide_false, Bool.false_eq_true, ↓reduceIte]
  rfl

end Instant

/-! ## What the reader returns -/

namespace Timestamp

/-- An offset in hours and minutes is a whole number of minutes. -/
lemma offset_clock_eq_ok {negative : Bool} {cs r : List Char} {o : Int}
    (h : offset.clock negative cs = .ok (o, r)) : o % 60 = 0 := by
  unfold offset.clock at h
  obtain ⟨⟨h₁, h₂, rest⟩, -, h⟩ := except_bind_eq_ok.1 h
  dsimp only at h
  split at h
  · split at h
    · split at h
      · cases h
      · -- Two digits under 60 are the minutes.
        simp only [bind, Except.bind, pure, Except.pure, Except.ok.injEq, Prod.mk.injEq] at h
        obtain ⟨rfl, -⟩ := h
        split <;> omega
    · cases h
  · split at h <;> cases h
  · cases h

/-- A signed offset, or `Z`, is a whole number of minutes. -/
lemma offset_signed_eq_ok {cs r : List Char} {o : Int} (h : offset.signed cs = .ok (o, r)) :
    o % 60 = 0 := by
  unfold offset.signed at h
  split at h
  · cases h
    rfl
  · cases h
    rfl
  · exact offset_clock_eq_ok h
  · exact offset_clock_eq_ok h
  · exact offset_clock_eq_ok h
  · cases h
  · cases h

/-- **Every offset read is a whole number of minutes.** -/
lemma offset_eq_ok {cs r : List Char} {o : Int} (h : offset cs = .ok (o, r)) : o % 60 = 0 := by
  unfold offset at h
  dsimp only at h
  split at h
  · split at h
    · cases h
      rfl
    · exact offset_signed_eq_ok h
  · exact offset_signed_eq_ok h

/-- The offset of every reading is a whole number of minutes. -/
lemma fields_offset {s : String} {f : Fields} {rest : List Char} (h : fields s = .ok (f, rest)) :
    f.offset % 60 = 0 := by
  simp only [fields, except_bind_eq_ok, Prod.exists] at h
  obtain ⟨y, cs₁, -, cs₂, -, mo, cs₃, -, cs₄, -, d, cs₅, -, h⟩ := h
  split at h
  · split_ifs at h
    · simp only [pure_bind, except_bind_eq_ok, Prod.exists] at h
      obtain ⟨hr, cs₆, -, cs₇, -, mi, cs₈, -, cs₉, -, sec, cs₁₀, -, ns, cs₁₁, -, off, cs₁₂, hoff,
        h⟩ := h
      cases h
      exact offset_eq_ok hoff
    · obtain ⟨_, h, -⟩ := except_bind_eq_ok.1 h
      cases h
  · obtain ⟨_, h, -⟩ := except_bind_eq_ok.1 h
    cases h

end Timestamp

namespace Instant

/-- **Whatever the reader returns is representable**: it checks the range, and a second 60 it
reads lies after second 59 of a minute, the offset being whole minutes. -/
theorem parse_representable {s : String} {u : Instant} (h : parse s = .ok u) :
    u.Representable := by
  obtain ⟨f, rest, hf, -, -, hin, hu⟩ := parse_eq_ok h
  have hn := (Timestamp.fields_eq_ok hf).2.2.2.2.1
  have ho := Timestamp.fields_offset hf
  generalize hleap : (if (f.second == 60) = true then nanosPerSecond else 0) = leap at hu
  have hl₁ : leap ≤ 1000000000 := by
    unfold nanosPerSecond at hleap
    split at hleap <;> omega
  refine ⟨hin, fun hl => ?_⟩
  rw [hu, within_secs (by omega) (by omega)]
  rw [hu, isLeap, within_nanos (by omega) (by omega)] at hl
  -- Only a second 60 reaches into the leap second, and it is read as second 59.
  have h60 : f.second = 60 := by
    by_contra hne
    simp only [beq_iff_eq, hne, if_false] at hleap
    subst hleap
    simp only [nanosPerSecond] at hl
    have := of_decide_eq_true hl
    omega
  unfold Civil.toSeconds
  simp only [h60]
  omega

end Instant

end JobQueue
