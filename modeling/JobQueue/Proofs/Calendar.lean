import JobQueue.Time.Instant
import Mathlib.Tactic.Lemma
import Mathlib.Tactic.SplitIfs

/-!
# The proleptic Gregorian calendar

`civilFromDays` reads a count of days after the epoch as a date, and `daysFromCivil` counts
the days to a date. Both go through 400-year eras of 146097 days, whose years start on
1 March so that a leap day is the last day of its year. This module shows that reading a
day count gives a valid date, that counting the days to it gives the count back, and that
dates read from day counts come in the order of the counts.

The one fact about the era arithmetic that carries everything is `dayOfYear_bounds`: day
`doe` of an era falls inside the year `yearOfEra doe`, on one of its 366 places, and on the
last of them only in a year that ends in a leap day (`dayOfYear_last`). The rest is reading a
day of a March-based year as a month and a day (`fromMarch`).

**Main statements**

* `civilFromDays_valid` — every day count reads as a valid date.
* `daysFromCivil_civilFromDays` — counting the days to the date read gives the count back.
* `dateKey_civilFromDays_lt` — dates read from day counts are in the order of the counts.
-/

namespace JobQueue

namespace Calendar

/-- The year of an era, counted from March, in which day `doe` of the era falls. -/
def yearOfEra (doe : Int) : Int := (doe - doe / 1460 + doe / 36524 - doe / 146096) / 365

/-- Days from the start of an era to 1 March of its year `yoe`. -/
def yearStart (yoe : Int) : Int := 365 * yoe + yoe / 4 - yoe / 100

/-- The month, counted from March as 0, of day `doy` of a year that starts in March. -/
def marchMonth (doy : Int) : Int := (5 * doy + 2) / 153

/-- The day of the month of day `doy` of a year that starts in March. -/
def marchDay (doy : Int) : Int := doy - (153 * marchMonth doy + 2) / 5 + 1

/-- The date of day `doy` of the year `y` that starts in March; its January and February
belong to the next calendar year. -/
def fromMarch (y doy : Int) : Int × Nat × Nat :=
  let mp := marchMonth doy
  let m := if mp < 10 then mp + 3 else mp - 9
  (if m ≤ 2 then y + 1 else y, m.toNat, (marchDay doy).toNat)

/-- The year, counted from March, in which day `z` after the epoch falls. -/
def marchYear (z : Int) : Int :=
  yearOfEra ((z + 719468) % 146097) + (z + 719468) / 146097 * 400

/-- The day of its March-based year on which day `z` after the epoch falls. -/
def marchDayOfYear (z : Int) : Int :=
  (z + 719468) % 146097 - yearStart (yearOfEra ((z + 719468) % 146097))

/-- Reading a day count is finding its March-based year and day, then the month and day. -/
lemma civilFromDays_eq (z : Int) : civilFromDays z = fromMarch (marchYear z) (marchDayOfYear z) :=
  rfl

/-- A date as one number, increasing in the order of dates whose month and day are in range. -/
def dateKey (d : Int × Nat × Nat) : Int := d.1 * 512 + d.2.1 * 32 + d.2.2

/-! ## Years of an era -/

section Era

variable {doe : Int}

lemma yearOfEra_bounds (h₀ : 0 ≤ doe) (h₁ : doe ≤ 146096) :
    0 ≤ yearOfEra doe ∧ yearOfEra doe ≤ 399 := by
  unfold yearOfEra
  omega

/-- **A day of an era lies in its year**: on or after 1 March of the year `yearOfEra doe`,
and on one of the 366 days from there. -/
lemma dayOfYear_bounds (h₀ : 0 ≤ doe) (h₁ : doe ≤ 146096) :
    0 ≤ doe - yearStart (yearOfEra doe) ∧ doe - yearStart (yearOfEra doe) ≤ 365 := by
  unfold yearStart
  generalize hy : yearOfEra doe = yoe
  unfold yearOfEra at hy
  -- Fixing the century of the day and of the year makes the bounds linear.
  have hc : doe / 36524 = 0 ∨ doe / 36524 = 1 ∨ doe / 36524 = 2 ∨ doe / 36524 = 3 ∨
      doe / 36524 = 4 := by omega
  have hk : yoe / 100 = 0 ∨ yoe / 100 = 1 ∨ yoe / 100 = 2 ∨ yoe / 100 = 3 := by omega
  rcases hc with hc | hc | hc | hc | hc <;> rcases hk with hk | hk | hk | hk <;> omega

/-- A day of an era comes before 1 March of the year after its own. -/
lemma lt_yearStart_succ (h₀ : 0 ≤ doe) (h₁ : doe ≤ 146096) (h : yearOfEra doe < 399) :
    doe < yearStart (yearOfEra doe + 1) := by
  unfold yearStart
  generalize hy : yearOfEra doe = yoe at h
  unfold yearOfEra at hy
  -- As above, now for the year after.
  have hc : doe / 36524 = 0 ∨ doe / 36524 = 1 ∨ doe / 36524 = 2 ∨ doe / 36524 = 3 ∨
      doe / 36524 = 4 := by omega
  have hk : (yoe + 1) / 100 = 0 ∨ (yoe + 1) / 100 = 1 ∨ (yoe + 1) / 100 = 2 ∨
      (yoe + 1) / 100 = 3 := by omega
  rcases hc with hc | hc | hc | hc | hc <;> rcases hk with hk | hk | hk | hk <;> omega

/-- The 366th day of a year of the era exists only when the year ends in a leap day. -/
lemma dayOfYear_last (h₀ : 0 ≤ doe) (h₁ : doe ≤ 146096) :
    doe - yearStart (yearOfEra doe) ≤ 364 ∨
      ((yearOfEra doe + 1) % 4 = 0 ∧ ((yearOfEra doe + 1) % 100 ≠ 0 ∨ yearOfEra doe = 399)) := by
  have hy := yearOfEra_bounds h₀ h₁
  rcases Int.lt_or_le (yearOfEra doe) 399 with hlt | hge
  · -- The next year starts after the day, so a 366th day needs a year of 366 days.
    have hnext := lt_yearStart_succ h₀ h₁ hlt
    generalize yearOfEra doe = yoe at hy hnext ⊢
    unfold yearStart at hnext ⊢
    by_cases h4 : (yoe + 1) % 4 = 0
    · by_cases h100 : (yoe + 1) % 100 = 0
      · left
        omega
      · exact .inr ⟨h4, .inl h100⟩
    · -- A year that ends a century ends a four-year cycle too.
      have h100 : (yoe + 1) % 100 ≠ 0 := by omega
      have hq₄ : (yoe + 1) / 4 = yoe / 4 := by omega
      have hq₁₀₀ : (yoe + 1) / 100 = yoe / 100 := by omega
      left
      omega
  · omega

lemma yearStart_mono {y₁ y₂ : Int} (h : y₁ ≤ y₂) : yearStart y₁ ≤ yearStart y₂ := by
  unfold yearStart
  omega

lemma yearOfEra_mono {d₁ d₂ : Int} (h₀ : 0 ≤ d₁) (h : d₁ ≤ d₂) (h₁ : d₂ ≤ 146096) :
    yearOfEra d₁ ≤ yearOfEra d₂ := by
  -- The year of `d₁` starts on or before `d₁`, and the year after that of `d₂` after `d₂`.
  have hy₁ := (yearOfEra_bounds h₀ (by omega)).2
  have hs₁ := (dayOfYear_bounds h₀ (by omega : d₁ ≤ 146096)).1
  rcases Int.lt_or_le (yearOfEra d₂) (yearOfEra d₁) with hlt | hle
  · have hnext := lt_yearStart_succ (by omega : 0 ≤ d₂) h₁ (by omega)
    have hmono := yearStart_mono (by omega : yearOfEra d₂ + 1 ≤ yearOfEra d₁)
    omega
  · exact hle

end Era

/-! ## Months of a March-based year -/

section Month

variable {y doy : Int}

lemma marchMonth_bounds (h₀ : 0 ≤ doy) (h₁ : doy ≤ 365) :
    0 ≤ marchMonth doy ∧ marchMonth doy ≤ 11 := by
  unfold marchMonth
  omega

/-- **The date of a day of a March-based year is valid**: its month is a month, and its day
lies in that month; the 366th day is 29 February of a leap year. -/
lemma fromMarch_valid (h₀ : 0 ≤ doy) (h₁ : doy ≤ 365)
    (hleap : doy = 365 → isLeapYear (y + 1) = true) :
    1 ≤ (fromMarch y doy).2.1 ∧ (fromMarch y doy).2.1 ≤ 12 ∧ 1 ≤ (fromMarch y doy).2.2 ∧
      (fromMarch y doy).2.2 ≤ daysInMonth (fromMarch y doy).1 (fromMarch y doy).2.1 := by
  have hmp := marchMonth_bounds h₀ h₁
  unfold fromMarch marchDay
  unfold marchMonth at hmp ⊢
  -- One case per month, from March (0) to February (11).
  have hcase : (5 * doy + 2) / 153 = 0 ∨ (5 * doy + 2) / 153 = 1 ∨ (5 * doy + 2) / 153 = 2 ∨
      (5 * doy + 2) / 153 = 3 ∨ (5 * doy + 2) / 153 = 4 ∨ (5 * doy + 2) / 153 = 5 ∨
      (5 * doy + 2) / 153 = 6 ∨ (5 * doy + 2) / 153 = 7 ∨ (5 * doy + 2) / 153 = 8 ∨
      (5 * doy + 2) / 153 = 9 ∨ (5 * doy + 2) / 153 = 10 ∨ (5 * doy + 2) / 153 = 11 := by
    omega
  rcases hcase with h | h | h | h | h | h | h | h | h | h | h | h <;>
    simp [h, daysInMonth] <;> try omega
  -- February: the 29th exists in a leap year only.
  by_cases hl : doy = 365
  · rw [hleap hl, if_pos rfl]
    omega
  · split <;> omega

/-- Days from the epoch to the date of day `doy` of the March-based year `y`. -/
lemma daysFromCivil_fromMarch (h₀ : 0 ≤ doy) (h₁ : doy ≤ 365) :
    daysFromCivil (fromMarch y doy).1 (fromMarch y doy).2.1 (fromMarch y doy).2.2 =
      y / 400 * 146097 + yearStart (y % 400) + doy - 719468 := by
  have hmp := marchMonth_bounds h₀ h₁
  unfold daysFromCivil fromMarch marchDay yearStart
  unfold marchMonth at hmp ⊢
  dsimp only
  split_ifs <;> omega

/-- Whatever the day, its day of the month is one of 1 to 31. -/
lemma marchDay_bounds (doy : Int) : 1 ≤ marchDay doy ∧ marchDay doy ≤ 31 := by
  unfold marchDay marchMonth
  omega

/-- A later day of a March-based year is in a later month, or later in the same month. -/
lemma marchMonth_lt {doy₁ doy₂ : Int} (h : doy₁ < doy₂) :
    marchMonth doy₁ < marchMonth doy₂ ∨
      (marchMonth doy₁ = marchMonth doy₂ ∧ marchDay doy₁ < marchDay doy₂) := by
  have hmono : marchMonth doy₁ ≤ marchMonth doy₂ := by
    unfold marchMonth
    omega
  rcases Int.lt_or_eq_of_le hmono with hlt | heq
  · exact .inl hlt
  · refine .inr ⟨heq, ?_⟩
    unfold marchDay
    rw [heq]
    omega

/-- Dates of days of March-based years come in the order of year, then day. -/
lemma dateKey_fromMarch_lt {y₁ y₂ doy₁ doy₂ : Int} (h₁ : 0 ≤ doy₁ ∧ doy₁ ≤ 365)
    (h₂ : 0 ≤ doy₂ ∧ doy₂ ≤ 365) (h : y₁ < y₂ ∨ (y₁ = y₂ ∧ doy₁ < doy₂)) :
    dateKey (fromMarch y₁ doy₁) < dateKey (fromMarch y₂ doy₂) := by
  have hm₁ := marchMonth_bounds h₁.1 h₁.2
  have hm₂ := marchMonth_bounds h₂.1 h₂.2
  have hd₁ := marchDay_bounds doy₁
  have hd₂ := marchDay_bounds doy₂
  have horder := h.imp_right fun ⟨he, hlt⟩ => And.intro he (marchMonth_lt hlt)
  unfold dateKey fromMarch
  generalize marchMonth doy₁ = mp₁ at hm₁ horder ⊢
  generalize marchMonth doy₂ = mp₂ at hm₂ horder ⊢
  generalize marchDay doy₁ = d₁ at hd₁ horder ⊢
  generalize marchDay doy₂ = d₂ at hd₂ horder ⊢
  dsimp only
  split_ifs <;> omega

end Month

/-! ## Day counts -/

section Days

/-- The day of its era and the era of a day count, as the count from 1 March 0000 divided by
the length of an era. -/
lemma dayOfEra_bounds (z : Int) :
    0 ≤ (z + 719468) % 146097 ∧ (z + 719468) % 146097 ≤ 146096 := by
  have h := Int.emod_lt_of_pos (z + 719468) (by decide : (0 : Int) < 146097)
  exact ⟨Int.emod_nonneg _ (by decide), by omega⟩

lemma marchDayOfYear_bounds (z : Int) : 0 ≤ marchDayOfYear z ∧ marchDayOfYear z ≤ 365 :=
  dayOfYear_bounds (dayOfEra_bounds z).1 (dayOfEra_bounds z).2

/-- The 366th day of a March-based year is 29 February of a leap year. -/
lemma marchYear_leap (z : Int) (h : marchDayOfYear z = 365) :
    isLeapYear (marchYear z + 1) = true := by
  obtain ⟨h₀, h₁⟩ := dayOfEra_bounds z
  rcases dayOfYear_last h₀ h₁ with hle | ⟨h4, h100⟩
  · unfold marchDayOfYear at h
    omega
  · unfold isLeapYear marchYear
    simp only [Bool.and_eq_true, Bool.or_eq_true, beq_iff_eq, bne_iff_ne, ne_eq]
    omega

/-- **Later day counts fall in later March-based years, or later in the same year.** -/
lemma marchYear_lt {z₁ z₂ : Int} (h : z₁ < z₂) :
    marchYear z₁ < marchYear z₂ ∨
      (marchYear z₁ = marchYear z₂ ∧ marchDayOfYear z₁ < marchDayOfYear z₂) := by
  obtain ⟨h₀, h₁⟩ := dayOfEra_bounds z₁
  obtain ⟨h₀', h₁'⟩ := dayOfEra_bounds z₂
  have hy₁ := yearOfEra_bounds h₀ h₁
  have hy₂ := yearOfEra_bounds h₀' h₁'
  have e₁ : (z₁ + 719468) % 146097 + 146097 * ((z₁ + 719468) / 146097) = z₁ + 719468 := by
    omega
  have e₂ : (z₂ + 719468) % 146097 + 146097 * ((z₂ + 719468) / 146097) = z₂ + 719468 := by
    omega
  unfold marchYear marchDayOfYear
  generalize (z₁ + 719468) / 146097 = era₁ at e₁ ⊢
  generalize (z₂ + 719468) / 146097 = era₂ at e₂ ⊢
  generalize (z₁ + 719468) % 146097 = doe₁ at h₀ h₁ hy₁ e₁ ⊢
  generalize (z₂ + 719468) % 146097 = doe₂ at h₀' h₁' hy₂ e₂ ⊢
  rcases Int.lt_trichotomy era₁ era₂ with hlt | rfl | hgt
  · -- An earlier era ends before the next one starts.
    left
    omega
  · -- In one era, the later day is in a year of the era no earlier.
    have hdoe : doe₁ < doe₂ := by omega
    have hmono := yearOfEra_mono h₀ (Int.le_of_lt hdoe) h₁'
    rcases Int.lt_or_eq_of_le hmono with hlt | heq
    · left
      omega
    · right
      rw [heq]
      omega
  · omega

/-- Counting the days to 1 March of a day count's March-based year, then its day, gives the
count back. -/
lemma marchYear_start (z : Int) :
    marchYear z / 400 * 146097 + yearStart (marchYear z % 400) + marchDayOfYear z - 719468 = z := by
  obtain ⟨h₀, h₁⟩ := dayOfEra_bounds z
  have hy := yearOfEra_bounds h₀ h₁
  have e : (z + 719468) % 146097 + 146097 * ((z + 719468) / 146097) = z + 719468 := by
    omega
  unfold marchYear marchDayOfYear
  generalize (z + 719468) / 146097 = era at e ⊢
  generalize (z + 719468) % 146097 = doe at h₀ h₁ hy e ⊢
  generalize yearOfEra doe = yoe at hy ⊢
  -- The year of the era and the era are the remainder and quotient of the year by 400.
  have hdiv : (yoe + era * 400) / 400 = era := by omega
  have hmod : (yoe + era * 400) % 400 = yoe := by omega
  rw [hdiv, hmod]
  omega

end Days

/-! ## Main statements -/

/-- **Every day count reads as a valid date**: a month from 1 to 12, and a day that the month
has in that year. -/
theorem civilFromDays_valid (z : Int) :
    1 ≤ (civilFromDays z).2.1 ∧ (civilFromDays z).2.1 ≤ 12 ∧ 1 ≤ (civilFromDays z).2.2 ∧
      (civilFromDays z).2.2 ≤ daysInMonth (civilFromDays z).1 (civilFromDays z).2.1 := by
  rw [civilFromDays_eq]
  have hb := marchDayOfYear_bounds z
  exact fromMarch_valid hb.1 hb.2 (marchYear_leap z)

/-- **Counting the days to the date read from a day count gives the count back.** -/
theorem daysFromCivil_civilFromDays (z : Int) :
    daysFromCivil (civilFromDays z).1 (civilFromDays z).2.1 (civilFromDays z).2.2 = z := by
  rw [civilFromDays_eq]
  have hb := marchDayOfYear_bounds z
  rw [daysFromCivil_fromMarch hb.1 hb.2]
  exact marchYear_start z

/-- **Dates read from day counts come in the order of the counts.** -/
theorem dateKey_civilFromDays_lt {z₁ z₂ : Int} (h : z₁ < z₂) :
    dateKey (civilFromDays z₁) < dateKey (civilFromDays z₂) := by
  rw [civilFromDays_eq, civilFromDays_eq]
  exact dateKey_fromMarch_lt (marchDayOfYear_bounds z₁) (marchDayOfYear_bounds z₂)
    (marchYear_lt h)

example : civilFromDays 0 = (1970, 1, 1) := by decide

lemma daysInMonth_le (y : Int) (m : Nat) : daysInMonth y m ≤ 31 := by
  unfold daysInMonth
  split_ifs <;> decide

/-- The first day of the year 0. -/
lemma civilFromDays_first : civilFromDays (-719528) = (0, 1, 1) := by decide

/-- The last day of the year 9999. -/
lemma civilFromDays_last : civilFromDays 2932896 = (9999, 12, 31) := by decide

/-- **Later day counts read as dates of the same year or a later one.** -/
theorem civilFromDays_year_le {z₁ z₂ : Int} (h : z₁ ≤ z₂) :
    (civilFromDays z₁).1 ≤ (civilFromDays z₂).1 := by
  rcases Int.lt_or_eq_of_le h with hlt | rfl
  · -- The date key puts the year above a month and a day that never reach it.
    have hk := dateKey_civilFromDays_lt hlt
    have hv₁ := civilFromDays_valid z₁
    have hv₂ := civilFromDays_valid z₂
    have hm₁ := daysInMonth_le (civilFromDays z₁).1 (civilFromDays z₁).2.1
    have hm₂ := daysInMonth_le (civilFromDays z₂).1 (civilFromDays z₂).2.1
    unfold dateKey at hk
    omega
  · exact Int.le_refl _

/-- **The day counts of the years 0 to 9999 read as dates of those years.** -/
theorem civilFromDays_year_bounds {z : Int} (h₀ : -719528 ≤ z) (h₁ : z ≤ 2932896) :
    0 ≤ (civilFromDays z).1 ∧ (civilFromDays z).1 ≤ 9999 := by
  have hlo := civilFromDays_year_le h₀
  have hhi := civilFromDays_year_le h₁
  rw [civilFromDays_first] at hlo
  rw [civilFromDays_last] at hhi
  exact ⟨hlo, hhi⟩

end Calendar

end JobQueue
