import JobQueue.Cron.Spec
import JobQueue.Proofs.Numerals
import JobQueue.Proofs.StoredTime

/-!
# The day-of-week field of a cron expression

Users write cron expressions with five fields. Before the expression is handed to the pattern
reader it is rewritten: a `0` for the seconds goes in front, and the day-of-week field is
spelled out as day names, so that the numbering of the days (0 and 7 both Sunday) cannot be
misread. This file says which fields are accepted and what they are spelled out as, without
the parser: a field is `*`, `?`, or a comma-separated list of parts, each a range (`*`, a day,
or `a-b`) with an optional step `/k`; it selects the days each part runs through, every
`k`-th, folded onto the week.

A single day with a step greater than one runs to 7, as in `5/2`, "from Friday, every second
day". A single day with the step 1 stays that one day: `5/1` is Friday alone, not Friday to
Sunday (`single_day_step_one_alone`).

**Main statements**

* `Cron.DayToken`, `Cron.DayPart.Spells` — the grammar of days and parts.
* `Cron.DayPart.Selects`, `Cron.DayPart.Hits`, `Cron.render`, `Cron.SpelledOut` — the days a
  part selects, the weekdays it hits, and the spelled-out field.
* `Cron.partDays_eq_ok_iff` — the days the rewriting reads off a part.
* `Cron.weekdayField_eq_ok_iff` — which fields are accepted, and what they become.
* `Cron.sixFields_eq_ok_iff` — which expressions are accepted, and what they become.
-/

namespace JobQueue.Cron

/-! ## Splitting at a character -/

/-- A list holding `c` is what comes before the first `c`, then `c`, then the rest; `p` tells
the other characters from `c`. -/
lemma takeWhile_append_cons_drop {p : Char → Bool} {c : Char} (hp : ∀ x, p x = false ↔ x = c) :
    ∀ {cs : List Char}, c ∈ cs → cs.takeWhile p ++ c :: (cs.dropWhile p).drop 1 = cs
  | [], h => absurd h List.not_mem_nil
  | x :: cs, h => by
    by_cases hx : x = c
    · subst hx
      have hpx : ¬p x = true := by simp [(hp x).2 rfl]
      rw [List.takeWhile_cons_of_neg hpx, List.dropWhile_cons_of_neg hpx]
      rfl
    · have hpx : p x = true := by
        cases hb : p x
        · exact absurd ((hp x).1 hb) hx
        · rfl
      have hcs : c ∈ cs := (List.mem_cons.1 h).resolve_left (Ne.symm hx)
      rw [List.takeWhile_cons_of_pos hpx, List.dropWhile_cons_of_pos hpx, List.cons_append,
        takeWhile_append_cons_drop hp hcs]

/-- **Splitting at the first `c`** gives the text before it, which holds no `c`, and the text
after it. -/
lemma splitOnce_eq_some_iff {s a b : String} {c : Char} :
    splitOnce s c = some (a, b) ↔ s = a ++ String.singleton c ++ b ∧ c ∉ a.toList := by
  have hp : ∀ x, decide (x ≠ c) = false ↔ x = c := by simp
  unfold splitOnce
  dsimp only
  constructor
  · intro h
    split at h
    · rename_i hc
      obtain ⟨rfl, rfl⟩ := Prod.mk.inj (Option.some.inj h)
      have hmem : c ∈ s.toList := by simpa using hc
      refine ⟨String.toList_inj.1 ?_, fun hin => ?_⟩
      · simp only [String.toList_append, String.toList_ofList, String.toList_singleton,
          List.append_assoc, List.singleton_append]
        exact (takeWhile_append_cons_drop hp hmem).symm
      · rw [String.toList_ofList] at hin
        simpa using List.all_eq_true.1 List.all_takeWhile c hin
    · cases h
  · rintro ⟨rfl, ha⟩
    have hne : ∀ x ∈ a.toList, decide (x ≠ c) = true := fun x hx => by
      simp only [ne_eq, decide_eq_true_eq]
      rintro rfl
      exact ha hx
    have hsplit : (a.toList ++ c :: b.toList).takeWhile (fun x => decide (x ≠ c)) = a.toList ∧
        (a.toList ++ c :: b.toList).dropWhile (fun x => decide (x ≠ c)) = c :: b.toList := by
      rw [List.takeWhile_append_of_pos hne, List.dropWhile_append_of_pos hne]
      simp
    simp only [String.toList_append, String.toList_singleton, List.append_assoc,
      List.singleton_append, hsplit, List.contains_iff_mem, List.mem_append, List.mem_cons,
      true_or, or_true, if_true, String.ofList_toList, List.drop_one, List.tail_cons]

/-- Splitting finds nothing exactly when there is no `c`. -/
lemma splitOnce_eq_none_iff {s : String} {c : Char} : splitOnce s c = none ↔ c ∉ s.toList := by
  unfold splitOnce
  dsimp only
  split <;> simp_all

/-! ## Days -/

/-- **A day as written**: a numeral that the unsigned reader takes, of value 0 to 7 (0 and 7
are both Sunday), or a day name `SUN` … `SAT` with its letters in either case. -/
def DayToken (t : String) (d : Nat) : Prop :=
  parseNatural? t wordBound = some d ∧ d ≤ 7 ∨
    d < 7 ∧ t.toList.map Char.toLower = (dayNames.getD d "").toList.map Char.toLower

/-- The characters of an unsigned numeral are digits and a `+`. -/
lemma mem_of_parseNatural? {t : String} {n : Nat} (h : parseNatural? t wordBound = some n)
    {x : Char} (hx : x ∈ t.toList) : x = '+' ∨ x.isDigit = true := by
  obtain ⟨⟨ds, -, hd, ⟨rfl | h, -⟩ | ⟨hs, -, -⟩⟩, -⟩ := parseNatural?_eq_some_iff.1 h
  · exact .inr (hd x hx)
  · rw [h] at hx
    rcases List.mem_cons.1 hx with rfl | hx
    · exact .inl rfl
    · exact .inr (hd x hx)
  · cases hs

/-- A day name in lower case has letters only. -/
lemma isAlpha_of_mem_dayName {d : Nat} (hd : d < 7) {x : Char}
    (hx : x ∈ (dayNames.getD d "").toList.map Char.toLower) : x.isAlpha = true := by
  have hall : ∀ i < 7, ((dayNames.getD i "").toList.map Char.toLower).all Char.isAlpha = true := by
    decide
  exact List.all_eq_true.1 (hall d hd) x hx

/-- A character that is not a letter is kept by `Char.toLower`. -/
lemma toLower_of_not_isAlpha {x : Char} (h : x.isAlpha = false) : x.toLower = x := by
  have hu : x.isUpper = false := (Bool.or_eq_false_iff.1 h).1
  unfold Char.toLower
  rw [dif_neg]
  intro hc
  have hup : x.isUpper = true := decide_eq_true hc
  rw [hu] at hup
  cases hup

/-- A day written as a name holds letters only. -/
lemma isAlpha_of_dayName {t : String} {d : Nat} (hd : d < 7)
    (h : t.toList.map Char.toLower = (dayNames.getD d "").toList.map Char.toLower)
    {x : Char} (hx : x ∈ t.toList) : x.isAlpha = true := by
  cases hna : x.isAlpha
  · have hlow : x ∈ (dayNames.getD d "").toList.map Char.toLower := by
      rw [← h, ← toLower_of_not_isAlpha hna]
      exact List.mem_map_of_mem hx
    rw [← hna]
    exact isAlpha_of_mem_dayName hd hlow
  · rfl

/-- **A day as written holds digits, `+` and letters only**: no `/`, `-` or `,`. -/
lemma DayToken.mem {t : String} {d : Nat} (h : DayToken t d) {x : Char} (hx : x ∈ t.toList) :
    x = '+' ∨ x.isDigit = true ∨ x.isAlpha = true := by
  rcases h with ⟨hp, -⟩ | ⟨hd, hn⟩
  · rcases mem_of_parseNatural? hp hx with h | h
    · exact .inl h
    · exact .inr (.inl h)
  · exact .inr (.inr (isAlpha_of_dayName hd hn hx))

/-- So a character that is neither `+`, a digit nor a letter is in no day as written. -/
lemma DayToken.not_mem {t : String} {d : Nat} (h : DayToken t d) {c : Char}
    (hc : c ≠ '+' ∧ c.isDigit = false ∧ c.isAlpha = false) : c ∉ t.toList := fun hx => by
  obtain ⟨hplus, hdigit, halpha⟩ := hc
  rcases h.mem hx with h | h | h
  · exact hplus h
  · rw [hdigit] at h
    cases h
  · rw [halpha] at h
    cases h

/-- A digit is not a letter. -/
lemma not_isAlpha_of_isDigit {x : Char} (h : x.isDigit = true) : x.isAlpha = false := by
  change (x.val ≥ '0'.val && x.val ≤ '9'.val) = true at h
  change (decide (x.val ≥ 'A'.val ∧ x.val ≤ 'Z'.val) || (x.val ≥ 'a'.val && x.val ≤ 'z'.val)) =
    false
  simp only [Bool.and_eq_true, decide_eq_true_eq, Bool.or_eq_false_iff, Bool.and_eq_false_iff,
    decide_eq_false_iff_not] at h ⊢
  simp only [UInt32.le_iff_toNat_le, Char.reduceVal, UInt32.reduceToNat] at h ⊢
  omega

/-- A day name is not a numeral. -/
lemma parseNatural?_of_dayName {t : String} {d : Nat} (hd : d < 7)
    (h : t.toList.map Char.toLower = (dayNames.getD d "").toList.map Char.toLower) :
    parseNatural? t wordBound = none := by
  -- Names are not empty, so the text has a first character, and it is a letter.
  have hne : t.toList ≠ [] := by
    have hlen : ∀ i < 7, (dayNames.getD i "").toList ≠ [] := by decide
    intro ht
    rw [ht, List.map_nil] at h
    exact hlen d hd (List.map_eq_nil_iff.1 h.symm)
  obtain ⟨x, hx⟩ := List.exists_mem_of_ne_nil _ hne
  cases hp : parseNatural? t wordBound with
  | none => rfl
  | some n =>
    have halpha := isAlpha_of_dayName hd h hx
    rcases mem_of_parseNatural? hp hx with rfl | hdig
    · exact absurd halpha (by decide)
    · rw [not_isAlpha_of_isDigit hdig] at halpha
      cases halpha

/-- The names are told apart in lower case. -/
lemma dayName_lower_inj : ∀ i < 7, ∀ j < 7, (dayNames.getD i "").toList.map Char.toLower =
    (dayNames.getD j "").toList.map Char.toLower → i = j := by
  decide

/-- The name search finds the day whose name the text is, in either case. -/
lemma findIdx?_dayNames {t : String} {d : Nat} :
    dayNames.findIdx? (fun name => asciiLower name == asciiLower t) = some d ↔
      d < 7 ∧ t.toList.map Char.toLower = (dayNames.getD d "").toList.map Char.toLower := by
  have hname : ∀ {i} (h : i < dayNames.length), (asciiLower dayNames[i] == asciiLower t) = true ↔
      t.toList.map Char.toLower = (dayNames.getD i "").toList.map Char.toLower := by
    intro i h
    simp only [asciiLower, beq_iff_eq, String.ofList_inj, List.getD_eq_getElem?_getD,
      List.getElem?_eq_getElem h, Option.getD_some]
    exact eq_comm
  rw [List.findIdx?_eq_some_iff_getElem]
  constructor
  · rintro ⟨hd, hp, -⟩
    exact ⟨hd, (hname hd).1 hp⟩
  · rintro ⟨hd, hp⟩
    refine ⟨hd, (hname hd).2 hp, fun j hj hpj => ?_⟩
    have hjd : j = d := dayName_lower_inj j (by omega) d hd (((hname _).1 hpj).symm.trans hp)
    omega

/-- **The day a token names**: exactly the days as written. -/
lemma dayNumber_eq_ok_iff {t : String} {d : Nat} : dayNumber t = .ok d ↔ DayToken t d := by
  unfold dayNumber DayToken
  cases hp : parseNatural? t wordBound with
  | some n =>
    have hname : ¬(d < 7 ∧ t.toList.map Char.toLower =
        (dayNames.getD d "").toList.map Char.toLower) := fun ⟨hd, h⟩ => by
      rw [parseNatural?_of_dayName hd h] at hp
      cases hp
    simp only [Option.some.injEq, hname, or_false]
    split
    · constructor
      · rintro ⟨⟩
        exact ⟨rfl, by omega⟩
      · rintro ⟨rfl, -⟩
        rfl
    · simp only [reduceCtorEq, false_iff, not_and]
      rintro rfl
      omega
  | none =>
    simp only [reduceCtorEq, false_and, false_or]
    rw [← findIdx?_dayNames]
    split
    · next i hi =>
      rw [hi]
      simp only [Except.ok.injEq, Option.some.injEq]
    · next hi =>
      rw [hi]
      simp

/-! ## Parts -/

/-- The range of a part: every day, one day, or the days from `a` to `b`. -/
inductive DayRange where
  | all
  | day (d : Nat)
  | span (a b : Nat)
  deriving DecidableEq, Repr

/-- A comma-separated part of a day-of-week field: its range and the step written after `/`. -/
structure DayPart where
  range : DayRange
  step : Option Nat
  deriving DecidableEq, Repr

/-- How a range is written: `*`, a day, or two days joined by `-`, the first no later. -/
def DayRange.Spells : DayRange → String → Prop
  | .all, t => t = "*"
  | .day d, t => DayToken t d
  | .span a b, t => ∃ ta tb, t = ta ++ "-" ++ tb ∧ DayToken ta a ∧ DayToken tb b ∧ a ≤ b

/-- How a part is written: its range, then `/k` for a step `k > 0` when it has one. -/
def DayPart.Spells (p : DayPart) (t : String) : Prop :=
  match p.step with
  | none => p.range.Spells t
  | some k =>
    0 < k ∧ ∃ tr ts, t = tr ++ "/" ++ ts ∧ p.range.Spells tr ∧ parseNatural? ts wordBound = some k

namespace DayPart

/-- The first day a part runs from. -/
def first (p : DayPart) : Nat :=
  match p.range with
  | .all => 0
  | .day d => d
  | .span a _ => a

/-- The last day a part runs to. A single day with a step of two or more runs to 7 ("from
Friday, every second day"); with no step, or the step 1, it is that day alone. -/
def last (p : DayPart) : Nat :=
  match p.range, p.step with
  | .all, _ => 6
  | .day _, some (_ + 2) => 7
  | .day d, _ => d
  | .span _ b, _ => b

/-- The step, 1 when none is written. -/
def every (p : DayPart) : Nat := p.step.getD 1

/-- The days `x` a part selects: from its first day to its last, every `every`-th. -/
def Selects (p : DayPart) (x : Nat) : Prop :=
  p.first ≤ x ∧ x ≤ p.last ∧ (x - p.first) % p.every = 0

instance (p : DayPart) (x : Nat) : Decidable (p.Selects x) :=
  inferInstanceAs (Decidable (_ ∧ _ ∧ _))

/-- A part hits weekday `i` when it selects a day that falls on `i` (7 is Sunday, as 0 is). -/
def Hits (p : DayPart) (i : Nat) : Prop := ∃ x, p.Selects x ∧ x % 7 = i

instance (p : DayPart) (i : Nat) : Decidable (p.Hits i) :=
  decidable_of_iff (∃ x < p.last + 1, p.Selects x ∧ x % 7 = i)
    ⟨fun ⟨x, _, h⟩ => ⟨x, h⟩, fun ⟨x, h⟩ => ⟨x, by have := h.1.2.1; omega, h⟩⟩

/-- The days of a part, in increasing order. -/
def days (p : DayPart) : List Nat := Field.everyNth p.every (List.range' p.first (p.last + 1 - p.first))

end DayPart

/-- The days of a list of parts, spelled out: the names of the weekdays they hit, Sunday first,
joined by commas. -/
def render (parts : List DayPart) : String :=
  String.intercalate "," (((List.range 7).filter fun i => decide (∃ p ∈ parts, p.Hits i)).map
    fun i => dayNames.getD i "")

/-- **What a day-of-week field is spelled out as**: `*` and `?` stay; any other field is a
comma-separated list of parts, and is spelled out as the weekdays they hit. -/
def SpelledOut (field out : String) : Prop :=
  (field = "*" ∨ field = "?") ∧ out = field ∨
    field ≠ "*" ∧ field ≠ "?" ∧
      ∃ parts, List.Forall₂ DayPart.Spells parts (field.splitOn ",") ∧ out = render parts

/-- Taking every `k`-th of the numbers from `lo`. -/
lemma mem_everyNth_range' {k lo n x : Nat} :
    x ∈ Field.everyNth k (List.range' lo n) ↔ lo ≤ x ∧ x < lo + n ∧ (x - lo) % k = 0 := by
  simp only [Field.everyNth, List.mem_map, List.mem_filter, List.mem_zipIdx_iff_getElem?,
    beq_iff_eq, Prod.exists]
  constructor
  · rintro ⟨y, i, ⟨hget, hi⟩, rfl⟩
    obtain ⟨hlt, hx⟩ := List.getElem?_eq_some_iff.1 hget
    simp only [List.length_range', List.getElem_range', Nat.one_mul] at hlt hx
    subst hx
    refine ⟨by omega, by omega, ?_⟩
    simpa using hi
  · rintro ⟨h1, h2, h3⟩
    refine ⟨x, x - lo, ⟨?_, h3⟩, rfl⟩
    rw [List.getElem?_range' (by omega)]
    congr 1
    omega

/-- The days of a part are the days it selects. -/
@[simp]
lemma DayPart.mem_days {p : DayPart} {x : Nat} : x ∈ p.days ↔ p.Selects x := by
  simp only [days, mem_everyNth_range', Selects]
  omega

/-- Range texts hold no `/`. -/
lemma DayRange.Spells.slash_not_mem {r : DayRange} {t : String} (h : r.Spells t) :
    '/' ∉ t.toList := by
  cases r with
  | all =>
    subst h
    decide
  | day d => exact h.not_mem (by decide)
  | span a b =>
    obtain ⟨ta, tb, rfl, ha, hb, -⟩ := h
    simp only [String.toList_append, List.mem_append, not_or]
    exact ⟨⟨ha.not_mem (by decide), by decide⟩, hb.not_mem (by decide)⟩

/-- A day is not `*`. -/
lemma DayToken.ne_star {t : String} {d : Nat} (h : DayToken t d) : t ≠ "*" := by
  rintro rfl
  exact h.not_mem (c := '*') (by decide) (by decide)

/-- A single day runs to 7 when its step is two or more. -/
lemma DayPart.last_day {d : Nat} {step : Option Nat} :
    (⟨.day d, step⟩ : DayPart).last = if step.getD 1 > 1 then 7 else d := by
  rcases step with _ | _ | _ | k <;> simp [last]

/-- **The step of a part as written**: its range text, and the step, 1 when none is written. -/
lemma partStep_of_spells {p : DayPart} {t : String} (hp : p.Spells t) :
    ∃ tr, p.range.Spells tr ∧ partStep t = .ok (tr, p.every) := by
  obtain ⟨r, step⟩ := p
  cases step with
  | none =>
    have hs : splitOnce t '/' = none := splitOnce_eq_none_iff.2 hp.slash_not_mem
    exact ⟨t, hp, by simp [partStep, hs, DayPart.every, pure, Except.pure]⟩
  | some k =>
    obtain ⟨hk, tr, ts, rfl, hr, hts⟩ := hp
    have hs : splitOnce (tr ++ "/" ++ ts) '/' = some (tr, ts) :=
      splitOnce_eq_some_iff.2 ⟨rfl, hr.slash_not_mem⟩
    exact ⟨tr, hr, by simp [partStep, hs, hts, hk, DayPart.every, pure, Except.pure]⟩

/-- **The bounds of a range as written**: its first and last day. -/
lemma rangeBounds_of_spells {p : DayPart} {tr : String} (hr : p.range.Spells tr) :
    rangeBounds tr p.every = .ok (p.first, p.last) := by
  obtain ⟨r, step⟩ := p
  cases r with
  | all =>
    subst hr
    rfl
  | day d =>
    have hs : splitOnce tr '-' = none := splitOnce_eq_none_iff.2 (hr.not_mem (by decide))
    have hd : dayNumber tr = .ok d := dayNumber_eq_ok_iff.2 hr
    simp [rangeBounds, hr.ne_star, hs, hd, DayPart.every, DayPart.first, DayPart.last_day, bind,
      Except.bind, pure, Except.pure]
  | span a b =>
    obtain ⟨ta, tb, rfl, ha, hb, -⟩ := hr
    have hs : splitOnce (ta ++ "-" ++ tb) '-' = some (ta, tb) :=
      splitOnce_eq_some_iff.2 ⟨rfl, ha.not_mem (by decide)⟩
    have hne : ta ++ "-" ++ tb ≠ "*" := fun h => by
      have : '-' ∈ (ta ++ "-" ++ tb).toList := by simp [String.toList_append]
      rw [h] at this
      revert this
      decide
    simp [rangeBounds, hne, hs, dayNumber_eq_ok_iff.2 ha, dayNumber_eq_ok_iff.2 hb,
      DayPart.first, DayPart.last, bind, Except.bind, pure, Except.pure]

/-- A part as written runs forwards. -/
lemma DayPart.first_le_last {p : DayPart} {t : String} (hp : p.Spells t) : p.first ≤ p.last := by
  obtain ⟨tr, hr, -⟩ := partStep_of_spells hp
  obtain ⟨r, step⟩ := p
  cases r with
  | all => simp [first]
  | day d =>
    have hd : d ≤ 7 := by rcases hr with ⟨-, h⟩ | ⟨h, -⟩ <;> omega
    rcases step with _ | _ | _ | k <;> simp [first, last, hd]
  | span a b =>
    obtain ⟨-, -, -, -, -, hab⟩ := hr
    exact hab

/-- **A step read off a text** makes a part of it with any range that spells the text before
the `/`. -/
lemma exists_step_of_partStep {t r : String} {k : Nat} (h : partStep t = .ok (r, k)) :
    ∃ step : Option Nat, k = step.getD 1 ∧
      ∀ rg : DayRange, rg.Spells r → (⟨rg, step⟩ : DayPart).Spells t := by
  unfold partStep at h
  split at h
  · next tr ts hs =>
    obtain ⟨rfl, -⟩ := splitOnce_eq_some_iff.1 hs
    split at h
    · next k' hk =>
      split at h
      · next hpos =>
        obtain ⟨rfl, rfl⟩ : r = tr ∧ k = k' := by simpa [pure, Except.pure, eq_comm] using h
        exact ⟨some k, rfl, fun rg hrg => ⟨hpos, r, ts, rfl, hrg, hk⟩⟩
      · cases h
    · cases h
  · next hs =>
    obtain ⟨rfl, rfl⟩ : r = t ∧ k = 1 := by simpa [pure, Except.pure, eq_comm] using h
    exact ⟨none, rfl, fun rg hrg => hrg⟩

/-- **Bounds read off a text**, the first no later than the last, come from a range that
spells it. -/
lemma exists_range_of_rangeBounds {r : String} {step : Option Nat} {lo hi : Nat}
    (h : rangeBounds r (step.getD 1) = .ok (lo, hi)) (hle : lo ≤ hi) :
    ∃ rg : DayRange, rg.Spells r ∧
      (⟨rg, step⟩ : DayPart).first = lo ∧ (⟨rg, step⟩ : DayPart).last = hi := by
  unfold rangeBounds at h
  split at h
  · next hstar =>
    obtain ⟨rfl, rfl⟩ : 0 = lo ∧ 6 = hi := by simpa [pure, Except.pure] using h
    exact ⟨.all, by simpa [DayRange.Spells] using hstar, rfl, rfl⟩
  · split at h
    · next a b hs =>
      simp only [except_bind_eq_ok, pure, Except.pure, Except.ok.injEq, Prod.mk.injEq] at h
      obtain ⟨lo', ha, hi', hb, rfl, rfl⟩ := h
      obtain ⟨rfl, -⟩ := splitOnce_eq_some_iff.1 hs
      refine ⟨.span lo' hi', ⟨a, b, rfl, dayNumber_eq_ok_iff.1 ha, dayNumber_eq_ok_iff.1 hb, hle⟩,
        rfl, rfl⟩
    · simp only [except_bind_eq_ok, pure, Except.pure, Except.ok.injEq, Prod.mk.injEq] at h
      obtain ⟨d, hd, rfl, rfl⟩ := h
      exact ⟨.day d, dayNumber_eq_ok_iff.1 hd, rfl, DayPart.last_day⟩

/-- **The days of a part**: a part is read exactly when it is written as a part, and its days
are the days that part selects. -/
lemma partDays_eq_ok_iff {t : String} {days : List Nat} :
    partDays t = .ok days ↔ ∃ p : DayPart, p.Spells t ∧ days = p.days := by
  constructor
  · intro h
    unfold partDays at h
    simp only [except_bind_eq_ok, Prod.exists] at h
    obtain ⟨r, k, hstep, lo, hi, hb, hrest⟩ := h
    split at hrest
    · cases hrest
    · next hle =>
      obtain ⟨step, rfl, hsp⟩ := exists_step_of_partStep hstep
      obtain ⟨rg, hrg, hfirst, hlast⟩ := exists_range_of_rangeBounds hb (by omega)
      refine ⟨⟨rg, step⟩, hsp rg hrg, ?_⟩
      simp only [pure, Except.pure, Except.ok.injEq] at hrest
      rw [← hrest, DayPart.days, hfirst, hlast]
      rfl
  · rintro ⟨p, hp, rfl⟩
    obtain ⟨tr, hr, hstep⟩ := partStep_of_spells hp
    have hle := DayPart.first_le_last hp
    simp [partDays, hstep, rangeBounds_of_spells hr, Nat.not_lt.2 hle, DayPart.days, bind,
      Except.bind, pure, Except.pure]

/-! ## Fields and expressions -/

/-- A list's `mapM` succeeds exactly when the step succeeds on every element, giving the
values one for one. -/
lemma mapM_eq_ok_iff {ε α β : Type} {f : α → Except ε β} :
    ∀ {xs : List α} {ys : List β}, xs.mapM f = .ok ys ↔ List.Forall₂ (fun x y => f x = .ok y) xs ys
  | [], [] => by simp [pure, Except.pure]
  | [], _ :: _ => by
    simp only [List.mapM_nil, pure, Except.pure, Except.ok.injEq]
    constructor
    · intro h
      cases h
    · intro h
      cases h
  | x :: xs, ys => by
    simp only [List.mapM_cons, except_bind_eq_ok]
    constructor
    · rintro ⟨y, hy, ys', hys', h⟩
      simp only [pure, Except.pure, Except.ok.injEq] at h
      subst h
      exact .cons hy (mapM_eq_ok_iff.1 hys')
    · intro h
      cases h with
      | cons hy hys => exact ⟨_, hy, _, mapM_eq_ok_iff.2 hys, rfl⟩

/-- The items of a field are read exactly when each is written as a part. -/
lemma forall₂_partDays_iff {items : List String} {dayss : List (List Nat)} :
    List.Forall₂ (fun t days => partDays t = .ok days) items dayss ↔
      ∃ parts, List.Forall₂ DayPart.Spells parts items ∧ dayss = parts.map DayPart.days := by
  induction items generalizing dayss with
  | nil =>
    constructor
    · rintro ⟨⟩
      exact ⟨[], .nil, rfl⟩
    · rintro ⟨parts, ⟨⟩, rfl⟩
      exact .nil
  | cons t items ih =>
    constructor
    · intro h
      cases h with
      | cons hd hrest =>
        obtain ⟨p, hp, rfl⟩ := partDays_eq_ok_iff.1 hd
        obtain ⟨ps, hps, rfl⟩ := ih.1 hrest
        exact ⟨p :: ps, .cons hp hps, rfl⟩
    · rintro ⟨parts, hparts, rfl⟩
      cases hparts with
      | cons hp hps => exact .cons (partDays_eq_ok_iff.2 ⟨_, hp, rfl⟩) (ih.2 ⟨_, hps, rfl⟩)

/-- A weekday is marked exactly when one of the parts hits it. -/
lemma contains_days_iff (parts : List DayPart) (i : Nat) :
    ((parts.map DayPart.days).flatten.map (· % 7)).contains i =
      decide (∃ p ∈ parts, p.Hits i) := by
  rw [Bool.eq_iff_iff, decide_eq_true_iff, List.contains_iff_mem]
  simp only [List.mem_map, List.mem_flatten, DayPart.Hits]
  constructor
  · rintro ⟨x, ⟨_, ⟨p, hp, rfl⟩, hx⟩, rfl⟩
    exact ⟨p, hp, x, DayPart.mem_days.1 hx, rfl⟩
  · rintro ⟨p, hp, x, hx, rfl⟩
    exact ⟨x, ⟨_, ⟨p, hp, rfl⟩, DayPart.mem_days.2 hx⟩, rfl⟩

/-- The weekdays marked by the days of the parts, spelled out, are the parts' `render`. -/
lemma intercalate_days_eq_render (parts : List DayPart) :
    String.intercalate "," (((List.range 7).filter
      ((parts.map DayPart.days).flatten.map (· % 7)).contains).map fun i => dayNames.getD i "") =
      render parts := by
  unfold render
  congr 2
  exact List.filter_congr fun i _ => contains_days_iff parts i

/-- **Which day-of-week fields are accepted, and what they become.** -/
lemma weekdayField_eq_ok_iff {field out : String} :
    weekdayField field = .ok out ↔ SpelledOut field out := by
  unfold weekdayField SpelledOut
  by_cases hs : field = "*" ∨ field = "?"
  · have hb : (field == "*" || field == "?") = true := by
      rcases hs with rfl | rfl <;> rfl
    simp only [hb, if_true, Except.ok.injEq]
    constructor
    · rintro rfl
      exact .inl ⟨hs, rfl⟩
    · rintro (⟨-, rfl⟩ | ⟨h1, h2, -⟩)
      · rfl
      · exact absurd hs (not_or.2 ⟨h1, h2⟩)
  · have hb : (field == "*" || field == "?") = false := by
      simpa [Bool.or_eq_false_iff, beq_eq_false_iff_ne] using hs
    obtain ⟨hstar, hquery⟩ := not_or.1 hs
    simp only [hb, Bool.false_eq_true, if_false, except_bind_eq_ok, mapM_eq_ok_iff,
      forall₂_partDays_iff, false_and, false_or, ne_eq, hstar, hquery, not_false_eq_true,
      true_and]
    constructor
    · rintro ⟨_, ⟨parts, hparts, rfl⟩, hout⟩
      simp only [pure, Except.pure, Except.ok.injEq, intercalate_days_eq_render] at hout
      exact ⟨parts, hparts, hout.symm⟩
    · rintro ⟨parts, hparts, rfl⟩
      exact ⟨_, ⟨parts, hparts, rfl⟩, by rw [intercalate_days_eq_render]; rfl⟩

/-- **Which expressions are accepted, and what they become**: a shorthand after `@` passes
unchanged; otherwise the expression has five fields, a `0` for the seconds goes in front, and
the day-of-week field is spelled out. -/
theorem sixFields_eq_ok_iff {e out : String} :
    sixFields e = .ok out ↔
      (Text.trimBlank e).startsWith "@" = true ∧ out = Text.trimBlank e ∨
        (Text.trimBlank e).startsWith "@" = false ∧
          ∃ minute hour day month weekday spelled,
            Text.splitBlank (Text.trimBlank e) = [minute, hour, day, month, weekday] ∧
              SpelledOut weekday spelled ∧ out = s!"0 {minute} {hour} {day} {month} {spelled}" := by
  unfold sixFields
  dsimp only
  cases hat : (Text.trimBlank e).startsWith "@"
  · simp only [Bool.false_eq_true, if_false, false_and, false_or, true_and]
    split
    · next minute hour day month weekday hsplit =>
      simp only [except_bind_eq_ok, weekdayField_eq_ok_iff, hsplit, List.cons.injEq, and_true,
        pure, Except.pure, Except.ok.injEq]
      constructor
      · rintro ⟨spelled, hw, rfl⟩
        exact ⟨minute, hour, day, month, weekday, spelled, ⟨rfl, rfl, rfl, rfl, rfl⟩, hw, rfl⟩
      · rintro ⟨_, _, _, _, _, spelled, ⟨rfl, rfl, rfl, rfl, rfl⟩, hw, rfl⟩
        exact ⟨spelled, hw, rfl⟩
    · next fields hfive =>
      simp only [reduceCtorEq, false_iff, not_exists, not_and]
      intro minute hour day month weekday spelled hsplit
      exact absurd hsplit (hfive minute hour day month weekday)
  · simp [eq_comm]

/-- With the step 1 a single day is that day alone: `5/1` is Friday, not Friday to Sunday. -/
theorem single_day_step_one_alone : sixFields "0 0 * * 5/1" = .ok "0 0 0 * * FRI" := by
  have htrim : Text.trimBlank "0 0 * * 5/1" = "0 0 * * 5/1" := by decide
  have hat : "0 0 * * 5/1".startsWith "@" = false := by
    rw [String.startsWith_string_eq_false_iff]
    decide
  have hfields : Text.splitBlank "0 0 * * 5/1" = ["0", "0", "*", "*", "5/1"] := by decide
  have hparts : "5/1".splitOn "," = ["5/1"] := by simp +decide [String.splitOn, String.splitOnAux]
  have hweekday : weekdayField "5/1" = .ok "FRI" := by
    unfold weekdayField
    rw [hparts]
    rfl
  simp only [sixFields, htrim, hat, Bool.false_eq_true, if_false, hfields, hweekday]
  rfl

end JobQueue.Cron
