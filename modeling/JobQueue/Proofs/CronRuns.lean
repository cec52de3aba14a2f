import JobQueue.Proofs.Cadence
import JobQueue.Time.Zone.Catalog

/-!
# Cron runs

A cron schedule runs at the firings of its expression from its start on. Its run after an
instant is what the cron search answers from the *origin* (`Schedule.cronOrigin`): the second
before the start, cut to the whole second, so that a firing in the start's own second counts,
or the instant asked about when that is later. The search itself is not this library's code;
what it promises is `CronSearch.Earliest`: firings fall on whole seconds, and from any instant
the search answers, when it answers, a firing strictly after it with none in between.

**The origin.** The second before a start's whole second is the second before it, or, inside
a leap second, the second the leap second extends (`Instant.truncSeconds_addSeconds?_neg_one`).
It is on the time line for every start but one in the first second of the time line
(`Schedule.cronOrigin_isSome_iff`), and a whole second after it is no earlier than the start's
whole second (`Instant.truncSeconds_le_of_floor_lt`).

**The runs.** Given an earliest search, every run lies at or after the start's whole second,
the run after an instant lies strictly after it, and later instants give runs no earlier
(`Schedule.cron_runs_advance`). The start counts only to the whole second: a firing in the
start's own second but before the start is a run (`Schedule.cron_first_run_before_fractional_start`).

**Main statements**

* `Instant.truncSeconds_addSeconds?_neg_one`, `Instant.truncSeconds_le_of_floor_lt` — the
  second before an instant's whole second.
* `CronSearch.Earliest`, `CronSearch.Earliest.mono` — what the search promises, and that later
  instants get answers no earlier; `CronSearch.nextMinute_earliest`, a search that keeps it.
* `Schedule.cronOrigin_isSome_iff`, `Schedule.le_cronOrigin`, `Schedule.cronOrigin_mono` — where
  the search begins.
* `Schedule.CronContract`, `Schedule.cron_runs_advance` — the contract of cron runs, and that
  every earliest search keeps it.
* `Schedule.cron_first_run_before_fractional_start` — a first run before a start that lies
  within a second.
-/

namespace JobQueue

/-- An answer that reads as a value was that value. -/
lemma Except.eq_ok_of_toOption {ε α : Type} {r : Except ε α} {v : α}
    (h : r.toOption = some v) : r = .ok v := by
  cases r <;> simp_all [Except.toOption]

namespace Instant

variable {t u f : Instant}

/-- Instants are preordered by their keys. -/
instance : Preorder Instant where
  le := (· ≤ ·)
  lt := (· < ·)
  le_refl a := Int.le_refl a.key
  le_trans _ _ _ := Int.le_trans
  lt_iff_le_not_ge _ _ := Int.lt_iff_le_and_not_ge

/-- An instant not before another is no earlier than it. -/
lemma le_of_not_lt (h : ¬ t < u) : u ≤ t := Int.not_lt.1 h

/-- The instant of a count of whole seconds, taken as nanoseconds. -/
lemma ofNanos_mul_second (s : Int) : ofNanos (s * 1000000000) = ofSeconds s := by
  simp only [ofNanos, ofSeconds, mk.injEq]
  omega

/-- **Shifting an instant inside a leap second back by a second or more** starts from the
second after it. -/
lemma shift_of_leap_neg (h : t.isLeap = true) {d : Int} (hd : d ≤ -1000000000) :
    t.shift d = ofNanos (t.toNanos + d) := by
  have hs : wholeSeconds d < 0 := by
    unfold wholeSeconds
    split_ifs <;> omega
  have hf : ¬ d - wholeSeconds d * 1000000000 > 0 := by
    unfold wholeSeconds
    split_ifs <;> omega
  simp only [shift, h, if_true, show ¬ wholeSeconds d > 0 by omega, decide_false,
    hf, Bool.false_and, Bool.or_self, Bool.false_eq_true, if_false, hs]

/-- The second before an instant's whole second, as a count: the second before it, or, inside
a leap second, the second the leap second extends. -/
def secondBefore (t : Instant) : Int := if t.isLeap then t.secs else t.secs - 1

/-- **The second before an instant's whole second** is the instant of `secondBefore`, when that
is on the time line. -/
lemma truncSeconds_addSeconds?_neg_one (t : Instant) :
    t.truncSeconds.addSeconds? (-1) =
      if (ofSeconds t.secondBefore).inRange then some (ofSeconds t.secondBefore) else none := by
  cases hl : t.isLeap
  · -- Outside a leap second the whole second is a count, and a shift adds to it.
    have htl : t.truncSeconds.isLeap = false := by rw [truncSeconds_isLeap, hl]
    have hn : t.truncSeconds.toNanos + -1 * 1000000000 = t.secondBefore * 1000000000 := by
      simp only [truncSeconds, secondBefore, hl, Bool.false_eq_true, if_false, toNanos]
      omega
    rw [addSeconds?_eq htl, hn, ofNanos_mul_second]
  · -- Inside one, the whole second is the leap second's start, and a second back from it
    -- is the second it extends.
    have htl : t.truncSeconds.isLeap = true := by rw [truncSeconds_isLeap, hl]
    have hn : t.truncSeconds.toNanos + -1 * 1000000000 = t.secondBefore * 1000000000 := by
      simp only [truncSeconds, secondBefore, hl, if_true, toNanos, nanosPerSecond]
      omega
    simp only [addSeconds?, addNanos?, shift_of_leap_neg htl (by omega : -1 * 1000000000 ≤
      -1000000000), hn, ofNanos_mul_second]

/-- The second before an instant's whole second is a whole second. -/
lemma floor_eq (h : t.truncSeconds.addSeconds? (-1) = some f) : f = ofSeconds t.secondBefore := by
  rw [truncSeconds_addSeconds?_neg_one] at h
  split at h
  · exact (Option.some.inj h).symm
  · cases h

/-- **A whole second after the second before an instant's whole second** is no earlier than
that whole second. -/
lemma truncSeconds_le_of_floor_lt (hf : t.truncSeconds.addSeconds? (-1) = some f)
    (hu : u.nanos = 0) (h : f < u) : t.truncSeconds ≤ u := by
  rw [floor_eq hf] at h
  change _ < u.key at h
  change t.truncSeconds.key ≤ u.key
  rw [truncSeconds_key, nanos_div]
  unfold key at h ⊢
  cases hl : t.isLeap <;> simp only [secondBefore, hl, ofSeconds, if_true,
    Bool.false_eq_true, if_false] at h ⊢ <;> omega

end Instant

/-! ## What the cron search promises -/

/-- **What a cron search promises**: firings fall on whole seconds, and from an instant the
search answers, when it answers, a firing strictly after it with no firing in between. -/
structure CronSearch.Earliest (fires : Instant → Prop)
    (search : Instant → Except TimeFault (Option Instant)) : Prop where
  whole : ∀ {t}, fires t → t.nanos = 0
  fired : ∀ {x t}, search x = .ok (some t) → fires t
  after : ∀ {x t}, search x = .ok (some t) → x < t
  least : ∀ {x t f}, search x = .ok (some t) → fires f → x < f → t ≤ f

namespace CronSearch.Earliest

variable {fires : Instant → Prop} {search : Instant → Except TimeFault (Option Instant)}
  {x y t u : Instant}

/-- **An earliest search answers later instants no earlier**: the answer from the later
instant is a firing after the earlier one too. -/
lemma mono (hs : Earliest fires search) (hxy : x ≤ y) (hx : search x = .ok (some t))
    (hy : search y = .ok (some u)) : t ≤ u :=
  hs.least hx (hs.fired hy) (lt_of_le_of_lt hxy (hs.after hy))

end CronSearch.Earliest

namespace CronSearch

/-! ## A search that keeps the promise -/

/-- Whole minutes: the firings of `* * * * *` in UTC. -/
def onMinute (t : Instant) : Prop := t.nanos = 0 ∧ t.secs % 60 = 0

/-- The first whole minute strictly after an instant: the search of `* * * * *` in UTC, within
the years it covers. -/
def nextMinute (x : Instant) : Except TimeFault (Option Instant) :=
  .ok (some (Instant.ofSeconds ((x.secs / 60 + 1) * 60)))

lemma nextMinute_eq {x t : Instant} (h : nextMinute x = .ok (some t)) :
    t = Instant.ofSeconds ((x.secs / 60 + 1) * 60) := by
  simp only [nextMinute, Except.ok.injEq, Option.some.injEq] at h
  exact h.symm

/-- The search for the next whole minute answers the earliest whole minute after an instant. -/
lemma nextMinute_earliest : Earliest onMinute nextMinute where
  whole h := h.1
  fired h := by
    rw [nextMinute_eq h]
    exact ⟨rfl, Int.mul_emod_left _ _⟩
  after {x _} h := by
    rw [nextMinute_eq h]
    have hn := x.nanos_lt
    change x.key < (Instant.ofSeconds _).key
    simp only [Instant.key, Instant.ofSeconds, Nat.cast_zero, Int.add_zero]
    unfold nanosPerSecond at hn
    omega
  least {x _ f} h hf hxf := by
    -- A whole minute after `x` lies in a later second, and whole minutes are sixty apart.
    obtain ⟨hf0, hf60⟩ := hf
    rw [nextMinute_eq h]
    change x.key < f.key at hxf
    change (Instant.ofSeconds _).key ≤ f.key
    simp only [Instant.key, Instant.ofSeconds, hf0, Nat.cast_zero, Int.add_zero] at hxf ⊢
    omega

end CronSearch

/-! ## Where the search begins -/

namespace Schedule

variable {start a b o oa ob : Instant} {after : Option Instant}

/-- For a start on the time line, **the search has an origin** exactly when the start lies past
the first second of the time line or inside a leap second. -/
lemma cronOrigin_isSome_iff (h : start.inRange = true) :
    (cronOrigin start after).isSome ↔
      Instant.minimum.secs < start.secs ∨ start.isLeap = true := by
  have hsecond : (Instant.ofSeconds start.secondBefore).inRange = true ↔
      Instant.minimum.secs < start.secs ∨ start.isLeap = true := by
    simp only [Instant.inRange, Bool.and_eq_true, decide_eq_true_eq] at h
    cases hl : start.isLeap
    · simp only [Instant.inRange, Instant.ofSeconds, Instant.secondBefore, hl,
        Bool.false_eq_true, if_false, or_false, Bool.and_eq_true, decide_eq_true_eq]
      omega
    · simp only [Instant.inRange, Instant.ofSeconds, Instant.secondBefore, hl, if_true,
        or_true, iff_true, Bool.and_eq_true, decide_eq_true_eq]
      omega
  rw [cronOrigin, Option.isSome_map, Instant.truncSeconds_addSeconds?_neg_one, ← hsecond]
  split_ifs with hin <;> simp [hin]

/-- The origin is the second before the start's whole second, or the instant asked about. -/
lemma cronOrigin_eq_some (h : cronOrigin start after = some o) :
    ∃ f, start.truncSeconds.addSeconds? (-1) = some f ∧ f ≤ o ∧ ∀ a, after = some a → a ≤ o := by
  rw [cronOrigin, Option.map_eq_some_iff] at h
  obtain ⟨f, hf, rfl⟩ := h
  refine ⟨f, hf, ?_, ?_⟩
  · cases after with
    | none => exact le_refl f
    | some a =>
      simp only
      split_ifs with hfa
      · exact le_of_lt hfa
      · exact le_refl f
  · rintro a rfl
    simp only
    split_ifs with hfa
    · exact le_refl a
    · exact Instant.le_of_not_lt hfa

/-- The search begins no earlier than the instant asked about. -/
lemma le_cronOrigin (h : cronOrigin start (some a) = some o) : a ≤ o := by
  obtain ⟨-, -, -, ha⟩ := cronOrigin_eq_some h
  exact ha a rfl

/-- **A later instant asked about gives a later origin.** -/
lemma cronOrigin_mono (ha : cronOrigin start (some a) = some oa)
    (hb : cronOrigin start (some b) = some ob) (hab : a ≤ b) : oa ≤ ob := by
  rw [cronOrigin, Option.map_eq_some_iff] at ha hb
  obtain ⟨f, hf, rfl⟩ := ha
  obtain ⟨f', hf', rfl⟩ := hb
  obtain rfl : f = f' := Option.some.inj (hf.symm.trans hf')
  simp only
  split_ifs with h₁ h₂ h₂
  · exact hab
  · exact le_trans hab (Instant.le_of_not_lt h₂)
  · exact le_of_lt h₂
  · exact le_refl f

/-! ## The runs -/

variable {search : Instant → Except TimeFault (Option Instant)} {r : Option Instant}

/-- A run that is answered at all comes from the search, begun at the origin. -/
lemma cronOrigin_of_cronNext (h : cronNext search start after = .ok r) :
    ∃ o, cronOrigin start after = some o ∧ search o = .ok r := by
  unfold cronNext at h
  split at h
  · cases h
  · exact ⟨_, ‹_›, h⟩

/-- **What cron runs from `start` promise**, given the search they use. -/
structure CronContract (search : Instant → Except TimeFault (Option Instant)) (start : Instant) :
    Prop where
  /-- Every run, the first or the one after an instant, lies at or after the start cut to the
  whole second. -/
  not_before_start : ∀ after t, cronNext search start after = .ok (some t) →
    start.truncSeconds ≤ t
  /-- The run after `a` lies strictly after `a`. -/
  advances : ∀ a t, cronNext search start (some a) = .ok (some t) → a < t
  /-- Later instants give runs no earlier. -/
  monotone : ∀ a b ta tb, a ≤ b → cronNext search start (some a) = .ok (some ta) →
    cronNext search start (some b) = .ok (some tb) → ta ≤ tb
  /-- For a start on the time line, the search has an origin, so the schedule's own arithmetic
  succeeds, exactly when the start lies past the first second of the time line or inside a leap
  second. -/
  has_origin : start.inRange = true → ∀ after,
    ((cronOrigin start after).isSome ↔ Instant.minimum.secs < start.secs ∨ start.isLeap = true)

/-- **Cron runs never precede the start's whole second and always advance**, for every start,
whenever the search answers the earliest firing strictly after an instant. -/
theorem cron_runs_advance {fires : Instant → Prop} (hs : CronSearch.Earliest fires search)
    (start : Instant) : CronContract search start where
  not_before_start after t h := by
    -- The run lies after the origin, which is no earlier than the second before the start.
    obtain ⟨o, ho, hso⟩ := cronOrigin_of_cronNext h
    obtain ⟨f, hf, hfo, -⟩ := cronOrigin_eq_some ho
    exact Instant.truncSeconds_le_of_floor_lt hf (hs.whole (hs.fired hso))
      (lt_of_le_of_lt hfo (hs.after hso))
  advances a t h := by
    obtain ⟨o, ho, hso⟩ := cronOrigin_of_cronNext h
    exact lt_of_le_of_lt (le_cronOrigin ho) (hs.after hso)
  monotone a b ta tb hab ha hb := by
    -- Origins keep the order of the instants asked about, and the search keeps theirs.
    obtain ⟨oa, hoa, hsa⟩ := cronOrigin_of_cronNext ha
    obtain ⟨ob, hob, hsb⟩ := cronOrigin_of_cronNext hb
    exact hs.mono (cronOrigin_mono hoa hob hab) hsa hsb
  has_origin h _ := cronOrigin_isSome_iff h

/-- From midnight on 2024-01-01, runs by the search for the next whole minute keep the
contract. -/
theorem every_minute_runs_advance :
    CronSearch.Earliest CronSearch.onMinute CronSearch.nextMinute ∧
      CronContract CronSearch.nextMinute ⟨1704067200, 0, by decide⟩ :=
  ⟨CronSearch.nextMinute_earliest, cron_runs_advance CronSearch.nextMinute_earliest _⟩

/-- **A first run before the start.** From 08:30:00.5 on 2024-06-15, `30 8 * * *` in UTC runs
first at 08:30:00 that day, half a second before its start: the start counts only to the whole
second. -/
theorem cron_first_run_before_fractional_start :
    ∃ spec, CronSpec.withZone "30 8 * * *" Zone.utc = .ok spec ∧
      (cron ⟨1718440200, 500000000, by decide⟩ spec).firstRun =
        .ok (some ⟨1718440200, 0, by decide⟩) ∧
      (⟨1718440200, 0, by decide⟩ : Instant) < ⟨1718440200, 500000000, by decide⟩ := by
  have hsix : Cron.sixFields "30 8 * * *" = .ok "0 30 8 * * *" :=
    Except.eq_ok_of_toOption (by decide +kernel)
  have htrim : Text.trimBlank "30 8 * * *" = "30 8 * * *" := by decide
  refine ⟨_, by simp only [CronSpec.withZone, hsix, htrim]; rfl, ?_, by decide⟩
  exact Except.eq_ok_of_toOption (by decide +kernel)

end Schedule

end JobQueue
