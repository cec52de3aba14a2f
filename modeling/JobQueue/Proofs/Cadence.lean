import JobQueue.Proofs.StoredTime
import JobQueue.Schedule.Basic
import Mathlib.Tactic.Linarith

/-!
# The cadence of an interval schedule

An interval schedule runs at `start`, then every `p` seconds after it. Its next run after an
instant is meant to be the first point `start + k·p` of that grid strictly after the instant.
This module proves that it is, whenever neither `start` nor the instant lies inside a leap
second, and shows how a leap second breaks it.

Outside leap seconds an instant is a count of nanoseconds (`Instant.toNanos`): instants compare
as their counts, the time from one to another is the difference of the counts, and a shift
adds to the count. A leap second has no place on that count. Shifting an instant inside one
starts from the second it follows, while the time from it to a later instant is counted as if
it were a second of its own, so the grid point found can lie at or before the instant asked
about.

**Main statements**

* `Instant.since_eq`, `Instant.shift_eq`, `Instant.lt_iff_toNanos_lt` — instants outside leap
  seconds as nanosecond counts.
* `Schedule.gridAfter_least` — the grid point found is the least one strictly after the
  instant.
* `Schedule.next_interval_least` — the same for the next run of an interval schedule.
* `Schedule.interval_cadence` — the whole cadence law (`Schedule.Cadence`): the first run, the
  run before the start, the least grid point after any other instant or none exactly past the
  end of the time line, for every period a 64-bit count holds; hence runs follow the grid.
* `Schedule.leap_start_next_repeats` — from a start inside a leap second, a next run can be
  the instant asked about itself.
* `Instant.shift_second` — a second later is the next second, from inside a leap second too.
* `Instant.lt_truncSeconds_of_le` — a run no earlier than a second after a slot starts in a
  later second.
-/

namespace JobQueue

namespace Instant

variable {a b t : Instant}

/-! ## Instants as nanosecond counts -/

/-- Outside a leap second the nanoseconds are under a second. -/
lemma nanos_lt_of_not_leap (h : t.isLeap = false) : t.nanos < 1000000000 := by
  simpa [isLeap, nanosPerSecond] using h

@[simp] lemma ofNanos_isLeap (n : Int) : (ofNanos n).isLeap = false := by
  have : ((n % 1000000000).toNat : Int) < 1000000000 := by omega
  simp only [isLeap, ofNanos, nanosPerSecond]
  exact decide_eq_false (by omega)

lemma ofNanos_secs (n : Int) : (ofNanos n).secs = n / 1000000000 := rfl

/-- An instant outside a leap second is the instant of its nanosecond count. -/
lemma ofNanos_toNanos (h : t.isLeap = false) : ofNanos t.toNanos = t := by
  have hn := nanos_lt_of_not_leap h
  obtain ⟨secs, nanos, hlt⟩ := t
  simp only [ofNanos, toNanos, mk.injEq] at hn ⊢
  omega

/-- Outside leap seconds, instants compare as their nanosecond counts. -/
lemma lt_iff_toNanos_lt (ha : a.isLeap = false) (hb : b.isLeap = false) :
    a < b ↔ a.toNanos < b.toNanos := by
  have := nanos_lt_of_not_leap ha
  have := nanos_lt_of_not_leap hb
  change a.key < b.key ↔ _
  unfold key toNanos
  omega

lemma le_iff_toNanos_le (ha : a.isLeap = false) (hb : b.isLeap = false) :
    a ≤ b ↔ a.toNanos ≤ b.toNanos := by
  have := nanos_lt_of_not_leap ha
  have := nanos_lt_of_not_leap hb
  change a.key ≤ b.key ↔ _
  unfold key toNanos
  omega

/-- **The time between instants outside leap seconds** is the difference of their counts. -/
lemma since_eq (ha : a.isLeap = false) (hb : b.isLeap = false) :
    a.since b = a.toNanos - b.toNanos := by
  have e₁ := Int.emod_add_mul_ediv a.secs 86400
  have e₂ := Int.emod_add_mul_ediv b.secs 86400
  simp only [since, ha, hb, Bool.and_false, Bool.false_eq_true, if_false, toNanos]
  omega

/-- **Shifting an instant outside a leap second** adds to its count. -/
lemma shift_eq (h : t.isLeap = false) (d : Int) : t.shift d = ofNanos (t.toNanos + d) := by
  simp only [shift, h, Bool.false_eq_true, if_false]

/-- A shift by whole seconds from an instant outside a leap second lands on its count plus the
seconds, when that is in range. -/
lemma addSeconds?_eq (h : t.isLeap = false) (k : Int) :
    t.addSeconds? k = if (ofNanos (t.toNanos + k * 1000000000)).inRange then
      some (ofNanos (t.toNanos + k * 1000000000)) else none := by
  simp only [addSeconds?, addNanos?, shift_eq h]

/-- **Shifting an instant inside a leap second forward by a second or more** starts from the
second it follows. -/
lemma shift_of_leap (h : t.isLeap = true) {d : Int} (hd : 1000000000 ≤ d) :
    t.shift d = ofNanos (t.toNanos - 1000000000 + d) := by
  have hs : wholeSeconds d > 0 := by
    unfold wholeSeconds
    split_ifs <;> omega
  simp only [shift, h, if_true, hs, decide_true, Bool.true_or]

lemma wholeSeconds_of_nonneg {d : Int} (h : 0 ≤ d) : wholeSeconds d = d / 1000000000 := by
  simp only [wholeSeconds, show ¬ d < 0 by omega, if_false]

/-- **A shift by a second lands in the next second**, outside any leap second, whether or not
it starts inside one. -/
lemma shift_second (t : Instant) :
    (t.shift 1000000000).secs = t.secs + 1 ∧ (t.shift 1000000000).isLeap = false := by
  have hn := t.nanos_lt
  cases hl : t.isLeap
  · have := nanos_lt_of_not_leap hl
    simp only [shift_eq hl, ofNanos_isLeap, and_true, ofNanos_secs, toNanos]
    omega
  · have h1 : t.nanos ≥ 1000000000 := by simpa [isLeap, nanosPerSecond] using hl
    simp only [shift_of_leap hl (le_refl _), ofNanos_isLeap, and_true, ofNanos_secs, toNanos]
    unfold nanosPerSecond at hn
    omega

/-- A second after any instant lies in the next second, outside any leap second. -/
lemma addSeconds?_one {t u : Instant} (h : t.addSeconds? 1 = some u) :
    u.secs = t.secs + 1 ∧ u.isLeap = false := by
  simp only [addSeconds?, addNanos?, Int.one_mul, Option.ite_none_right_eq_some,
    Option.some.injEq] at h
  obtain ⟨-, rfl⟩ := h
  exact shift_second t

/-- **A second after an instant exists** unless the instant lies in the last representable
second. -/
lemma addSeconds?_one_isSome (h : t.inRange = true) (hlt : t.secs < maximum.secs) :
    ∃ u, t.addSeconds? 1 = some u := by
  have hs := (shift_second t).1
  refine ⟨t.shift 1000000000, ?_⟩
  simp only [addSeconds?, addNanos?, Int.one_mul]
  rw [if_pos]
  simp only [inRange, Bool.and_eq_true, decide_eq_true_eq] at h ⊢
  omega

/-- **A run no earlier than a second after a slot starts in a later second** than the slot. -/
theorem lt_truncSeconds_of_le {slot ran t : Instant} (hran : slot.addSeconds? 1 = some ran)
    (h : ran ≤ t) : slot < t.truncSeconds := by
  obtain ⟨hs, hl⟩ := addSeconds?_one hran
  have hr := nanos_lt_of_not_leap hl
  have hslot := slot.nanos_lt
  have hkey : t.truncSeconds.key = t.secs * 2000000000 +
      ((t.nanos / nanosPerSecond : Nat) : Int) * 1000000000 := truncSeconds_key t
  have htn := t.nanos_lt
  change ran.key ≤ t.key at h
  change slot.key < t.truncSeconds.key
  rw [hkey]
  unfold key at h ⊢
  unfold nanosPerSecond at hslot htn ⊢
  omega

end Instant

/-! ## The grid of an interval schedule -/

namespace Schedule

variable {start after t : Instant} {every : Nat}

/-- The whole periods in `n` seconds, plus one, give the first multiple of the period past
`n`; every smaller multiple is at most `n`. -/
private lemma grid_bounds (n every : Nat) (hp : 0 < every) :
    ((((n : Int).tdiv every) + 1) * every : Int) = (((n / every + 1) * every : Nat) : Int) ∧
      n < (n / every + 1) * every ∧ ∀ j < n / every + 1, j * every ≤ n := by
  have hq := Nat.mod_add_div n every
  have hr := Nat.mod_lt n hp
  have hmul : (n / every + 1) * every = every * (n / every) + every := by ring
  refine ⟨?_, by omega, fun j hj => ?_⟩
  · change ((((n / every : Nat) : Int)) + 1) * every = _
    push_cast
    rfl
  · have hj' : j * every ≤ n / every * every := Nat.mul_le_mul_right every (by omega)
    have := Nat.div_mul_le_self n every
    omega

/-- **The grid point found is the least one strictly after the instant**: outside leap
seconds, a found point `t` is `start + k·every` for the least `k` with `start + k·every`
after `after`. -/
theorem gridAfter_least (hp : 0 < every) (hs : start.isLeap = false) (ha : after.isLeap = false)
    (hle : start ≤ after) (ht : gridAfter start every after = some t) :
    ∃ k : Nat, start.addSeconds? ((k * every : Nat) : Int) = some t ∧ after < t ∧
      ∀ j < k, ∀ u, start.addSeconds? ((j * every : Nat) : Int) = some u → u ≤ after := by
  unfold gridAfter at ht
  dsimp only at ht
  split_ifs at ht
  -- The elapsed time is the difference of the counts, at least zero.
  have hD : 0 ≤ after.toNanos - start.toNanos := by
    have := (Instant.le_iff_toNanos_le hs ha).1 hle
    omega
  have helapsed : Instant.wholeSeconds (after.since start) =
      (after.toNanos - start.toNanos) / 1000000000 := by
    rw [Instant.since_eq ha hs, Instant.wholeSeconds_of_nonneg hD]
  rw [helapsed] at ht
  obtain ⟨n, hn⟩ : ∃ n : Nat, (after.toNanos - start.toNanos) / 1000000000 = n :=
    ⟨_, (Int.toNat_of_nonneg (by omega)).symm⟩
  rw [hn] at ht
  obtain ⟨hoff, hafter, hbefore⟩ := grid_bounds n every hp
  rw [hoff] at ht
  refine ⟨_, ht, ?_, fun j hj u hu => ?_⟩
  · -- The point found lies past the elapsed whole seconds.
    rw [Instant.addSeconds?_eq hs] at ht
    split_ifs at ht
    cases ht
    rw [Instant.lt_iff_toNanos_lt ha (Instant.ofNanos_isLeap _), Instant.toNanos_ofNanos]
    omega
  · -- Earlier points lie within the elapsed whole seconds.
    have hj' := hbefore j hj
    rw [Instant.addSeconds?_eq hs] at hu
    split_ifs at hu
    cases hu
    rw [Instant.le_iff_toNanos_le (Instant.ofNanos_isLeap _) ha, Instant.toNanos_ofNanos]
    omega

/-- **The next run of an interval schedule is the first grid point strictly after the
instant**, when the start is representable and neither it nor the instant lies inside a leap
second. -/
theorem next_interval_least {p : Period} (hs : start.isLeap = false)
    (hr : start.inRange = true) (ha : after.isLeap = false)
    (ht : (interval start p).next (some after) = .ok (some t)) :
    ∃ k : Nat, start.addSeconds? ((k * p.secs : Nat) : Int) = some t ∧ after < t ∧
      ∀ j < k, ∀ u, start.addSeconds? ((j * p.secs : Nat) : Int) = some u → u ≤ after := by
  simp only [next, Except.ok.injEq] at ht
  split_ifs at ht with hle
  · exact gridAfter_least p.pos hs ha hle ht
  · -- Before the start, the start itself is the first point.
    cases ht
    refine ⟨0, ?_, Int.not_le.1 hle, fun j hj => absurd hj (Nat.not_lt_zero j)⟩
    rw [Instant.addSeconds?_eq hs]
    simp [Instant.ofNanos_toNanos hs, hr]

/-! ## The cadence law -/

/-- **The `k`-th point of an interval's grid**, `start + k·every`, counted in nanoseconds,
whether or not the time line reaches it. -/
def gridPoint (start : Instant) (every k : Nat) : Instant :=
  Instant.ofNanos (start.toNanos + ((k * every : Nat) : Int) * 1000000000)

/-- A grid point as a run: none when it lies past the end of the time line. -/
def runAt (start : Instant) (every k : Nat) : Option Instant :=
  if Instant.maximum < gridPoint start every k then none else some (gridPoint start every k)

@[simp] lemma gridPoint_isLeap (start : Instant) (every k : Nat) :
    (gridPoint start every k).isLeap = false :=
  Instant.ofNanos_isLeap _

lemma toNanos_gridPoint (start : Instant) (every k : Nat) :
    (gridPoint start every k).toNanos = start.toNanos + ((k * every : Nat) : Int) * 1000000000 :=
  Instant.toNanos_ofNanos _

lemma gridPoint_zero (hs : start.isLeap = false) (every : Nat) : gridPoint start every 0 = start := by
  simp [gridPoint, Instant.ofNanos_toNanos hs]

lemma lt_gridPoint_iff {a : Instant} (ha : a.isLeap = false) (every k : Nat) :
    a < gridPoint start every k ↔
      a.toNanos < start.toNanos + ((k * every : Nat) : Int) * 1000000000 := by
  rw [Instant.lt_iff_toNanos_lt ha (gridPoint_isLeap _ _ _), toNanos_gridPoint]

lemma gridPoint_le_iff {a : Instant} (ha : a.isLeap = false) (every k : Nat) :
    gridPoint start every k ≤ a ↔
      start.toNanos + ((k * every : Nat) : Int) * 1000000000 ≤ a.toNanos := by
  rw [Instant.le_iff_toNanos_le (gridPoint_isLeap _ _ _) ha, toNanos_gridPoint]

/-- Grid points come in the order of their indices. -/
lemma gridPoint_lt_gridPoint (hp : 0 < every) {j k : Nat} (h : j < k) :
    gridPoint start every j < gridPoint start every k := by
  have : j * every < k * every := Nat.mul_lt_mul_of_pos_right h hp
  rw [lt_gridPoint_iff (gridPoint_isLeap _ _ _), toNanos_gridPoint]
  omega

lemma gridPoint_le_gridPoint {j k : Nat} (h : j ≤ k) :
    gridPoint start every j ≤ gridPoint start every k := by
  have : j * every ≤ k * every := Nat.mul_le_mul_right every h
  rw [gridPoint_le_iff (gridPoint_isLeap _ _ _), toNanos_gridPoint]
  omega

/-- From a representable start, a grid point lies past the end of the time line exactly when
it is out of range: it cannot lie before the start. -/
lemma maximum_lt_gridPoint_iff (hr : start.inRange = true) (every k : Nat) :
    Instant.maximum < gridPoint start every k ↔ (gridPoint start every k).inRange = false := by
  have hn := start.nanos_lt
  rw [lt_gridPoint_iff (by decide)]
  simp only [Instant.inRange, Bool.and_eq_true, decide_eq_true_eq, Bool.and_eq_false_iff,
    decide_eq_false_iff_not] at hr ⊢
  simp only [gridPoint, Instant.ofNanos_secs, Instant.toNanos, Instant.maximum,
    Instant.minimum] at hr ⊢
  unfold nanosPerSecond at hn
  omega

/-- A shift by a grid point's whole seconds lands on it, and answers it as a run. -/
lemma addSeconds?_gridPoint (hs : start.isLeap = false) (hr : start.inRange = true)
    (every k : Nat) : start.addSeconds? ((k * every : Nat) : Int) = runAt start every k := by
  rw [Instant.addSeconds?_eq hs]
  simp only [runAt, maximum_lt_gridPoint_iff hr]
  change (if (gridPoint start every k).inRange then _ else _) = _
  cases (gridPoint start every k).inRange <;> rfl

/-- A grid point more whole seconds from the start than a duration holds lies past the end of
the time line. -/
lemma runAt_of_far (hr : start.inRange = true) {k : Nat}
    (h : maxDurationSecs < ((k * every : Nat) : Int)) : runAt start every k = none := by
  have hn := start.nanos_lt
  have hmax : Instant.maximum < gridPoint start every k := by
    rw [lt_gridPoint_iff (by decide)]
    simp only [Instant.inRange, Bool.and_eq_true, decide_eq_true_eq] at hr
    simp only [Instant.toNanos, Instant.maximum, Instant.minimum, maxDurationSecs] at hr h ⊢
    unfold nanosPerSecond at hn
    omega
  simp only [runAt, if_pos hmax]

/-- **The search answers the least grid point strictly after the instant**, as a run: for a
representable start and an instant after it, both outside leap seconds. A period beyond the
signed range, or an offset beyond what a duration holds, reaches past the end of the time line
already, so those refusals agree with it. -/
theorem gridAfter_eq_runAt (hp : 0 < every) (hs : start.isLeap = false)
    (hr : start.inRange = true) (ha : after.isLeap = false) (hle : start ≤ after) :
    ∃ k, 0 < k ∧ after < gridPoint start every k ∧ (∀ j < k, gridPoint start every j ≤ after) ∧
      gridAfter start every after = runAt start every k := by
  -- The elapsed time is the difference of the counts, at least zero.
  have hD : 0 ≤ after.toNanos - start.toNanos := by
    have := (Instant.le_iff_toNanos_le hs ha).1 hle
    omega
  obtain ⟨n, hn⟩ : ∃ n : Nat, (after.toNanos - start.toNanos) / 1000000000 = n :=
    ⟨_, (Int.toNat_of_nonneg (by omega)).symm⟩
  have helapsed : Instant.wholeSeconds (after.since start) = n := by
    rw [Instant.since_eq ha hs, Instant.wholeSeconds_of_nonneg hD, hn]
  obtain ⟨hoff, hafter, hbefore⟩ := grid_bounds n every hp
  refine ⟨n / every + 1, Nat.succ_pos _, ?_, fun j hj => ?_, ?_⟩
  · rw [lt_gridPoint_iff ha]
    omega
  · have := hbefore j hj
    rw [gridPoint_le_iff ha]
    omega
  · unfold gridAfter
    simp only [helapsed, hoff]
    split_ifs with hbig hfar
    · have : every ≤ (n / every + 1) * every := Nat.le_mul_of_pos_left every (Nat.succ_pos _)
      exact (runAt_of_far hr (by unfold maxDurationSecs; omega)).symm
    · exact (runAt_of_far hr hfar).symm
    · exact addSeconds?_gridPoint hs hr every _

/-- **The cadence law of an interval schedule** from `start` every `p` seconds. Its first run
is `start`; the run after an instant before `start` is `start`; the run after any other
instant outside a leap second is the least grid point strictly after it, none exactly when
that point lies past the end of the time line; so from each grid point the next run is the
next grid point. No step of it faults. -/
structure Cadence (start : Instant) (p : Period) : Prop where
  first : (interval start p).next none = .ok (some start)
  before : ∀ a, a < start → (interval start p).next (some a) = .ok (some start)
  least : ∀ a, a.isLeap = false → start ≤ a → ∃ k, 0 < k ∧ a < gridPoint start p.secs k ∧
    (∀ j < k, gridPoint start p.secs j ≤ a) ∧
    (interval start p).next (some a) = .ok (runAt start p.secs k)
  chain : ∀ k, (interval start p).next (some (gridPoint start p.secs k)) =
    .ok (runAt start p.secs (k + 1))

/-- **An interval schedule keeps its cadence** when its start is representable and outside a
leap second, whatever the period, up to the largest a 64-bit count allows. -/
theorem interval_cadence {start : Instant} (p : Period) (hs : start.isLeap = false)
    (hr : start.inRange = true) : Cadence start p := by
  have least : ∀ a, a.isLeap = false → start ≤ a → ∃ k, 0 < k ∧ a < gridPoint start p.secs k ∧
      (∀ j < k, gridPoint start p.secs j ≤ a) ∧
      (interval start p).next (some a) = .ok (runAt start p.secs k) := by
    intro a ha hle
    obtain ⟨k, hk, hlt, hle', heq⟩ := gridAfter_eq_runAt p.pos hs hr ha hle
    refine ⟨k, hk, hlt, hle', ?_⟩
    simp only [next, if_pos hle, heq]
  refine ⟨rfl, fun a ha => ?_, least, fun k => ?_⟩
  · have hn : ¬ start ≤ a := Int.not_le.2 ha
    simp only [next, if_neg hn]
  · -- From the `k`-th point, the least later point is the next one.
    have hk : start ≤ gridPoint start p.secs k := by
      have h₀ : gridPoint start p.secs 0 ≤ gridPoint start p.secs k :=
        gridPoint_le_gridPoint (Nat.zero_le k)
      rwa [gridPoint_zero hs] at h₀
    obtain ⟨m, -, hlt, hle, heq⟩ := least _ (gridPoint_isLeap _ _ _) hk
    obtain rfl : m = k + 1 := by
      have h₁ : k < m := by
        by_contra h
        exact absurd hlt (Int.not_lt.2 (gridPoint_le_gridPoint (Nat.le_of_not_lt h)))
      have h₂ : m ≤ k + 1 := by
        by_contra h
        exact absurd (hle (k + 1) (by omega))
          (Int.not_le.2 (gridPoint_lt_gridPoint p.pos (Nat.lt_succ_self k)))
      omega
    exact heq

/-- An hourly schedule from the start of 2024 keeps its cadence. -/
theorem hourly_cadence :
    (Instant.ofSeconds 1704067200).isLeap = false ∧ (Instant.ofSeconds 1704067200).inRange = true ∧
      Cadence (Instant.ofSeconds 1704067200) ⟨3600, by decide, by decide⟩ :=
  ⟨rfl, rfl, interval_cadence _ rfl rfl⟩

/-- **A start inside a leap second breaks the cadence**: from 2099-12-31T23:59:60.5Z every
minute, the run after 2100-01-01T00:00:59.5Z is that instant itself. -/
theorem leap_start_next_repeats :
    (interval ⟨4102444799, 1500000000, by decide⟩ ⟨60, by decide, by decide⟩).next
      (some ⟨4102444859, 500000000, by decide⟩) =
      .ok (some ⟨4102444859, 500000000, by decide⟩) := by
  decide

end Schedule

end JobQueue
