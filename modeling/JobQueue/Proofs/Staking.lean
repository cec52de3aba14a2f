import JobQueue.Proofs.StampOrder
import JobQueue.Proofs.Lifecycle

/-!
# What a stake takes

A stake marks due rows with a fresh claim and reads them back. Both steps order and compare
scheduled times as stored text. This file shows what a stake does when that text stands for
instants: when every scheduled stamp and the horizon are storable instants
(`Instant.Storable`: years 0 to 9999, a leap second only after second 59).

For such a store, a row is due exactly when it is pending, unclaimed, admitted by the filter
and scheduled, to the second, no later than the horizon (`Row.Claimable`). The stake takes the
first `n` due rows in execution order (`Row.RunsBefore`: priority, attempts, scheduled instant,
id). It marks exactly those rows and returns their ids in that order, and `countDue` counts the
due rows.

**Main statements**

* `Store.isDue_iff` — the due filter's text comparison is the comparison of instants.
* `Store.sortBy_claimOrder_eq` — any list of table rows sorted in claim order is the sorted
  table order.
* `Store.stake_takes_first_due` — the rows and ids of a stake, and the count of due rows.
* `Store.year_ten_thousand_counted_due` — outside those years the text comparison is not the
  comparison of instants: a row of the year 10000 counts as due in 2024.
-/

namespace JobQueue

theorem Stamp.text_ofInstant (t : Instant) : (Stamp.ofInstant t).text = t.stamp := rfl

namespace ClaimFilter

/-- **A filter admits a row** when its hook is among the hooks asked for, if any are, its
group among the groups asked for, if any are, and its group is not excluded. -/
def Admits (f : ClaimFilter) (r : Row) : Prop :=
  (f.hooks = [] ∨ r.hook ∈ f.hooks) ∧ (f.groups = [] ∨ r.group ∈ f.groups) ∧
    r.group ∉ f.excludeGroups

instance (f : ClaimFilter) (r : Row) : Decidable (f.Admits r) :=
  inferInstanceAs (Decidable (_ ∧ _ ∧ _))

lemma passes_iff (f : ClaimFilter) (r : Row) : f.passes r = true ↔ f.Admits r := by
  -- An empty exclusion list excludes nothing, as its membership test already says.
  have hex : (f.excludeGroups = [] ∨ r.group ∉ f.excludeGroups) ↔ r.group ∉ f.excludeGroups :=
    or_iff_right_of_imp fun h => h ▸ List.not_mem_nil
  simp [passes, Admits, List.isEmpty_iff, hex, and_assoc]

end ClaimFilter

namespace Row

variable (τ : Row → Instant)

/-- **A row a claim may take** by the horizon `b` through the filter `f`, each row `r`
scheduled at `τ r`: pending, unclaimed, admitted, and scheduled to the second no later than
the horizon to the second. -/
def Claimable (b : Instant) (f : ClaimFilter) (r : Row) : Prop :=
  r.status = .pending ∧ r.claim = none ∧ (τ r).truncSeconds ≤ b.truncSeconds ∧ f.Admits r

instance (b : Instant) (f : ClaimFilter) (r : Row) : Decidable (r.Claimable τ b f) :=
  inferInstanceAs (Decidable (_ ∧ _ ∧ _ ∧ _))

/-- **Execution order**: by priority, then attempts, then scheduled instant to the second,
then id, each ascending. -/
def RunsBefore (r₁ r₂ : Row) : Prop :=
  r₁.priority < r₂.priority ∨ r₁.priority = r₂.priority ∧
    (r₁.attempts < r₂.attempts ∨ r₁.attempts = r₂.attempts ∧
      ((τ r₁).truncSeconds < (τ r₂).truncSeconds ∨
        (τ r₁).truncSeconds = (τ r₂).truncSeconds ∧ r₁.id.val < r₂.id.val))

/-- The row marked by claim `c` at `now`. -/
def stakedBy (c : ClaimId) (now : Instant) (r : Row) : Row :=
  { r with claim := some c, lastAttempt := some (.ofInstant now), updatedAt := .ofInstant now }

/-- The rows with the rows whose ids are among `ids` marked by claim `c` at `now`. -/
def stakeAll (c : ClaimId) (now : Instant) (ids : List ActionId) (rows : List Row) : List Row :=
  rows.map fun r => if r.id ∈ ids then r.stakedBy c now else r

end Row

namespace Store

/-- The rows a claim by horizon `b` through `f` may take, in table order. -/
def claimable (τ : Row → Instant) (b : Instant) (f : ClaimFilter) (s : Store) : List Row :=
  s.rows.filter fun r => decide (r.Claimable τ b f)

/-- **Scheduled instants of a store**: each row's stamp is the stored text of the storable
instant `τ r`. -/
def Scheduled (τ : Row → Instant) (s : Store) : Prop :=
  ∀ r ∈ s.rows, (τ r).Storable ∧ r.scheduledAt = .ofInstant (τ r)

/-- Every claim on a row of the store has been issued. -/
def ClaimsIssued (s : Store) : Prop :=
  ∀ r ∈ s.rows, ∀ c, r.claim = some c → c.serial ≤ s.claimsIssued

/-! ## The due filter -/

section Due

variable {τ : Row → Instant} {b : Instant} {f : ClaimFilter} {r : Row}

/-- **The due filter compares instants**: for a row scheduled at a storable instant and a
storable horizon, the text comparison is the comparison of the instants to the second. -/
theorem isDue_iff (hr : (τ r).Storable ∧ r.scheduledAt = .ofInstant (τ r)) (hb : b.Storable) :
    isDue (.ofInstant b.truncSeconds) f r = true ↔ r.Claimable τ b f := by
  rw [isDue, hr.2]
  simp only [Bool.and_eq_true, beq_iff_eq, Option.isNone_iff_eq_none, decide_eq_true_eq,
    Stamp.ofInstant_le_iff hr.1 hb.truncSeconds, Instant.truncSeconds_truncSeconds,
    ClaimFilter.passes_iff, Row.Claimable, and_assoc]

lemma filter_isDue {s : Store} (hτ : s.Scheduled τ) (hb : b.Storable) :
    s.rows.filter (isDue (.ofInstant b.truncSeconds) f) = s.claimable τ b f := by
  unfold claimable
  refine List.filter_congr fun r hr => ?_
  rw [Bool.eq_iff_iff, decide_eq_true_iff]
  exact isDue_iff (hτ r hr) hb

/-- **The count of due rows** is the number of rows a claim may take. -/
lemma countDue_run {s : Store} {before : Option Instant} {now : Instant} (hτ : s.Scheduled τ)
    (hb : (before.getD now).Storable) :
    (countDue before f now).run s = .ok (s.claimable τ (before.getD now) f).length s := by
  simp only [countDue, EStateM.run_bind, EStateM.run_get, EStateM.run_pure, filter_isDue hτ hb]

end Due

/-! ## Claim order -/

section Order

/-- Claim order compares priority, attempts, scheduled text and id, one after another. -/
instance : Std.TransCmp claimOrder :=
  inferInstanceAs (Std.TransCmp (compareLex (compareOn Row.priority) (compareLex
    (compareOn Row.attempts) (compareLex (compareOn fun r : Row => r.scheduledAt.text)
      (compareOn fun r : Row => r.id.val)))))

lemma claimOrder_ne_gt (r₁ r₂ : Row) : (claimOrder r₁ r₂ != .gt) = (claimOrder r₁ r₂).isLE := by
  cases claimOrder r₁ r₂ <;> rfl

/-- A sort in claim order leaves every row no later in claim order than those after it. -/
lemma sortBy_claimOrder_pairwise (rows : List Row) :
    (sortBy claimOrder rows).Pairwise fun r₁ r₂ => (claimOrder r₁ r₂).isLE := by
  have htrans : ∀ a b c : Row, (claimOrder a b != .gt) = true → (claimOrder b c != .gt) = true →
      (claimOrder a c != .gt) = true := by
    intro a b c hab hbc
    rw [claimOrder_ne_gt] at hab hbc ⊢
    exact Std.TransCmp.isLE_trans hab hbc
  have htotal : ∀ a b : Row, ((claimOrder a b != .gt) || (claimOrder b a != .gt)) = true := by
    intro a b
    rw [@Std.OrientedCmp.eq_swap Row claimOrder _ a b]
    cases claimOrder b a <;> rfl
  simpa only [sortBy, claimOrder_ne_gt] using List.pairwise_mergeSort htrans htotal rows

/-- Texts compare as strings. -/
lemma compare_text_eq_lt (a b : String) : compare a b = .lt ↔ a < b := compareOfLessAndEq_eq_lt

/-- Claim order ties only rows with one id. -/
lemma claimOrder_eq_id {r₁ r₂ : Row} (h : claimOrder r₁ r₂ = .eq) : r₁.id = r₂.id := by
  simp only [claimOrder, Ordering.then_eq_eq] at h
  have hv : r₁.id.val = r₂.id.val := Std.LawfulEqCmp.compare_eq_iff_eq.1 h.2.2.2
  cases h₁ : r₁.id
  cases h₂ : r₂.id
  simp_all

variable {s : Store} {τ : Row → Instant}

/-- **Claim order sorts the rows of a table one way only**: two lists that hold the same rows of
the table, each sorted in claim order, are equal. -/
theorem sortBy_claimOrder_eq (hs : s.WellFormed) {l₁ l₂ : List Row} (h₁ : ∀ r ∈ l₁, r ∈ s.rows)
    (h₂ : ∀ r ∈ l₂, r ∈ s.rows) (hp : l₁.Perm l₂)
    (hl₂ : l₂.Pairwise fun r₁ r₂ => (claimOrder r₁ r₂).isLE) :
    sortBy claimOrder l₁ = l₂ := by
  refine List.Perm.eq_of_pairwise (fun a b ha hb hab hba => ?_) (sortBy_claimOrder_pairwise l₁)
    hl₂ ((List.mergeSort_perm l₁ _).trans hp)
  have ha' := h₁ a ((List.mergeSort_perm l₁ _).subset ha)
  exact hs.eq_of_id ha' (h₂ b hb) (claimOrder_eq_id (Std.OrientedCmp.isLE_antisymm hab hba))

/-- For rows scheduled at storable instants, claim order puts a row first exactly when it runs
first. -/
lemma claimOrder_eq_lt {r₁ r₂ : Row} (h₁ : (τ r₁).Storable ∧ r₁.scheduledAt = .ofInstant (τ r₁))
    (h₂ : (τ r₂).Storable ∧ r₂.scheduledAt = .ofInstant (τ r₂)) :
    claimOrder r₁ r₂ = .lt ↔ Row.RunsBefore τ r₁ r₂ := by
  have hlt : compare r₁.scheduledAt.text r₂.scheduledAt.text = .lt ↔
      (τ r₁).truncSeconds < (τ r₂).truncSeconds := by
    rw [compare_text_eq_lt, h₁.2, h₂.2, Stamp.text_ofInstant, Stamp.text_ofInstant]
    exact Instant.stamp_lt_iff h₁.1 h₂.1
  have heq : compare r₁.scheduledAt.text r₂.scheduledAt.text = .eq ↔
      (τ r₁).truncSeconds = (τ r₂).truncSeconds := by
    rw [Std.LawfulEqCmp.compare_eq_iff_eq, h₁.2, h₂.2, Stamp.text_ofInstant,
      Stamp.text_ofInstant]
    exact Instant.stamp_eq_iff h₁.1 h₂.1
  have hp : compare r₁.priority r₂.priority = .lt ↔ r₁.priority < r₂.priority := Std.compare_eq_lt
  have hpe : compare r₁.priority r₂.priority = .eq ↔ r₁.priority = r₂.priority :=
    Std.LawfulEqCmp.compare_eq_iff_eq
  have ha : compare r₁.attempts r₂.attempts = .lt ↔ r₁.attempts < r₂.attempts := Std.compare_eq_lt
  have hae : compare r₁.attempts r₂.attempts = .eq ↔ r₁.attempts = r₂.attempts :=
    Std.LawfulEqCmp.compare_eq_iff_eq
  have hi : compare r₁.id.val r₂.id.val = .lt ↔ r₁.id.val < r₂.id.val := Std.compare_eq_lt
  rw [claimOrder, Ordering.then_eq_lt, Ordering.then_eq_lt, Ordering.then_eq_lt, hp, hpe, ha, hae,
    hlt, heq, hi, Row.RunsBefore]

/-- **Sorted in claim order, rows of a table scheduled at storable instants are in execution
order.** -/
lemma sortBy_runsBefore (hs : s.WellFormed) (hτ : s.Scheduled τ) {rows : List Row}
    (hsub : rows.Sublist s.rows) : (sortBy claimOrder rows).Pairwise (Row.RunsBefore τ) := by
  have hperm := List.mergeSort_perm rows fun a b => claimOrder a b != .gt
  have hmem : ∀ r ∈ sortBy claimOrder rows, r ∈ s.rows := fun r hr =>
    hsub.subset (hperm.subset hr)
  have hnodup : (sortBy claimOrder rows).Nodup :=
    hperm.nodup_iff.2 ((List.Nodup.of_map _ hs.nodup).sublist hsub)
  refine List.Pairwise.imp_of_mem (fun {a b} ha hb hab => ?_)
    ((sortBy_claimOrder_pairwise rows).and hnodup)
  obtain ⟨hle, hne⟩ := hab
  -- A tie in claim order would be one row twice.
  have hlt : claimOrder a b = .lt := by
    cases h : claimOrder a b
    · rfl
    · exact absurd (hs.eq_of_id (hmem a ha) (hmem b hb) (claimOrder_eq_id h)) hne
    · simp [h] at hle
  exact (claimOrder_eq_lt (hτ a (hmem a ha)) (hτ b (hmem b hb))).1 hlt

end Order

/-! ## The claim write -/

section Write

/-- **The limit as the database reads it**: a limit that fits a machine word keeps the first
`n` rows of any table with fewer than `2 ^ 63` rows, though from `2 ^ 63` on it reads as
negative and keeps them all. -/
lemma window_signedWord {α : Type} {n : Nat} {xs : List α} (hn : n < 2 ^ 64)
    (hl : xs.length < 2 ^ 63) : window (signedWord n) 0 xs = xs.take n := by
  simp only [window, signedWord, Int.toNat_zero, List.drop_zero]
  by_cases h : n < 9223372036854775808
  · rw [if_pos h, if_neg (by omega)]
    rfl
  · rw [if_neg h, if_pos (by omega), List.take_of_length_le (by omega)]

/-- A row whose id a claim chooses is due. -/
lemma isDue_of_mem_dueIds {limit : Int} {horizon : Stamp} {f : ClaimFilter} {s : Store}
    (hs : s.WellFormed) {r : Row} (hr : r ∈ s.rows) (h : r.id ∈ dueIds limit horizon f s) :
    isDue horizon f r = true := by
  obtain ⟨r₀, hr₀, hid⟩ := List.mem_map.1 h
  obtain ⟨hr₀', hdue⟩ := List.mem_filter.1 (List.mem_mergeSort.1 (mem_window hr₀))
  rw [hs.eq_of_id hr₀' hr hid] at hdue
  exact hdue

/-- **The claim write** marks with the claim exactly the rows whose ids it chose. -/
lemma stakeWrite_run (c : ClaimId) (n : Nat) (h : Instant) (f : ClaimFilter) (now : Instant)
    {s : Store} (hs : s.WellFormed) (hw : s.Writable) :
    ∃ k, (stakeWrite c n h f now).run s =
      .ok k { s with rows := Row.stakeAll c now (dueIds (signedWord n) (.ofInstant h) f s) s.rows } := by
  simp only [stakeWrite, EStateM.run_bind, beginWrite_run_of_writable hw, EStateM.run_get,
    rewrite_run]
  apply Exists.intro
  congr 2
  refine List.map_congr_left fun r hr => ?_
  by_cases hid : r.id ∈ dueIds (signedWord n) (.ofInstant h) f s
  · -- A chosen row is pending and unclaimed, so the write's own guard holds.
    have hc := List.contains_iff_mem.2 hid
    have hdue := isDue_of_mem_dueIds hs hr hid
    simp only [isDue, Bool.and_eq_true] at hdue
    simp only [hc, hid, hdue.1.1.2, hdue.1.1.1, Bool.and_self, if_true, Row.stakedBy]
  · have hc : (dueIds (signedWord n) (.ofInstant h) f s).contains r.id = false :=
      Bool.eq_false_iff.2 (mt List.contains_iff_mem.1 hid)
    simp only [hc, hid, Bool.false_and, Bool.false_eq_true, if_false]

/-- **The ids a stake chooses** are the first `n` rows a claim may take, in claim order. -/
lemma dueIds_eq {s : Store} {τ : Row → Instant} {n : Nat} {b : Instant} {f : ClaimFilter}
    (hτ : s.Scheduled τ) (hb : b.Storable) (hn : n < 2 ^ 64) (hlen : s.rows.length < 2 ^ 63) :
    dueIds (signedWord n) (.ofInstant b.truncSeconds) f s =
      ((sortBy claimOrder (s.claimable τ b f)).take n).map (·.id) := by
  have hl : (sortBy claimOrder (s.claimable τ b f)).length < 2 ^ 63 := by
    unfold sortBy
    rw [(List.mergeSort_perm _ _).length_eq]
    exact Nat.lt_of_le_of_lt (List.length_filter_le _ _) hlen
  rw [dueIds, filter_isDue hτ hb, window_signedWord hn hl]

end Write

/-! ## Reading the claim back -/

section ReadBack

/-- A run of `mapM` whose every step leaves the state alone returns the list of the values. -/
lemma mapM_run_pure {ε σ α β : Type} {g : α → EStateM ε σ β} {k : α → β} {s : σ} :
    ∀ xs : List α, (∀ x ∈ xs, (g x).run s = .ok (k x) s) → (xs.mapM g).run s = .ok (xs.map k) s
  | [], _ => rfl
  | x :: xs, h => by
    have hxs := mapM_run_pure xs fun y hy => h y (List.mem_cons_of_mem x hy)
    simp only [List.mapM_cons, EStateM.run_bind, h x List.mem_cons_self, hxs, EStateM.run_pure,
      List.map_cons]

/-- **Keeping the due ids** keeps them all, unclaiming nothing, when all are due. -/
lemma keepDue_run_of_due {c : ClaimId} {h : Instant} {s : Store} :
    ∀ ps : List (ActionId × Instant), (∀ p ∈ ps, p.2 ≤ h) →
      (keepDue c h ps).run s = .ok (ps.map (·.1)) s
  | [], _ => rfl
  | (id, t) :: ps, hp => by
    have ht : t ≤ h := hp (id, t) List.mem_cons_self
    have hps := @keepDue_run_of_due c h s ps fun p hp' => hp p (List.mem_cons_of_mem _ hp')
    simp only [keepDue, if_pos ht, EStateM.run_bind, hps, EStateM.run_pure, List.map_cons]

/-- After marking rows with a claim that no row carried, the rows carrying it are the marked
ones. -/
lemma filter_claim_stakeAll {c : ClaimId} {now : Instant} {ids : List ActionId} {rows : List Row}
    (hfresh : ∀ r ∈ rows, r.claim ≠ some c) :
    (Row.stakeAll c now ids rows).filter (·.claim == some c) =
      (rows.filter fun r => r.id ∈ ids).map (Row.stakedBy c now) := by
  rw [Row.stakeAll, List.filter_map]
  have hsame : (rows.filter ((·.claim == some c) ∘ fun r => if r.id ∈ ids then r.stakedBy c now
      else r)) = rows.filter fun r => r.id ∈ ids := by
    refine List.filter_congr fun r hr => ?_
    by_cases hid : r.id ∈ ids
    · simp [hid, Row.stakedBy]
    · simp [hid, hfresh r hr]
  rw [hsame]
  refine List.map_congr_left fun r hr => ?_
  rw [if_pos (by simpa using (List.mem_filter.1 hr).2)]

/-- **Reading back the marked rows**: sorted in claim order, each read back at its instant to
the second. -/
lemma claimedRows_run (s : Store) {c : ClaimId} {now : Instant} {τ : Row → Instant}
    {xs : List Row}
    (hrows : sortBy claimOrder (s.rows.filter (·.claim == some c)) = xs.map (Row.stakedBy c now))
    (hτ : ∀ r ∈ xs, (τ r).Storable ∧ r.scheduledAt = .ofInstant (τ r)) :
    (claimedRows c).run s = .ok (xs.map fun r => (r.id, (τ r).truncSeconds)) s := by
  simp only [claimedRows, EStateM.run_bind, EStateM.run_get, hrows, List.mapM_map]
  refine mapM_run_pure xs fun r hr => ?_
  have hread := Stamp.read_ofInstant (hτ r hr).1
  simp only [Function.comp, Row.stakedBy, (hτ r hr).2, Row.time, hread, Except.mapError]
  rfl

/-- Selecting the rows of a table by the ids of some distinct rows of it gives those rows. -/
lemma filter_ids_perm {s : Store} (hs : s.WellFormed) {xs : List Row} (hsub : ∀ r ∈ xs, r ∈ s.rows)
    (hxs : xs.Nodup) : (s.rows.filter fun r => r.id ∈ xs.map (·.id)).Perm xs := by
  refine (List.perm_ext_iff_of_nodup ((List.Nodup.of_map _ hs.nodup).filter _) hxs).2 fun r => ?_
  simp only [List.mem_filter, List.mem_map, decide_eq_true_eq]
  constructor
  · rintro ⟨hr, r', hr', hid⟩
    rwa [← hs.eq_of_id (hsub r' hr') hr hid]
  · intro hr
    exact ⟨hsub r hr, r, hr, rfl⟩

/-- Marking rows keeps their claim order. -/
lemma sortBy_stakedBy (c : ClaimId) (now : Instant) (xs : List Row) :
    sortBy claimOrder (xs.map (Row.stakedBy c now)) = (sortBy claimOrder xs).map (Row.stakedBy c now) := by
  unfold sortBy
  refine (List.map_mergeSort ?_).symm
  intro a _ b _
  rfl

end ReadBack

/-! ## The stake -/

/-- **What a stake takes.** Take a writable, well-formed table whose claims were all issued
and whose rows are scheduled at storable instants, a storable horizon, a limit that fits a
machine word, and fewer than `2 ^ 63` rows. Then `countDue` counts the rows a claim may take.
A stake of `n` issues a fresh claim and marks the first `n` of those rows in execution order
(all of them if there are fewer), stamping their last attempt and update time. It returns their
ids in that order and leaves every other row as it was. -/
theorem stake_takes_first_due {s : Store} {τ : Row → Instant} {n : Nat} {before : Option Instant}
    {f : ClaimFilter} {now : Instant} (hs : s.WellFormed) (hissued : s.ClaimsIssued)
    (hτ : s.Scheduled τ) (hb : (before.getD now).Storable) (hw : s.Writable) (hn : n < 2 ^ 64)
    (hlen : s.rows.length < 2 ^ 63) :
    (countDue before f now).run s = .ok (s.claimable τ (before.getD now) f).length s ∧
    ∃ l : List Row, l.Perm (s.claimable τ (before.getD now) f) ∧ l.Pairwise (Row.RunsBefore τ) ∧
      (stake n before f now).run s =
        .ok ⟨⟨s.claimsIssued + 1⟩, (l.take n).map (·.id)⟩
          { s with rows := Row.stakeAll ⟨s.claimsIssued + 1⟩ now ((l.take n).map (·.id)) s.rows,
                   claimsIssued := s.claimsIssued + 1 } := by
  let E := s.claimable τ (before.getD now) f
  let l := sortBy claimOrder E
  have hperm : l.Perm E := List.mergeSort_perm _ _
  refine ⟨countDue_run hτ hb, l, hperm, sortBy_runsBefore hs hτ List.filter_sublist, ?_⟩
  have hl : ∀ r ∈ l.take n, r ∈ E := fun r hr => hperm.subset (List.mem_of_mem_take hr)
  have hrows : ∀ r ∈ l.take n, r ∈ s.rows := fun r hr => (List.mem_filter.1 (hl r hr)).1
  simp only [stake, EStateM.run_bind, freshClaim_run]
  by_cases hn0 : n = 0
  · -- A limit of zero writes nothing.
    subst hn0
    simp [Row.stakeAll]
  rw [if_neg (by simpa using hn0)]
  -- The claim write marks the first `n` rows a claim may take.
  have hs₀ : ({ s with claimsIssued := s.claimsIssued + 1 } : Store).WellFormed :=
    @WellFormed.of_rows s _ rfl rfl hs
  obtain ⟨k, hk⟩ := stakeWrite_run ⟨s.claimsIssued + 1⟩ n (before.getD now).truncSeconds f now hs₀ hw
  have hids : dueIds (signedWord n) (.ofInstant (before.getD now).truncSeconds) f
      { s with claimsIssued := s.claimsIssued + 1 } = (l.take n).map (·.id) :=
    dueIds_eq hτ hb hn hlen
  rw [hids] at hk
  -- Reading the claim back finds exactly those rows, all due.
  have hfresh : ∀ r ∈ s.rows, r.claim ≠ some ⟨s.claimsIssued + 1⟩ := fun r hr hc => by
    have := hissued r hr _ hc
    dsimp only at this
    omega
  have hsorted : sortBy claimOrder ((Row.stakeAll ⟨s.claimsIssued + 1⟩ now ((l.take n).map (·.id))
      s.rows).filter (·.claim == some ⟨s.claimsIssued + 1⟩)) =
      (l.take n).map (Row.stakedBy ⟨s.claimsIssued + 1⟩ now) := by
    rw [filter_claim_stakeAll hfresh, sortBy_stakedBy]
    congr 1
    refine sortBy_claimOrder_eq hs (fun r hr => (List.mem_filter.1 hr).1) hrows
      (filter_ids_perm hs hrows ((hperm.nodup_iff.2 ?_).sublist (List.take_sublist _ _)))
      ((sortBy_claimOrder_pairwise E).sublist (List.take_sublist _ _))
    exact (List.Nodup.of_map _ hs.nodup).filter _
  have hread := claimedRows_run
    { s with rows := Row.stakeAll ⟨s.claimsIssued + 1⟩ now ((l.take n).map (·.id)) s.rows,
             claimsIssued := s.claimsIssued + 1 } hsorted fun r hr => hτ r (hrows r hr)
  have hdue : ∀ p ∈ (l.take n).map (fun r => (r.id, (τ r).truncSeconds)),
      p.2 ≤ (before.getD now).truncSeconds := by
    intro p hp
    obtain ⟨r, hr, rfl⟩ := List.mem_map.1 hp
    exact (of_decide_eq_true (List.mem_filter.1 (hl r hr)).2).2.2.1
  simp only [hk, claimed, EStateM.run_bind, hread, keepDue_run_of_due _ hdue, EStateM.run_pure,
    List.map_map]
  rfl

/-- Four actions saved at the first second of 2024: `mail` of priority 10 due then, `mail` of
priority 5 due at one o'clock, `report` of priority 0 due at half past midnight, and `mail` of
priority 5 due a day later. -/
def fourDue : Store :=
  ((((({} : Store).append ⟨"mail", .empty, .immediate, "", 10⟩ (.ofSeconds 1704067200)
    (.ofSeconds 1704067200)).append ⟨"mail", .empty, .immediate, "", 5⟩ (.ofSeconds 1704070800)
    (.ofSeconds 1704067200)).append ⟨"report", .empty, .immediate, "", 0⟩
    (.ofSeconds 1704069000) (.ofSeconds 1704067200)).append ⟨"mail", .empty, .immediate, "", 5⟩
    (.ofSeconds 1704153600) (.ofSeconds 1704067200))

/-- The scheduled instants of `fourDue`, by id. -/
def fourDueAt (r : Row) : Instant :=
  match r.id.val with
  | 1 => .ofSeconds 1704067200
  | 2 => .ofSeconds 1704070800
  | 3 => .ofSeconds 1704069000
  | _ => .ofSeconds 1704153600

/-- The rows of `fourDue`, ids 1 to 4 in the order of their saves. -/
lemma fourDue_rows : fourDue.rows = [
    Row.ofAction ⟨1⟩ ⟨"mail", .empty, .immediate, "", 10⟩ (.ofSeconds 1704067200)
      (.ofSeconds 1704067200),
    Row.ofAction ⟨2⟩ ⟨"mail", .empty, .immediate, "", 5⟩ (.ofSeconds 1704070800)
      (.ofSeconds 1704067200),
    Row.ofAction ⟨3⟩ ⟨"report", .empty, .immediate, "", 0⟩ (.ofSeconds 1704069000)
      (.ofSeconds 1704067200),
    Row.ofAction ⟨4⟩ ⟨"mail", .empty, .immediate, "", 5⟩ (.ofSeconds 1704153600)
      (.ofSeconds 1704067200)] := rfl

lemma fourDue_wellFormed : fourDue.WellFormed :=
  .append _ _ _ (.append _ _ _ (.append _ _ _ (.append _ _ _ .empty)))

lemma fourDue_claimsIssued : fourDue.ClaimsIssued := by
  intro r hr c hc
  rw [fourDue_rows] at hr
  simp only [List.mem_cons, List.not_mem_nil, or_false] at hr
  rcases hr with rfl | rfl | rfl | rfl <;> cases hc

lemma fourDue_scheduled : fourDue.Scheduled fourDueAt := by
  intro r hr
  rw [fourDue_rows] at hr
  simp only [List.mem_cons, List.not_mem_nil, or_false] at hr
  rcases hr with rfl | rfl | rfl | rfl <;> exact ⟨by decide, rfl⟩

/-- On `fourDue`, at two o'clock and for the hook `mail`, two actions are due, and a stake of
one takes the action of priority 5, though the action of priority 10 is due earlier. -/
theorem stake_takes_first_due_by_priority :
    (countDue (some (.ofSeconds 1704074400)) { hooks := ["mail"] } (.ofSeconds 1704074400)).run
        fourDue = .ok 2 fourDue ∧
      (stake 1 (some (.ofSeconds 1704074400)) { hooks := ["mail"] } (.ofSeconds 1704074400)).run
        fourDue = .ok ⟨⟨1⟩, [⟨2⟩]⟩
          { fourDue with rows := Row.stakeAll ⟨1⟩ (.ofSeconds 1704074400) [⟨2⟩] fourDue.rows,
                         claimsIssued := 1 } := by
  let r₁ := Row.ofAction ⟨1⟩ ⟨"mail", .empty, .immediate, "", 10⟩ (.ofSeconds 1704067200)
    (.ofSeconds 1704067200)
  let r₂ := Row.ofAction ⟨2⟩ ⟨"mail", .empty, .immediate, "", 5⟩ (.ofSeconds 1704070800)
    (.ofSeconds 1704067200)
  let r₃ := Row.ofAction ⟨3⟩ ⟨"report", .empty, .immediate, "", 0⟩ (.ofSeconds 1704069000)
    (.ofSeconds 1704067200)
  let r₄ := Row.ofAction ⟨4⟩ ⟨"mail", .empty, .immediate, "", 5⟩ (.ofSeconds 1704153600)
    (.ofSeconds 1704067200)
  have hrows : fourDue.rows = [r₁, r₂, r₃, r₄] := fourDue_rows
  obtain ⟨hcount, l, hperm, hsorted, hstake⟩ :=
    @stake_takes_first_due fourDue fourDueAt 1 (some (.ofSeconds 1704074400)) { hooks := ["mail"] }
      (.ofSeconds 1704074400) fourDue_wellFormed fourDue_claimsIssued fourDue_scheduled
      (by decide) ⟨rfl, rfl⟩ (by decide) (by decide)
  simp only [Option.getD_some] at hcount hperm
  -- The rows a claim may take, in table order: the two `mail` actions due by two o'clock.
  have hclaimable : fourDue.claimable fourDueAt (.ofSeconds 1704074400) { hooks := ["mail"] } =
      [r₁, r₂] := by
    rw [claimable, hrows]
    simp only [List.filter_cons, List.filter_nil]
    rw [if_pos (by decide), if_pos (by decide), if_neg (by decide), if_neg (by decide)]
  constructor
  · rw [hcount, hclaimable]
    rfl
  -- The priority-5 action runs first, so the first row in execution order is row 2.
  have hl : l = [r₂, r₁] := by
    rw [hclaimable] at hperm
    obtain ⟨x, y, rfl⟩ := List.length_eq_two.1 hperm.length_eq
    have hxy : Row.RunsBefore fourDueAt x y := List.rel_of_pairwise_cons hsorted (by simp)
    have hx := hperm.subset (List.mem_cons_self)
    have hy := hperm.subset (by simp : y ∈ [x, y])
    simp only [List.mem_cons, List.not_mem_nil, or_false] at hx hy
    -- Row 1, of priority 10, runs before neither row.
    rcases hx with rfl | rfl <;> rcases hy with rfl | rfl
    · exact absurd hxy (by unfold Row.RunsBefore; decide)
    · exact absurd hxy (by unfold Row.RunsBefore; decide)
    · rfl
    · exact absurd hxy (by unfold Row.RunsBefore; decide)
  rw [hstake, hl]
  rfl

/-- **A row of the year 10000 counts as due in 2024.** Its stored time sorts before the
horizon's as text, so `countDue` counts it, though by its instant no claim may take it yet. -/
theorem year_ten_thousand_counted_due :
    (countDue (some (.ofSeconds 1704067200)) {} (.ofSeconds 1704067200)).run
        (({} : Store).append ⟨"h", .empty, .immediate, "", 10⟩ (.ofSeconds 253402300800)
          (.ofSeconds 1704067200)) =
      .ok 1 (({} : Store).append ⟨"h", .empty, .immediate, "", 10⟩ (.ofSeconds 253402300800)
        (.ofSeconds 1704067200)) ∧
    ((({} : Store).append ⟨"h", .empty, .immediate, "", 10⟩ (.ofSeconds 253402300800)
        (.ofSeconds 1704067200)).claimable (fun _ => .ofSeconds 253402300800)
          (.ofSeconds 1704067200) {}).length = 0 := by
  refine ⟨?_, by decide +kernel⟩
  -- The count is the length of the rows that pass the text comparison: the one row.
  simp only [countDue, EStateM.run_bind, EStateM.run_get, EStateM.run_pure]
  congr 1

end Store

end JobQueue
