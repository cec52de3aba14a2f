import JobQueue.Proofs.ClaimExclusivity
import Mathlib.Data.Finset.Card

/-!
# The share of concurrent batches is a gate, not a bound

Before each batch a runner counts the claims outstanding on pending and in-progress rows, of
all runners of the table, and stakes a new claim only while fewer than its share
(`max 1 concurrentBatches`) are outstanding. The count is one statement and the claim write
another, and any other runner may write its own claim in between.

What the statements themselves guarantee: no statement but a claim write adds an outstanding
claim, and a claim write adds at most its own (`Stmt.heldCount_le`); so along any run the
outstanding claims grow by at most one per claim write (`Linked.heldCount_le`). Hence after a
runner's claim write the outstanding claims number at most its share plus the claim writes of
others that ran between its count and its write (`Linked.stake_within_gate_bound`). The share
is kept when no claim write overtakes the count; two runners that both count before either
writes both pass and leave two claims outstanding against a share of one
(`concurrent_stakes_exceed_share`).

**Main statements**

* `Stmt.heldCount_le` — one statement adds at most one outstanding claim, and only a claim
  write adds one.
* `Linked.heldCount_le` — along a run, at most one per claim write.
* `Linked.stake_within_gate_bound` — the share bounds a claim write up to the claim writes
  between its count and itself.
* `concurrent_stakes_exceed_share` — two overlapping runners exceed a share of one.
-/

namespace JobQueue

/-- Without repeats, a list holds each of its members once. -/
lemma nodup_eraseDups {α : Type} [BEq α] [LawfulBEq α] : ∀ l : List α, l.eraseDups.Nodup
  | [] => List.nodup_nil
  | a :: as => by
    rw [List.eraseDups_cons]
    refine List.nodup_cons.2 ⟨fun h => ?_, nodup_eraseDups _⟩
    rw [List.mem_eraseDups, List.mem_filter] at h
    simp at h
termination_by l => l.length
decreasing_by
  have := List.length_filter_le (fun b => !b == a) as
  simp only [List.length_cons]
  omega

/-- Without repeats, a list is as long as the set of its members. -/
lemma length_eraseDups {α : Type} [DecidableEq α] (l : List α) :
    l.eraseDups.length = l.toFinset.card := by
  rw [← List.toFinset_card_of_nodup (nodup_eraseDups l)]
  congr 1
  ext a
  simp [List.mem_eraseDups]

namespace Store

/-- **The claims outstanding in the table**: those on its pending and in-progress rows, one
for each row. -/
def heldClaims (s : Store) : List ClaimId :=
  (s.rows.filter (·.statusIn [.pending, .inProgress])).filterMap (·.claim)

/-- Counting the outstanding claims reads them without repeats. -/
lemma claimCount_eq (s : Store) : claimCount.run s = .ok s.heldClaims.eraseDups.length s := rfl

/-- Counting the outstanding claims reads the number of different ones. -/
lemma claimCount_run (s : Store) : claimCount.run s = .ok s.heldClaims.toFinset.card s := by
  rw [claimCount_eq, length_eraseDups]

lemma mem_heldClaims {s : Store} {c : ClaimId} :
    c ∈ s.heldClaims ↔ ∃ r ∈ s.rows, r.statusIn [.pending, .inProgress] = true ∧ r.claim = some c := by
  simp [heldClaims, and_assoc]

end Store

/-- **Whether a statement is a claim write.** -/
def Stmt.isStake : Stmt → Bool
  | .stake .. => true
  | _ => false

lemma Stmt.isStake_iff {st : Stmt} :
    st.isStake = true ↔ ∃ c limit horizon f now, st = .stake c limit horizon f now := by
  cases st <;> simp [Stmt.isStake]

/-- Whether an event is a claim write. -/
def Event.isStake : Event → Bool
  | .write st => st.isStake
  | _ => false

namespace Stmt

variable {s : Store}

/-- **A claim outstanding after a statement** was outstanding before, or is the claim the
statement writes. -/
lemma heldClaims_after (st : Stmt) (hs : s.WellFormed) {c : ClaimId}
    (hc : c ∈ (after st.run s).heldClaims) :
    c ∈ s.heldClaims ∨ ∃ limit horizon f now, st = .stake c limit horizon f now := by
  obtain ⟨r', hr', hlive, hclaim⟩ := Store.mem_heldClaims.1 hc
  rcases tag_origin st s hr' hclaim with ⟨r, hr, hid, hrc⟩ | ⟨limit, horizon, f, now, rfl, -⟩
  · -- The row continues a row of the old table, whose status led to a live one.
    refine .inl (Store.mem_heldClaims.2 ⟨r, hr, ?_, hrc⟩)
    rcases (evolves st s).forward r' hr' with ⟨r₀, hr₀, hid₀, hleads⟩ | hfresh
    · obtain rfl : r₀ = r := hs.eq_of_id hr₀ hr (hid₀.trans hid.symm)
      have hb : r'.status ∈ [Status.pending, .inProgress] := by
        simpa [Row.statusIn] using hlive
      simpa [Row.statusIn] using Status.live_of_leads hleads hb
    · have := hs.le_lastId r hr
      rw [hid] at this
      omega
  · exact .inr ⟨limit, horizon, f, now, rfl⟩

/-- **A statement raises the number of outstanding claims only by writing a claim, and then by
one.** -/
lemma heldCount_le (st : Stmt) (hs : s.WellFormed) :
    (after st.run s).heldClaims.toFinset.card ≤
      s.heldClaims.toFinset.card + if st.isStake then 1 else 0 := by
  cases hst : st.isStake
  · -- No claim is written, so none is added.
    simp only [Bool.false_eq_true, if_false, Nat.add_zero]
    refine Finset.card_le_card fun c hc => ?_
    rw [List.mem_toFinset] at hc ⊢
    rcases heldClaims_after st hs hc with h | ⟨limit, horizon, f, now, rfl⟩
    · exact h
    · cases hst
  · -- At most the written claim is added.
    obtain ⟨c, limit, horizon, f, now, rfl⟩ := Stmt.isStake_iff.1 hst
    calc (after (Stmt.stake c limit horizon f now).run s).heldClaims.toFinset.card
        ≤ (Insert.insert c s.heldClaims.toFinset).card := by
          refine Finset.card_le_card fun c' hc' => ?_
          rw [List.mem_toFinset] at hc'
          rw [Finset.mem_insert, List.mem_toFinset]
          rcases heldClaims_after _ hs hc' with h | ⟨limit', horizon', f', now', hsame⟩
          · exact .inr h
          · exact .inl (Stmt.stake.inj hsame).1.symm
      _ ≤ s.heldClaims.toFinset.card + 1 := Finset.card_insert_le _ _

end Stmt

namespace Linked

variable {u v : Store} {l : List Entry}

/-- **Along a run, the outstanding claims grow by at most one per claim write.** -/
theorem heldCount_le (h : Linked u l v) (hu : u.WellFormed) :
    v.heldClaims.toFinset.card ≤ u.heldClaims.toFinset.card + l.countP (·.event.isStake) := by
  induction h with
  | nil s => simp
  | @cons e l t happ hl ih =>
    have hstep : e.after.heldClaims.toFinset.card ≤
        e.before.heldClaims.toFinset.card + if e.event.isStake then 1 else 0 := by
      cases hev : e.event with
      | write st =>
        rw [happ, hev]
        exact Stmt.heldCount_le st hu
      | _ =>
        rw [happ, hev]
        simp [Event.apply, Event.isStake]
    have hafter : e.after.WellFormed := happ ▸ (Event.reaches _ _).wellFormed hu
    have hrest := ih hafter
    rw [List.countP_cons]
    by_cases hk : e.event.isStake = true
    · simp only [hk, if_true] at hstep ⊢
      omega
    · simp only [hk, Bool.false_eq_true, if_false] at hstep ⊢
      omega

/-- **A gate read bounds the stake behind it only up to the claim writes that overtake it.** Over
any run of statements from a well-formed table on which a runner read fewer outstanding claims
than its share of concurrent batches, up to a claim write: after that write, the outstanding
claims number at most the share plus the claim writes that ran between the read and the
write. -/
theorem stake_within_gate_bound {cfg : RunnerConfig} {e : Entry} {m : Nat} (hu : u.WellFormed)
    (h : Linked u (l ++ [e]) v) (hgate : Store.claimCount.run u = .ok m u)
    (hpass : m < max 1 cfg.concurrentBatches) (hstake : e.event.isStake = true) :
    ∃ n, Store.claimCount.run e.after = .ok n e.after ∧
      n ≤ max 1 cfg.concurrentBatches + l.countP (·.event.isStake) := by
  -- The log is the entries between the read and the claim write, then the claim write.
  obtain ⟨w, hl, hlast⟩ := h.split
  obtain ⟨rfl, happ, -⟩ := hlast.cons_inv
  have hread : m = u.heldClaims.toFinset.card := by
    rw [Store.claimCount_run, EStateM.Result.ok.injEq] at hgate
    exact hgate.1.symm
  have hbetween := hl.heldCount_le hu
  have hwrite := (Linked.cons happ (.nil e.after)).heldCount_le (hl.reaches.wellFormed hu)
  simp only [List.countP_cons, List.countP_nil, hstake, if_true, Nat.zero_add] at hwrite
  exact ⟨_, Store.claimCount_run e.after, by omega⟩

end Linked

/-- One runner alone: on a table with one due action it reads no outstanding claim, then writes
its claim; one claim is outstanding, within the share. -/
theorem stake_within_gate_bound_alone :
    ∃ (u v : Store) (e : Entry), u.WellFormed ∧ Linked u ([] ++ [e]) v ∧
      Store.claimCount.run u = .ok 0 u ∧ 0 < max 1 ({} : RunnerConfig).concurrentBatches ∧
      e.event.isStake = true ∧ ∃ n, Store.claimCount.run e.after = .ok n e.after ∧
        n ≤ max 1 ({} : RunnerConfig).concurrentBatches + ([] : List Entry).countP (·.event.isStake) := by
  let t₀ : Instant := .ofSeconds 1704067200
  let a : Action := { hook := "h", args := .empty, schedule := .immediate }
  let u := (Event.write (.insert a t₀ t₀)).apply {}
  have hu : u.WellFormed := Stmt.wellFormed (.insert a t₀ t₀) Store.WellFormed.empty
  have hl := (Linked.nil u).snoc 0 (.write (.stake ⟨1⟩ 1 t₀ {} t₀))
  have hgate : Store.claimCount.run u = .ok 0 u := by
    rw [Store.claimCount_eq, EStateM.Result.ok.injEq]
    exact ⟨by decide +kernel, rfl⟩
  exact ⟨u, _, _, hu, hl, hgate, by decide, rfl,
    hl.stake_within_gate_bound hu hgate (by decide) rfl⟩

/-- **Two runners overtake each other's gate**: on a table with two actions, due at the first
second of 2024 and a minute later, both read no outstanding claim, so both pass a share of one
batch; then one issues a claim and writes it on the first action, the other, a minute later, on
the second, and two claims are outstanding. -/
theorem concurrent_stakes_exceed_share :
    ∃ (u v : Store) (l : List Entry) (e : Entry), Linked u (l ++ [e]) v ∧
      Store.claimCount.run u = .ok 0 u ∧ 0 < max 1 ({} : RunnerConfig).concurrentBatches ∧
      e.event.isStake = true ∧ Store.claimCount.run e.after = .ok 2 e.after ∧
      max 1 ({} : RunnerConfig).concurrentBatches < 2 := by
  let t₀ : Instant := .ofSeconds 1704067200
  let t₁ : Instant := .ofSeconds 1704067260
  let a : Action := { hook := "h", args := .empty, schedule := .immediate }
  let u := (Event.write (.insert a t₁ t₀)).apply ((Event.write (.insert a t₀ t₀)).apply {})
  -- Runner 0 issues claim 1 and writes it; runner 1 issues claim 2 and writes it.
  have hl := ((((Linked.nil u).snoc 0 (.write .issue)).snoc 0 (.write (.stake ⟨1⟩ 1 t₀ {} t₀))).snoc
    1 (.write .issue)).snoc 1 (.write (.stake ⟨2⟩ 1 t₁ {} t₁))
  have hgate : Store.claimCount.run u = .ok 0 u := by
    rw [Store.claimCount_eq, EStateM.Result.ok.injEq]
    exact ⟨by decide +kernel, rfl⟩
  refine ⟨u, _, _, _, hl, hgate, by decide, rfl, ?_, by decide⟩
  rw [Store.claimCount_eq, EStateM.Result.ok.injEq]
  exact ⟨by decide +kernel, rfl⟩

end JobQueue
