import JobQueue.Proofs.ClaimExclusivity
import JobQueue.Proofs.StampOrder

/-!
# Housekeeping hits exactly the stale work

A row's last attempt is written by four statements: a claim write stamps the rows it marks, a
start stamps the row it starts, and recording success or failure stamps the row it finishes.
Housekeeping reads it two ways: on a pending row that holds a claim, as the age of the claim
(`Store.releaseStaleClaims`); on a row in progress, as the time its execution began
(`Store.failStaleInProgress`). This file shows that both readings are right in every state the
clients can reach, and what housekeeping then does.

**What one statement does.** `Stmt.Clocks` lists what a statement may do to a row's status,
claim and last attempt together: keep them, perhaps dropping the claim; finish the row; claim a
row it marks at its clock reading; or start a pending row at its clock reading. `Stmt.clocks`
proves that list complete from what each kind of edit does (`Stmt.Edit.clocks`).

**The invariant.** `AttemptClock` says that every claim on a pending row is stamped with the
clock reading of a claim write of that claim which marked the row, and every row in progress
with that of the start that started it. One write keeps it (`AttemptClock.write`), so every
reachable state has it (`Reachable.attemptClock`).

**Housekeeping.** A claim is written once and an action starts once, so the stamp is that of
the one claim write or start. Stored stamps compare as the instants, to the second, on the
years 0 to 9999 only. With the cutoff and every clock reading in those years, releasing stale
claims clears the claim of exactly the pending rows claimed at or before the cutoff, and
failing stale executions fails exactly the rows started at or before it; no other row changes
(`Reachable.housekeeping_hits_stale`). A cutoff in the year 10000 is stored as `+10000-…`,
which sorts before every four-digit year, and releases nothing
(`year_ten_thousand_cutoff_releases_nothing`).

**Main statements**

* `Stmt.clocks` — what one statement does to the clock of each row.
* `Reachable.attemptClock` — last attempts record claims and starts in every reachable state.
* `Reachable.housekeeping_hits_stale` — releasing stale claims and failing stale executions
  hit exactly the work claimed or started at or before the cutoff.
* `year_ten_thousand_cutoff_releases_nothing` — a cutoff past the year 9999 releases a claim
  staked long before it.
-/

namespace JobQueue

/-! ## What a statement does to the clock of a row -/

namespace Stmt

/-- **How one statement may change a row's clock**: its status, claim and last attempt. It
keeps them, perhaps dropping the claim; it finishes the row; a claim write on a writable table
claims a row it marks, at the write's clock reading; or a start on a writable table starts the
pending row with its id, at the start's clock reading. -/
inductive Clocks (st : Stmt) (s : Store) (r : Row) : Row → Prop
  | keep {r' : Row} (hid : r'.id = r.id) (hst : r'.status = r.status)
      (hc : r'.claim = r.claim ∨ r'.claim = none) (ha : r'.lastAttempt = r.lastAttempt) :
      Clocks st s r r'
  | finish {r' : Row} (hid : r'.id = r.id) (hst : r'.status.isFinished = true) : Clocks st s r r'
  | stake {r' : Row} {c : ClaimId} {limit : Nat} {horizon : Instant} {f : ClaimFilter}
      {now : Instant} (he : st = .stake c limit horizon f now) (hw : s.Writable)
      (hm : Store.Staked limit horizon f s r = true) (hid : r'.id = r.id)
      (hst : r'.status = .pending) (hc : r'.claim = some c)
      (ha : r'.lastAttempt = some (.ofInstant now)) : Clocks st s r r'
  | start {r' : Row} {now : Instant} (he : st = .start r.id now) (hw : s.Writable)
      (hp : r.status = .pending) (hid : r'.id = r.id) (hst : r'.status = .inProgress)
      (ha : r'.lastAttempt = some (.ofInstant now)) : Clocks st s r r'

namespace Clocks

variable {st : Stmt} {s : Store}

lemma refl (r : Row) : st.Clocks s r r := .keep rfl rfl (.inl rfl) rfl

end Clocks

open Store

/-- **What an edit does to the clock of a row**: a claim write claims a row it marks and a
start starts a pending row, each at its clock reading; a move finishes the row; an unclaim
keeps the clock and drops the claim. -/
lemma Edit.clocks {st : Stmt} {s : Store} {r r' : Row} (hw : s.Writable) (h : st.Edit s r r') :
    st.Clocks s r r' := by
  cases h with
  | stake hm => exact .stake rfl hw hm rfl (pending_of_staked hm).1 rfl rfl
  | start hp => exact .start rfl hw hp rfl rfl rfl
  | unclaim _ => exact .keep rfl rfl (.inr rfl) rfl
  | finish hid _ _ _ _ hfin => exact .finish hid hfin

/-- **What one statement does to the clock of each row.** Every row of the new table keeps the
clock of a row of the old one, perhaps without its claim; or it is finished; or a claim write
claimed it at the write's clock reading; or a start started it at the start's; or it is a new
row, pending and unclaimed. -/
theorem clocks (st : Stmt) (s : Store) :
    ∀ r' ∈ (after st.run s).rows,
      (∃ r ∈ s.rows, st.Clocks s r r') ∨ (r'.status = .pending ∧ r'.claim = none) := by
  intro r' hr'
  rcases (does st s).related Clocks.refl (fun _ _ hw he => he.clocks hw) r' hr' with
    h | ⟨a, due, now, -, rfl, -⟩
  · exact .inl h
  · exact .inr ⟨rfl, rfl⟩

end Stmt

/-! ## The invariant -/

/-- The clock reading an entry stamps as a last attempt that lasts: a claim write's or a
start's. -/
def Entry.Stamps (w : Entry) (now : Instant) : Prop :=
  (∃ c limit horizon f, w.event = .write (.stake c limit horizon f now)) ∨
    ∃ x, w.event = .write (.start x now)

/-- **Last attempts after the entries `l`**: every pending row that holds a claim was last
attempted at the clock reading of a claim write of that claim which marked it, and every row in
progress at the clock reading of the start that started it. -/
structure AttemptClock (l : List Entry) (s : Store) : Prop where
  claimed : ∀ r ∈ s.rows, r.status = .pending → ∀ c, r.claim = some c →
    ∃ w ∈ l, ∃ limit horizon f now, w.event = .write (.stake c limit horizon f now) ∧
      w.Marks r.id ∧ r.lastAttempt = some (.ofInstant now)
  started : ∀ r ∈ s.rows, r.status = .inProgress →
    ∃ w ∈ l, ∃ now, w.event = .write (.start r.id now) ∧ w.Starts r.id ∧
      r.lastAttempt = some (.ofInstant now)

namespace AttemptClock

variable {l l' : List Entry} {s : Store}

/-- A table with nothing in progress and no claim on a pending row starts a run. -/
lemma init (hidle : ∀ r ∈ s.rows, r.status ≠ .inProgress ∧ (r.status = .pending → r.claim = none)) :
    AttemptClock [] s where
  claimed r hr hp c hc := by
    rw [(hidle r hr).2 hp] at hc
    cases hc
  started r hr hp := absurd hp (hidle r hr).1

/-- More entries keep the invariant. -/
lemma mono (h : AttemptClock l s) (hl : ∀ w ∈ l, w ∈ l') : AttemptClock l' s where
  claimed r hr hp c hc := by
    obtain ⟨w, hw, rest⟩ := h.claimed r hr hp c hc
    exact ⟨w, hl w hw, rest⟩
  started r hr hp := by
    obtain ⟨w, hw, rest⟩ := h.started r hr hp
    exact ⟨w, hl w hw, rest⟩

/-- **One statement keeps the invariant**, its entry added to the log. -/
lemma write (h : AttemptClock l s) (i : Nat) (st : Stmt) :
    AttemptClock (l ++ [⟨i, .write st, s, after st.run s⟩]) (after st.run s) where
  claimed r' hr' hp c hc := by
    have hold : ∀ w ∈ l, w ∈ l ++ [⟨i, .write st, s, after st.run s⟩] :=
      fun w hw => List.mem_append_left _ hw
    rcases Stmt.clocks st s r' hr' with ⟨r, hr, hmove⟩ | ⟨-, hnone⟩
    · cases hmove with
      | keep hid hst hc' ha =>
        -- The claim is the old one: the old row had it, pending, at the same last attempt.
        rcases hc' with hc' | hc'
        · obtain ⟨w, hw, limit, horizon, f, now, hev, hm, hla⟩ :=
            h.claimed r hr (hst ▸ hp) c (hc' ▸ hc)
          exact ⟨w, hold w hw, limit, horizon, f, now, hev, hid ▸ hm, ha.trans hla⟩
        · rw [hc'] at hc
          cases hc
      | finish _ hst => rw [hp] at hst; cases hst
      | stake he hw hm hid _ hc' ha =>
        -- This write claimed the row: its entry is the new one.
        subst he
        obtain rfl := Option.some.inj (hc'.symm.trans hc)
        exact ⟨_, List.mem_append_right _ (List.mem_singleton_self _), _, _, _, _, rfl,
          ⟨_, _, _, _, _, rfl, hw, r, hr, hid.symm, hm⟩, ha⟩
      | start _ _ _ _ hst => rw [hp] at hst; cases hst
    · rw [hnone] at hc
      cases hc
  started r' hr' hp := by
    have hold : ∀ w ∈ l, w ∈ l ++ [⟨i, .write st, s, after st.run s⟩] :=
      fun w hw => List.mem_append_left _ hw
    rcases Stmt.clocks st s r' hr' with ⟨r, hr, hmove⟩ | ⟨hpend, -⟩
    · cases hmove with
      | keep hid hst _ ha =>
        obtain ⟨w, hw, now, hev, hs, hla⟩ := h.started r hr (hst ▸ hp)
        exact ⟨w, hold w hw, now, hid ▸ hev, hid ▸ hs, ha.trans hla⟩
      | finish _ hst => rw [hp] at hst; cases hst
      | stake _ _ _ _ hst => rw [hp] at hst; cases hst
      | start he hw hpend hid _ ha =>
        -- This start started the row: its entry is the new one.
        subst he
        rw [hid]
        exact ⟨_, List.mem_append_right _ (List.mem_singleton_self _), _, rfl,
          ⟨⟨_, rfl⟩, ⟨r, hr, rfl, hpend⟩, r', hr', hid, hp⟩, ha⟩
    · rw [hp] at hpend
      cases hpend

/-- **One step of the system keeps the invariant**: only a write changes the table. -/
lemma take {σ : System} (h : AttemptClock σ.log σ.store) (i : Nat) (t : Task) :
    ∀ e, AttemptClock (σ.take i t e).log (σ.take i t e).store
  | none => h
  | some (.write st) => h.write i st
  | some (.dispatch _) | some (.processed _ _) | some (.staked _) =>
    h.mono fun _ hw => List.mem_append_left _ hw

end AttemptClock

/-- **Last attempts in every reachable state**: from a table with nothing in progress and no
claim on a pending row, every claim on a pending row and every start is recorded as the last
attempt, at the clock reading of the write that made it. -/
theorem Reachable.attemptClock {s₀ : Store} {σ : System}
    (hidle : ∀ r ∈ s₀.rows, r.status ≠ .inProgress ∧ (r.status = .pending → r.claim = none))
    (h : Reachable s₀ σ) : AttemptClock σ.log σ.store := by
  refine Reachable.induction (P := fun σ => AttemptClock σ.log σ.store)
    (AttemptClock.init hidle) (fun _ hinv step => ?_) h
  obtain ⟨i, t, e, -, rfl⟩ := step.acts
  exact hinv.take i t e

/-! ## Housekeeping hits the stale work -/

/-- **A stale claim** after the entries `l`, at `cutoff`: a pending row whose claim was written
at a clock reading no later than the cutoff, to the second. -/
def StaleClaim (l : List Entry) (cutoff : Instant) (r : Row) : Prop :=
  r.status = .pending ∧ ∃ c, r.claim = some c ∧ ∃ w ∈ l, ∃ limit horizon f now,
    w.event = .write (.stake c limit horizon f now) ∧ now.truncSeconds ≤ cutoff.truncSeconds

/-- **A stale start**: a row in progress whose start ran at a clock reading no later than the
cutoff, to the second. -/
def StaleStart (l : List Entry) (cutoff : Instant) (r : Row) : Prop :=
  r.status = .inProgress ∧ ∃ w ∈ l, ∃ now, w.Starts r.id ∧ w.event = .write (.start r.id now) ∧
    now.truncSeconds ≤ cutoff.truncSeconds

namespace Store

variable {s : Store}

/-- A stored last attempt is at or before a stored cutoff as the instants are, to the second,
when both lie in the years 0 to 9999. -/
lemma stampedBy_ofInstant {a b : Instant} (ha : a.Storable) (hb : b.Storable) :
    stampedBy (.ofInstant b) (some (.ofInstant a)) = true ↔ a.truncSeconds ≤ b.truncSeconds := by
  rw [stampedBy, decide_eq_true_iff]
  exact Stamp.ofInstant_le_iff ha hb

lemma releaseStaleClaims_run (hw : s.Writable) (cutoff : Instant) :
    (releaseStaleClaims cutoff).run s =
      .ok (s.rows.filter fun r => r.status == .pending && r.claim.isSome &&
          stampedBy (.ofInstant cutoff) r.lastAttempt).length
        (remap (fun r => r.status == .pending && r.claim.isSome &&
          stampedBy (.ofInstant cutoff) r.lastAttempt) (fun r => { r with claim := none }) s) := by
  simp only [releaseStaleClaims, EStateM.run_bind, beginWrite_run_of_writable hw, rewrite_run]
  rfl

lemma failStaleInProgress_run (hw : s.Writable) (cutoff now : Instant) :
    (failStaleInProgress cutoff now).run s =
      .ok (s.rows.filter fun r => r.status == .inProgress &&
          stampedBy (.ofInstant cutoff) r.lastAttempt).length
        (remap (fun r => r.status == .inProgress && stampedBy (.ofInstant cutoff) r.lastAttempt)
          (fun r => { r with status := .failed, claim := none, updatedAt := .ofInstant now }) s) := by
  simp only [failStaleInProgress, EStateM.run_bind, beginWrite_run_of_writable hw, rewrite_run]
  rfl

open Classical in
/-- A rewrite whose test agrees with a property on every row rewrites the rows with the
property. -/
lemma remap_congr {p : Row → Bool} {P : Row → Prop} (h : ∀ r ∈ s.rows, p r = true ↔ P r)
    (f : Row → Row) :
    (s.rows.filter p).length = (s.rows.filter fun r => decide (P r)).length ∧
      (remap p f s).rows = s.rows.map fun r => if P r then f r else r := by
  refine ⟨congrArg List.length (List.filter_congr fun r hr => ?_),
    List.map_congr_left fun r hr => ?_⟩
  · exact Bool.eq_iff_iff.2 ((h r hr).trans decide_eq_true_iff.symm)
  · by_cases hp : P r
    · simp [(h r hr).2 hp, hp]
    · simp [mt (h r hr).1 hp, hp]

end Store

namespace AttemptClock

variable {l : List Entry} {s : Store} {cutoff : Instant}

/-- **Releasing stale claims matches exactly the stale claims**: on a run where each claim is
written once, with the cutoff and every clock reading in the years 0 to 9999. -/
lemma releases_iff (h : AttemptClock l s)
    (hone : ∀ c, ∀ w₁ ∈ l, ∀ w₂ ∈ l, w₁.Writes c → w₂.Writes c → w₁ = w₂)
    (hc : cutoff.Storable) (hl : ∀ w ∈ l, ∀ t, w.Stamps t → t.Storable) :
    ∀ r ∈ s.rows, (r.status == .pending && r.claim.isSome &&
      Store.stampedBy (.ofInstant cutoff) r.lastAttempt) = true ↔ StaleClaim l cutoff r := by
  intro r hr
  simp only [Bool.and_eq_true, beq_iff_eq, Option.isSome_iff_exists]
  constructor
  · rintro ⟨⟨hp, c, hrc⟩, hby⟩
    obtain ⟨w, hw, limit, horizon, f, now, hev, -, hla⟩ := h.claimed r hr hp c hrc
    rw [hla] at hby
    have hnow := hl w hw now (.inl ⟨c, limit, horizon, f, hev⟩)
    exact ⟨hp, c, hrc, w, hw, limit, horizon, f, now, hev,
      (Store.stampedBy_ofInstant hnow hc).1 hby⟩
  · rintro ⟨hp, c, hrc, w, hw, limit, horizon, f, now, hev, hle⟩
    obtain ⟨w₀, hw₀, limit₀, horizon₀, f₀, now₀, hev₀, -, hla⟩ := h.claimed r hr hp c hrc
    -- The claim was written once, so the write found is the one that stamped the row.
    obtain rfl := hone c w hw w₀ hw₀ ⟨limit, horizon, f, now, hev⟩ ⟨limit₀, horizon₀, f₀, now₀, hev₀⟩
    rw [hev] at hev₀
    cases hev₀
    refine ⟨⟨hp, c, hrc⟩, ?_⟩
    rw [hla]
    exact (Store.stampedBy_ofInstant (hl w hw now (.inl ⟨c, limit, horizon, f, hev⟩)) hc).2 hle

/-- **Failing stale executions matches exactly the stale starts**: on a run where each action
starts once, with the cutoff and every clock reading in the years 0 to 9999. -/
lemma fails_iff (h : AttemptClock l s)
    (huniq : ∀ x, ∀ e₁ ∈ l, ∀ e₂ ∈ l, e₁.Starts x → e₂.Starts x → e₁ = e₂)
    (hc : cutoff.Storable) (hl : ∀ w ∈ l, ∀ t, w.Stamps t → t.Storable) :
    ∀ r ∈ s.rows, (r.status == .inProgress &&
      Store.stampedBy (.ofInstant cutoff) r.lastAttempt) = true ↔ StaleStart l cutoff r := by
  intro r hr
  simp only [Bool.and_eq_true, beq_iff_eq]
  constructor
  · rintro ⟨hp, hby⟩
    obtain ⟨w, hw, now, hev, hs, hla⟩ := h.started r hr hp
    rw [hla] at hby
    exact ⟨hp, w, hw, now, hs, hev,
      (Store.stampedBy_ofInstant (hl w hw now (.inr ⟨r.id, hev⟩)) hc).1 hby⟩
  · rintro ⟨hp, w, hw, now, hs, hev, hle⟩
    obtain ⟨w₀, hw₀, now₀, hev₀, hs₀, hla⟩ := h.started r hr hp
    -- The action started once, so the start found is the one that stamped the row.
    obtain rfl := huniq r.id w hw w₀ hw₀ hs hs₀
    rw [hev] at hev₀
    cases hev₀
    refine ⟨hp, ?_⟩
    rw [hla]
    exact (Store.stampedBy_ofInstant (hl w hw now (.inr ⟨r.id, hev⟩)) hc).2 hle

end AttemptClock

open Classical in
/-- **Housekeeping hits exactly the stale work.** From a well-formed table with its claims
issued, nothing in progress and no claim on a pending row, in every reachable state every claim
on a pending row is recorded as its last attempt at the clock reading of the claim write that
marked it, and every row in progress at the clock reading of its start. Hence, with the cutoff
and every clock reading in the years 0 to 9999, releasing stale claims clears the claim of
exactly the pending rows whose claim was written at or before the cutoff, to the second, and
failing stale executions fails exactly the rows in progress started at or before it, dropping
their claims; no other row changes. -/
theorem Reachable.housekeeping_hits_stale {s₀ : Store} {σ : System} (hs₀ : s₀.WellFormed)
    (hfresh : ∀ r ∈ s₀.rows, ∀ c, r.claim = some c → c.serial ≤ s₀.claimsIssued)
    (hidle : ∀ r ∈ s₀.rows, r.status ≠ .inProgress ∧ (r.status = .pending → r.claim = none))
    (h : Reachable s₀ σ) :
    AttemptClock σ.log σ.store ∧
      ∀ cutoff now, σ.store.Writable → cutoff.Storable →
        (∀ w ∈ σ.log, ∀ t, w.Stamps t → t.Storable) →
        (Store.releaseStaleClaims cutoff).run σ.store =
            .ok (σ.store.rows.filter fun r => decide (StaleClaim σ.log cutoff r)).length
              { σ.store with rows := σ.store.rows.map fun r =>
                  if StaleClaim σ.log cutoff r then { r with claim := none } else r } ∧
          (Store.failStaleInProgress cutoff now).run σ.store =
            .ok (σ.store.rows.filter fun r => decide (StaleStart σ.log cutoff r)).length
              { σ.store with rows := σ.store.rows.map fun r =>
                  if StaleStart σ.log cutoff r then
                    { r with status := .failed, claim := none, updatedAt := .ofInstant now }
                  else r } := by
  have hinv := h.attemptClock hidle
  refine ⟨hinv, fun cutoff now hw hc hl => ⟨?_, ?_⟩⟩
  · obtain ⟨hcount, hrows⟩ := Store.remap_congr
      (hinv.releases_iff (ClaimInv.reachable hfresh h).one_write hc hl) fun r => { r with claim := none }
    rw [Store.releaseStaleClaims_run hw, hcount]
    exact congrArg (EStateM.Result.ok _) (congrArg (fun rows => { σ.store with rows := rows }) hrows)
  · have huniq : ∀ x, ∀ e₁ ∈ σ.log, ∀ e₂ ∈ σ.log, e₁.Starts x → e₂.Starts x → e₁ = e₂ :=
      fun _ _ h₁ _ h₂ hs₁ hs₂ => h.linked.starts_unique hs₀ h₁ h₂ hs₁ hs₂
    obtain ⟨hcount, hrows⟩ := Store.remap_congr (hinv.fails_iff huniq hc hl)
      fun r => { r with status := .failed, claim := none, updatedAt := .ofInstant now }
    rw [Store.failStaleInProgress_run hw, hcount]
    exact congrArg (EStateM.Result.ok _) (congrArg (fun rows => { σ.store with rows := rows }) hrows)

open Classical in
/-- After a run in which the housekeeper released a claimed action as stale and a runner then
staked it again and started it, the invariant holds and housekeeping hits exactly the stale
work of the table the run left, whose action is in progress. -/
theorem housekeeping_hits_stale_two_runners :
    ({} : Store).WellFormed ∧
      (∀ r ∈ ({} : Store).rows, ∀ c, r.claim = some c → c.serial ≤ ({} : Store).claimsIssued) ∧
      (∀ r ∈ ({} : Store).rows, r.status ≠ .inProgress ∧ (r.status = .pending → r.claim = none)) ∧
      ∃ σ, Reachable {} σ ∧
        (∃ k ∈ σ.log, k.event = .write (.releaseStale (.ofSeconds 1704067200)) ∧
          ∃ r ∈ k.before.rows, r.status = .pending ∧ r.claim = some ⟨1⟩) ∧
        (∃ r ∈ σ.store.rows, r.id = ⟨1⟩ ∧ r.status = .inProgress) ∧
        (AttemptClock σ.log σ.store ∧
          ∀ cutoff now, σ.store.Writable → cutoff.Storable →
            (∀ w ∈ σ.log, ∀ t, w.Stamps t → t.Storable) →
            (Store.releaseStaleClaims cutoff).run σ.store =
                .ok (σ.store.rows.filter fun r => decide (StaleClaim σ.log cutoff r)).length
                  { σ.store with rows := σ.store.rows.map fun r =>
                      if StaleClaim σ.log cutoff r then { r with claim := none } else r } ∧
              (Store.failStaleInProgress cutoff now).run σ.store =
                .ok (σ.store.rows.filter fun r => decide (StaleStart σ.log cutoff r)).length
                  { σ.store with rows := σ.store.rows.map fun r =>
                      if StaleStart σ.log cutoff r then
                        { r with status := .failed, claim := none, updatedAt := .ofInstant now }
                      else r }) := by
  have hwf : ({} : Store).WellFormed := ⟨List.nodup_nil, fun _ h => by cases h⟩
  have hfresh :
      ∀ r ∈ ({} : Store).rows, ∀ c, r.claim = some c → c.serial ≤ ({} : Store).claimsIssued :=
    fun _ h => by cases h
  have hidle :
      ∀ r ∈ ({} : Store).rows, r.status ≠ .inProgress ∧ (r.status = .pending → r.claim = none) :=
    fun _ h => by cases h
  obtain ⟨σ, hσ, -, ⟨k, hk, -, hrel, hclaimed⟩, -, -, hrun, -⟩ := two_runners_run
  exact ⟨hwf, hfresh, hidle, σ, hσ, ⟨k, hk, hrel, hclaimed⟩, hrun,
    Reachable.housekeeping_hits_stale hwf hfresh hidle hσ⟩

/-- **A cutoff in the year 10000 releases nothing.** On a table holding one action due at the
first second of 2024, a claim staked then is not released by a cutoff at the first second of the
year 10000, though it was staked long before: the cutoff's stored text sorts before every
four-digit year. -/
theorem year_ten_thousand_cutoff_releases_nothing :
    (Instant.ofSeconds 1704067200).truncSeconds ≤ (Instant.ofSeconds 253402300800).truncSeconds ∧
      ∃ c s₁ s₂, (Store.stake 1 none {} (.ofSeconds 1704067200)).run
          (({} : Store).append ⟨"h", .empty, .immediate, "", 10⟩ (.ofSeconds 1704067200)
            (.ofSeconds 1704067200)) = .ok c s₁ ∧
        (Store.releaseStaleClaims (.ofSeconds 253402300800)).run s₁ = .ok 0 s₂ ∧
        ∃ r ∈ s₂.rows, r.status = .pending ∧ r.claim = some c.id ∧
          r.lastAttempt = some (.ofInstant (.ofSeconds 1704067200)) := by
  have h : (match (Store.stake 1 none {} (.ofSeconds 1704067200)).run
        (({} : Store).append ⟨"h", .empty, .immediate, "", 10⟩ (.ofSeconds 1704067200)
          (.ofSeconds 1704067200)) with
      | .ok c s₁ => match (Store.releaseStaleClaims (.ofSeconds 253402300800)).run s₁ with
        | .ok n s₂ => n == 0 && s₂.rows.any fun r => r.status == .pending &&
            r.claim == some c.id && r.lastAttempt == some (.ofInstant (.ofSeconds 1704067200))
        | .error _ _ => false
      | .error _ _ => false) = true := by
    decide +kernel
  refine ⟨by decide, ?_⟩
  split at h
  · next c s₁ hstake =>
    split at h
    · next n s₂ hrel =>
      simp only [Bool.and_eq_true, beq_iff_eq, List.any_eq_true] at h
      obtain ⟨rfl, r, hr, ⟨hp, hc⟩, ha⟩ := h
      exact ⟨c, s₁, s₂, hstake, hrel, r, hr, hp, hc, ha⟩
    · cases h
  · cases h

end JobQueue
