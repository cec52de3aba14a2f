import JobQueue.Proofs.Dispatch

/-!
# Claims are exclusive

A stake marks rows with a fresh claim in one statement and reads them back in another, and
between the two any other client may run: release claims, unclaim rows, fail stale ones, or
stake its own claim. This file shows what a stake returns over every interleaving of the
machine of `Interleaving`.

The statements that touch claims are few: a stake marks rows it selects with its own claim,
five statements clear claims (`Stmt.Unclaims`), and every other statement keeps each row's
claim (`Stmt.claim_moves`). A claim id is fresh when issued and only its staker writes it, so
every row that carries a claim was selected by that claim's one stake (`ClaimInv.tagged`), and
what the stake reads back and returns are such rows.

**Main statements**

* `Stmt.claim_moves` — what one statement can do to the claim of a row.
* `Stmt.unclaims_of_cleared` — a statement that clears a row's claim is one of the five.
* `ClaimInv.step` — one step of the system preserves the stakers' invariant.
* `Reachable.claims_exclusive` — every id a stake returns was pending, unclaimed and due under
  its horizon and filter when its claim write ran; two stakes return the same id only if a
  statement that clears claims cleared it in between; releasing a claim clears exactly the
  rows it marks.
-/

namespace JobQueue

/-! ## What statements do to claims -/

/-- **How one statement may change the claim of a row**: keep it, clear it if the statement
clears claims, or set it to the claim the statement stakes, on a row the stake marks. -/
def Stmt.ClaimMove (st : Stmt) (s : Store) (r r' : Row) : Prop :=
  r'.id = r.id ∧ (r'.claim = r.claim ∨ (st.Unclaims ∧ r'.claim = none) ∨
    ∃ c limit horizon f now, st = .stake c limit horizon f now ∧ s.Writable ∧
      r'.claim = some c ∧ Store.Staked limit horizon f s r = true)

namespace Stmt

open Store

lemma ClaimMove.refl (st : Stmt) (s : Store) (r : Row) : st.ClaimMove s r r := ⟨rfl, .inl rfl⟩

/-- **What an edit does to the claim of a row**: a claim write sets its own claim on a row it
marks, a statement that clears claims clears one, and every other edit keeps it. -/
lemma Edit.claimMove {st : Stmt} {s : Store} {r r' : Row} (hw : s.Writable) (h : st.Edit s r r') :
    st.ClaimMove s r r' := by
  cases h with
  | @stake c limit horizon f now _ _ hm =>
    exact ⟨rfl, .inr (.inr ⟨c, limit, horizon, f, now, rfl, hw, rfl, hm⟩)⟩
  | start _ => exact ⟨rfl, .inl rfl⟩
  | unclaim hst => exact ⟨rfl, .inr (.inl ⟨hst, rfl⟩)⟩
  | finish hid _ _ _ _ _ _ hclaim => exact ⟨hid, hclaim.imp_right .inl⟩

/-- **What one statement can do to claims**: each row of the new table continues a row of the
old one, its claim kept, cleared by a statement that clears claims, or set by a stake to its
own claim on a row it marks; or it is a new row, unclaimed, under an id never handed out. -/
theorem claim_moves (st : Stmt) (s : Store) :
    ∀ r' ∈ (after st.run s).rows,
      (∃ r ∈ s.rows, st.ClaimMove s r r') ∨ (r'.claim = none ∧ s.lastId < r'.id.val) := by
  intro r' hr'
  rcases (does st s).related (ClaimMove.refl st s) (fun _ _ hw he => he.claimMove hw) r' hr' with
    h | ⟨a, due, now, -, rfl, -⟩
  · exact .inl h
  · exact .inr ⟨rfl, Int.lt_succ s.lastId⟩

/-- A claim held by a row comes from the old table, or from this statement's stake, which
marked the row. -/
lemma tag_origin (st : Stmt) (s : Store) {r' : Row} (hr' : r' ∈ (after st.run s).rows)
    {c : ClaimId} (hc : r'.claim = some c) :
    (∃ r ∈ s.rows, r.id = r'.id ∧ r.claim = some c) ∨
      ∃ limit horizon f now, st = .stake c limit horizon f now ∧ s.Writable ∧
        ∃ r ∈ s.rows, r.id = r'.id ∧ Store.Staked limit horizon f s r = true := by
  rcases claim_moves st s r' hr' with ⟨r, hr, hid, hmove⟩ | ⟨hnone, -⟩
  · rcases hmove with hkeep | ⟨-, hnone⟩ | ⟨d, limit, horizon, f, now, rfl, hw, hd, hst⟩
    · exact .inl ⟨r, hr, hid.symm, hkeep ▸ hc⟩
    · rw [hnone] at hc
      cases hc
    · obtain rfl : d = c := Option.some.inj (hd.symm.trans hc)
      exact .inr ⟨limit, horizon, f, now, rfl, hw, r, hr, hid.symm, hst⟩
  · rw [hnone] at hc
    cases hc

/-- **Only the five statements clear a claim**: in a well-formed table, a statement after
which a claimed row is still there but unclaimed is one of them. -/
theorem unclaims_of_cleared (st : Stmt) {s : Store} (hs : s.WellFormed) {r r' : Row}
    (hr : r ∈ s.rows) (hc : r.claim.isSome = true) (hr' : r' ∈ (after st.run s).rows)
    (hid : r'.id = r.id) (hnone : r'.claim = none) : st.Unclaims := by
  rcases claim_moves st s r' hr' with ⟨r₀, hr₀, hid₀, hmove⟩ | ⟨-, hfresh⟩
  · -- The row continued is `r` itself, since ids name one row.
    obtain rfl := hs.eq_of_id hr₀ hr (hid₀.symm.trans hid)
    rcases hmove with hkeep | ⟨hst, -⟩ | ⟨c, -, -, -, -, -, -, hsome, -⟩
    · rw [hnone] at hkeep
      rw [← hkeep] at hc
      cases hc
    · exact hst
    · rw [hnone] at hsome
      cases hsome
  · rw [hid] at hfresh
    exact absurd (hs.le_lastId r hr) (Int.not_le.2 hfresh)

lemma after_stake_staked (c : ClaimId) (limit : Nat) (horizon : Instant) (f : ClaimFilter)
    (now : Instant) (s : Store) :
    after (Stmt.stake c limit horizon f now).run s =
      if s.Writable then remap (Store.Staked limit horizon f s)
        (fun r => { r with claim := some c, lastAttempt := some (.ofInstant now),
                           updatedAt := .ofInstant now }) s else s :=
  after_stake c limit horizon f now s

/-- A claim write marks every row it selects with its claim. -/
lemma stake_marks {c : ClaimId} {limit : Nat} {horizon : Instant} {f : ClaimFilter}
    {now : Instant} {s : Store} (hw : s.Writable) {r : Row} (hr : r ∈ s.rows)
    (hst : Store.Staked limit horizon f s r = true) :
    ∃ r' ∈ (after (Stmt.stake c limit horizon f now).run s).rows,
      r'.id = r.id ∧ r'.claim = some c := by
  rw [after_stake_staked, if_pos hw]
  exact ⟨_, List.mem_map_of_mem hr, by simp [hst]⟩

/-- Only issuing a claim changes the count of claims issued, by one. -/
lemma Does.claimsIssued_le {st : Stmt} {s s' : Store} (h : st.Does s s') :
    s.claimsIssued ≤ s'.claimsIssued := by
  cases h with
  | refuse => exact Nat.le_refl _
  | rewrite p f hw hf => exact Nat.le_refl _
  | cull p hw => exact Nat.le_refl _
  | append hst hw => exact Nat.le_refl _
  | issue hst => exact Nat.le_succ _
  | locks hst hkeep => exact Nat.le_of_eq hkeep.2.2.symm

/-- **The count of claims issued never goes down.** -/
lemma claimsIssued_le (st : Stmt) (s : Store) :
    s.claimsIssued ≤ (after st.run s).claimsIssued :=
  (does st s).claimsIssued_le

end Stmt

namespace Store

/-- No row comes back: a table with no row `x`, among ids already handed out, moves forward
to a table with none. -/
lemma Evolves.absent {s s' : Store} {x : ActionId} (h : Evolves s s') (hx : x.val ≤ s.lastId)
    (ha : ∀ r ∈ s.rows, r.id ≠ x) : ∀ r' ∈ s'.rows, r'.id ≠ x := by
  rintro r' hr' rfl
  rcases h.forward r' hr' with ⟨r, hr, hid, -⟩ | hfresh
  · exact ha r hr hid
  · exact absurd hx (Int.not_le.2 hfresh)

/-- A row a claim write marks is due under its horizon and filter. -/
lemma isDue_of_staked {limit : Nat} {horizon : Instant} {f : ClaimFilter} {s : Store}
    (hs : s.WellFormed) {r : Row} (hr : r ∈ s.rows) (h : Staked limit horizon f s r = true) :
    isDue (.ofInstant horizon) f r = true := by
  simp only [Staked, Bool.and_eq_true, List.contains_iff_mem] at h
  obtain ⟨⟨hmem, -⟩, -⟩ := h
  obtain ⟨r₀, hr₀, hid⟩ := List.mem_map.1 hmem
  obtain ⟨hr₀', hdue⟩ := List.mem_filter.1 (List.mem_mergeSort.1 (mem_window hr₀))
  rw [hs.eq_of_id hr₀' hr hid] at hdue
  exact hdue

/-- What a list's `mapM` returns, each value came from one of its elements. -/
lemma mapM_run_mem {ε σ α β : Type} {g : α → EStateM ε σ β} {P : α → β → Prop}
    (hg : ∀ a s b s', (g a).run s = .ok b s' → P a b) :
    ∀ (xs : List α) {s s' : σ} {ys : List β}, (xs.mapM g).run s = .ok ys s' →
      ∀ y ∈ ys, ∃ x ∈ xs, P x y
  | [], s, s', ys, h => by
    simp only [List.mapM_nil, EStateM.run_pure, EStateM.Result.ok.injEq] at h
    rw [← h.1]
    exact fun _ hy => absurd hy List.not_mem_nil
  | x :: xs, s, s', ys, h => by
    rw [List.mapM_cons, EStateM.run_bind] at h
    rcases hx : (g x).run s with ⟨b, s₁⟩ | ⟨e, s₁⟩
    · simp only [hx, EStateM.run_bind] at h
      rcases hxs : (xs.mapM g).run s₁ with ⟨bs, s₂⟩ | ⟨e, s₂⟩
      · simp only [hxs, EStateM.run_pure, EStateM.Result.ok.injEq] at h
        rw [← h.1]
        intro y hy
        rcases List.mem_cons.1 hy with rfl | hy
        · exact ⟨x, List.mem_cons_self, hg x s y s₁ hx⟩
        · obtain ⟨x', hx', hp⟩ := mapM_run_mem hg xs hxs y hy
          exact ⟨x', List.mem_cons_of_mem x hx', hp⟩
      · simp [hxs] at h
    · simp [hx] at h

/-- **The rows a claim's read-back returns carry the claim.** -/
lemma claimedRows_tagged {c : ClaimId} {s s' : Store} {rows : List (ActionId × Instant)}
    (h : (claimedRows c).run s = .ok rows s') :
    ∀ p ∈ rows, ∃ r ∈ s.rows, r.id = p.1 ∧ r.claim = some c := by
  simp only [claimedRows, EStateM.run_bind, EStateM.run_get] at h
  intro p hp
  obtain ⟨r, hr, hid⟩ := mapM_run_mem (P := fun r p => r.id = p.1) (fun r s b s' hb => by
    split at hb
    · simp only [EStateM.run_pure, EStateM.Result.ok.injEq] at hb
      rw [← hb.1]
    · cases hb) _ h p hp
  obtain ⟨hr', hc⟩ := List.mem_filter.1 (List.mem_mergeSort.1 hr)
  exact ⟨r, hr', hid, by simpa using hc⟩

/-- Along statements the count of claims issued never goes down. -/
lemma Reaches.claimsIssued_le {s s' : Store} (h : Reaches s s') : s.claimsIssued ≤ s'.claimsIssued := by
  induction h with
  | refl => exact Nat.le_refl _
  | tail _ step ih =>
    obtain ⟨st, rfl⟩ := step
    exact Nat.le_trans ih (Stmt.claimsIssued_le st _)

end Store

/-! ## The stakers -/

/-- **The claim a task stakes**: writing it, reading it back, sieving it, or returning it. -/
def Task.Stakes (c : ClaimId) : Task → Prop
  | .staking d .. | .reading d _ | .sieving d .. => d = c
  | .returning (.ok cl) => cl.id = c
  | _ => False

/-- The ids a stake holds on its way back: those read back and not dropped, or returned. -/
def Task.kept : Task → List ActionId
  | .sieving _ _ kept rest => kept ++ rest.map (·.1)
  | .returning (.ok cl) => cl.actionIds
  | _ => []

/-- Entry `w` is the claim write of `c`. -/
def Entry.Writes (c : ClaimId) (w : Entry) : Prop :=
  ∃ limit horizon f now, w.event = .write (.stake c limit horizon f now)

/-- Entry `q` returns claim `c`. -/
def Entry.Returns (c : ClaimId) (q : Entry) : Prop := ∃ ids, q.event = .staked (.ok ⟨c, ids⟩)

/-- **Entry `w` is a claim write that marked `x`**: the table was writable, and its row `x`
was among the first due rows, unclaimed and pending. -/
def Entry.Marks (x : ActionId) (w : Entry) : Prop :=
  ∃ c limit horizon f now, w.event = .write (.stake c limit horizon f now) ∧ w.before.Writable ∧
    ∃ r ∈ w.before.rows, r.id = x ∧ Store.Staked limit horizon f w.before r = true

namespace Acts

variable {t t' : Task} {s : Store} {e : Option Event} {c : ClaimId}

lemma recordStmt_open (x : ActionId) (result : Except HandlerError Unit) (now : Instant) :
    (recordStmt x result now).Open := by
  cases result <;> trivial

/-- **The writes of a step**: an open statement, the claim write of the stake the client is
about to write, or an unclaim by the stake the client is sieving. -/
lemma writes {st : Stmt} (h : Acts t s t' (some (.write st))) :
    st.Open ∨
      (∃ c limit horizon f now, st = .stake c limit horizon f now ∧
        t = .staking c limit horizon f now) ∨
      ∃ c x, st = .unclaimFrom c x ∧ t.Stakes c := by
  rcases h with h | ⟨-, st', hopen, hst⟩
  · cases h with
    | started h hn => exact .inl trivial
    | unstarted h => exact .inl trivial
    | startFailed h => exact .inl trivial
    | @recorded _ _ x _ result now _ h hn => exact .inl (recordStmt_open x result now)
    | @unrecorded _ _ x _ result now h => exact .inl (recordStmt_open x result now)
    | @recordFailed _ _ x _ result now _ h => exact .inl (recordStmt_open x result now)
    | successor due now hr h => exact .inl trivial
    | issueEmpty h => exact .inl trivial
    | issue limit before f now hl h => exact .inl trivial
    | stake h => exact .inr (.inl ⟨_, _, _, _, _, rfl, rfl⟩)
    | stakeFailed h => exact .inr (.inl ⟨_, _, _, _, _, rfl, rfl⟩)
    | drop ht h => exact .inr (.inr ⟨_, _, rfl, rfl⟩)
    | dropFailed ht h => exact .inr (.inr ⟨_, _, rfl, rfl⟩)
  · cases hst
    exact .inl hopen

/-- Only a stake about to return `r` returns it, and it goes idle. -/
lemma staked_event {r : Except QueueError Claim} (h : Acts t s t' (some (.staked r))) :
    t = .returning r ∧ t' = .idle := by
  rcases h with h | ⟨-, st, -, hst⟩
  · cases h
    exact ⟨rfl, rfl⟩
  · cases hst

/-- A task comes to stake a claim only by issuing it, fresh. -/
lemma stakes (h : Acts t s t' e) (hc : t'.Stakes c) :
    t.Stakes c ∨ (t = .idle ∧ e = some (.write .issue) ∧ c = ⟨s.claimsIssued + 1⟩) := by
  rcases h with h | ⟨rfl, -⟩
  · cases h with
    | issueEmpty h =>
      rw [Store.freshClaim_run, EStateM.Result.ok.injEq] at h
      exact .inr ⟨rfl, rfl, h.1 ▸ hc.symm⟩
    | issue limit before f now hl h =>
      rw [Store.freshClaim_run, EStateM.Result.ok.injEq] at h
      exact .inr ⟨rfl, rfl, h.1 ▸ hc.symm⟩
    | stake h => exact .inl hc
    | readBack h => exact .inl hc
    | keep ht => exact .inl hc
    | drop ht h => exact .inl hc
    | sieved => exact .inl hc
    | _ => exact hc.elim
  · exact .inl hc

/-- Only the stake about to write a claim writes it. -/
lemma staking_of_writes {limit : Nat} {horizon : Instant} {f : ClaimFilter} {now : Instant}
    (h : Acts t s t' (some (.write (.stake c limit horizon f now)))) :
    t = .staking c limit horizon f now := by
  rcases h.writes with hopen | ⟨c', limit', horizon', f', now', hst, ht⟩ | ⟨c', x, hst, -⟩
  · exact (hopen : False).elim
  · cases hst
    exact ht
  · cases hst

/-- A task comes to be about to write a claim only by issuing it, and stays so only while the
client writes something else. -/
lemma to_staking {limit : Nat} {horizon : Instant} {f : ClaimFilter} {now : Instant}
    (h : Acts t s t' e) (ht : t' = .staking c limit horizon f now) :
    (t = t' ∧ ∃ st, st.Open ∧ e = some (.write st)) ∨
      (t = .idle ∧ e = some (.write .issue) ∧ c = ⟨s.claimsIssued + 1⟩) := by
  rcases h with h | ⟨rfl, hst⟩
  · subst ht
    cases h with
    | issue limit before f now hl h =>
      rw [Store.freshClaim_run, EStateM.Result.ok.injEq] at h
      exact .inr ⟨rfl, rfl, h.1.symm⟩
  · exact .inl ⟨rfl, hst⟩

/-- A task comes to be past its claim write only by that write. -/
lemma to_written {horizon : Instant} (h : Acts t s t' e)
    (ht : t' = .reading c horizon ∨ ∃ kept rest, t' = .sieving c horizon kept rest) :
    (t = .reading c horizon ∨ ∃ kept rest, t = .sieving c horizon kept rest) ∨
      ∃ limit f now, t = .staking c limit horizon f now ∧
        e = some (.write (.stake c limit horizon f now)) := by
  rcases h with h | ⟨rfl, -⟩
  · rcases ht with rfl | ⟨kept, rest, rfl⟩
    · cases h
      exact .inr ⟨_, _, _, rfl, rfl⟩
    · cases h with
      | readBack h => exact .inl (.inl rfl)
      | keep ht => exact .inl (.inr ⟨_, _, rfl⟩)
      | drop ht h => exact .inl (.inr ⟨_, _, rfl⟩)
  · exact .inl ht

/-- An id a stake comes to hold it held before, or read back as carrying the claim. -/
lemma kept {x : ActionId} (h : Acts t s t' e) (hc : t'.Stakes c) (hx : x ∈ t'.kept) :
    (t.Stakes c ∧ x ∈ t.kept) ∨
      ((∃ horizon, t = .reading c horizon) ∧ ∃ r ∈ s.rows, r.id = x ∧ r.claim = some c) := by
  rcases h with h | ⟨rfl, -⟩
  · cases h with
    | issueEmpty h => cases hx
    | readBack h =>
      obtain rfl : _ = c := hc
      simp only [Task.kept, List.nil_append, List.mem_map] at hx
      obtain ⟨p, hp, rfl⟩ := hx
      exact .inr ⟨⟨_, rfl⟩, Store.claimedRows_tagged h p hp⟩
    | keep ht =>
      refine .inl ⟨hc, ?_⟩
      simp only [Task.kept, List.mem_append, List.map_cons, List.mem_cons] at hx ⊢
      tauto
    | drop ht h =>
      refine .inl ⟨hc, ?_⟩
      simp only [Task.kept, List.mem_append, List.map_cons, List.mem_cons] at hx ⊢
      tauto
    | sieved =>
      refine .inl ⟨hc, ?_⟩
      simpa [Task.kept] using hx
    | _ => first | exact hc.elim | exact absurd hx List.not_mem_nil
  · exact .inl ⟨hc, hx⟩

end Acts

namespace System

variable {σ : System} {i : Nat} {t : Task} {e : Option Event}

lemma claimsIssued_le_take (σ : System) (i : Nat) (t : Task) (e : Option Event) :
    σ.store.claimsIssued ≤ (σ.take i t e).store.claimsIssued := by
  rw [take_store]
  rcases e with _ | ev
  · exact Nat.le_refl _
  · cases ev with
    | write st => exact Stmt.claimsIssued_le st _
    | _ => exact Nat.le_refl _

/-- A claim on a row after a step was on it before, or the step is the write of that claim,
which marked the row. -/
lemma tag_origin {r' : Row} (hr' : r' ∈ (σ.take i t e).store.rows) {c : ClaimId}
    (hc : r'.claim = some c) :
    (∃ r ∈ σ.store.rows, r.id = r'.id ∧ r.claim = some c) ∨
      ∃ limit horizon f now, e = some (.write (.stake c limit horizon f now)) ∧
        σ.store.Writable ∧ ∃ r ∈ σ.store.rows, r.id = r'.id ∧
          Store.Staked limit horizon f σ.store r = true := by
  rw [take_store] at hr'
  rcases e with _ | ev
  · exact .inl ⟨r', hr', rfl, hc⟩
  · cases ev with
    | write st =>
      rcases Stmt.tag_origin st σ.store hr' hc with hold | ⟨limit, horizon, f, now, rfl, hnew⟩
      · exact .inl hold
      · exact .inr ⟨limit, horizon, f, now, rfl, hnew⟩
    | _ => exact .inl ⟨r', hr', rfl, hc⟩

/-- An old entry comes before the step's own. -/
lemma pair_sublist_take_of_mem {a : Entry} (ha : a ∈ σ.log) (i : Nat) (t : Task) (ev : Event) :
    [a, ⟨i, ev, σ.store, ev.apply σ.store⟩].Sublist (σ.take i t (some ev)).log :=
  (List.singleton_sublist.2 ha).append (List.Sublist.refl _)

end System

/-- **The stakers' invariant**, for a run from the table `s₀`. -/
structure ClaimInv (s₀ : Store) (σ : System) : Prop where
  /-- Every claim on a row, held by a stake, or written or returned in the log was issued. -/
  tags_issued : ∀ r ∈ σ.store.rows, ∀ c, r.claim = some c → c.serial ≤ σ.store.claimsIssued
  tasks_issued : ∀ i c, (σ.tasks i).Stakes c → c.serial ≤ σ.store.claimsIssued
  log_issued : ∀ e ∈ σ.log, ∀ c, e.Writes c ∨ e.Returns c → c.serial ≤ σ.store.claimsIssued
  /-- The claims of the stakes were issued during the run. -/
  tasks_fresh : ∀ i c, (σ.tasks i).Stakes c → s₀.claimsIssued < c.serial
  /-- A claim has one stake, which has not returned it yet. -/
  sole : ∀ i j c, (σ.tasks i).Stakes c → (σ.tasks j).Stakes c → i = j
  unreturned : ∀ i c, (σ.tasks i).Stakes c → ∀ e ∈ σ.log, ¬ e.Returns c
  /-- A stake about to write its claim finds it written nowhere. -/
  unwritten : ∀ i c limit horizon f now, σ.tasks i = .staking c limit horizon f now →
    (∀ e ∈ σ.log, ¬ e.Writes c) ∧ ∀ r ∈ σ.store.rows, r.claim ≠ some c
  /-- A stake past its claim write finds the write in the log. -/
  written : ∀ i c horizon, (σ.tasks i = .reading c horizon ∨
      ∃ kept rest, σ.tasks i = .sieving c horizon kept rest) →
    ∃ w ∈ σ.log, w.actor = i ∧ w.Writes c
  /-- Every id a stake holds, its claim write marked. -/
  kept : ∀ i c, (σ.tasks i).Stakes c → ∀ x ∈ (σ.tasks i).kept,
    ∃ w ∈ σ.log, w.actor = i ∧ w.Writes c ∧ w.Marks x
  /-- A claim on a row was there from the start, or a write of it marked the row. -/
  tagged : ∀ r ∈ σ.store.rows, ∀ c, r.claim = some c →
    c.serial ≤ s₀.claimsIssued ∨ ∃ w ∈ σ.log, w.Writes c ∧ w.Marks r.id
  /-- Each claim is written once. -/
  one_write : ∀ c, ∀ w₁ ∈ σ.log, ∀ w₂ ∈ σ.log, w₁.Writes c → w₂.Writes c → w₁ = w₂
  /-- Every id a stake returned, its claim write marked, earlier. -/
  returned : ∀ q ∈ σ.log, ∀ c ids, q.event = .staked (.ok ⟨c, ids⟩) → ∀ x ∈ ids,
    ∃ w, [w, q].Sublist σ.log ∧ w.actor = q.actor ∧ w.Writes c ∧ w.Marks x
  /-- Two stakes return different claims. -/
  distinct : ∀ q₁ q₂ c₁ c₂ ids₁ ids₂, [q₁, q₂].Sublist σ.log →
    q₁.event = .staked (.ok ⟨c₁, ids₁⟩) → q₂.event = .staked (.ok ⟨c₂, ids₂⟩) → c₁ ≠ c₂

namespace ClaimInv

/-- A table whose claims were all issued starts a run. -/
lemma init {s₀ : Store} (hfresh : ∀ r ∈ s₀.rows, ∀ c, r.claim = some c → c.serial ≤ s₀.claimsIssued) :
    ClaimInv s₀ (.init s₀) where
  tags_issued := hfresh
  tasks_issued _ _ hc := hc.elim
  log_issued _ he := by cases he
  tasks_fresh _ _ hc := hc.elim
  sole _ _ _ hc := hc.elim
  unreturned _ _ hc := hc.elim
  unwritten _ _ _ _ _ _ ht := by cases ht
  written _ _ _ ht := by rcases ht with ht | ⟨_, _, ht⟩ <;> cases ht
  kept _ _ hc := hc.elim
  tagged r hr c hc := .inl (hfresh r hr c hc)
  one_write _ _ hw := by cases hw
  returned _ hq := by cases hq
  distinct _ _ _ _ _ _ hs := by cases hs

variable {s₀ : Store} {σ : System} {i : Nat} {t : Task} {e : Option Event}

/-! ### One step, field by field -/

lemma take_tags_issued (hinv : ClaimInv s₀ σ) (h : Acts (σ.tasks i) σ.store t e) :
    ∀ r ∈ (σ.take i t e).store.rows, ∀ c, r.claim = some c →
      c.serial ≤ (σ.take i t e).store.claimsIssued := by
  intro r' hr' c hc
  refine Nat.le_trans ?_ (σ.claimsIssued_le_take i t e)
  rcases System.tag_origin hr' hc with ⟨r, hr, -, hrc⟩ | ⟨limit, horizon, f, now, rfl, -⟩
  · exact hinv.tags_issued r hr c hrc
  · -- A claim is written only by the client staking it.
    exact hinv.tasks_issued i c (by rw [h.staking_of_writes]; exact rfl)

lemma take_tasks_issued (hinv : ClaimInv s₀ σ) (h : Acts (σ.tasks i) σ.store t e) :
    ∀ j c, ((σ.take i t e).tasks j).Stakes c → c.serial ≤ (σ.take i t e).store.claimsIssued := by
  intro j c hc
  rw [System.take_tasks, Function.update_apply] at hc
  split_ifs at hc with hj
  · rcases h.stakes hc with hold | ⟨-, rfl, rfl⟩
    · exact Nat.le_trans (hinv.tasks_issued i c hold) (σ.claimsIssued_le_take i t e)
    · -- The claim just issued is the count of claims issued.
      exact Nat.le_refl _
  · exact Nat.le_trans (hinv.tasks_issued j c hc) (σ.claimsIssued_le_take i t e)

lemma take_log_issued (hinv : ClaimInv s₀ σ) (h : Acts (σ.tasks i) σ.store t e) :
    ∀ n ∈ (σ.take i t e).log, ∀ c, n.Writes c ∨ n.Returns c →
      c.serial ≤ (σ.take i t e).store.claimsIssued := by
  intro n hn c hc
  refine Nat.le_trans ?_ (σ.claimsIssued_le_take i t e)
  rcases System.mem_take_log.1 hn with hold | ⟨ev, rfl, rfl⟩
  · exact hinv.log_issued n hold c hc
  · -- The step's own write or return of `c` is made by the client staking `c`.
    apply hinv.tasks_issued i c
    rcases hc with ⟨limit, horizon, f, now, hev⟩ | ⟨ids, hev⟩
    · obtain rfl : ev = _ := hev
      rw [h.staking_of_writes]
      exact rfl
    · obtain rfl : ev = _ := hev
      rw [h.staked_event.1]
      exact rfl

lemma take_tasks_fresh (hσ : Reachable s₀ σ) (hinv : ClaimInv s₀ σ)
    (h : Acts (σ.tasks i) σ.store t e) :
    ∀ j c, ((σ.take i t e).tasks j).Stakes c → s₀.claimsIssued < c.serial := by
  intro j c hc
  rw [System.take_tasks, Function.update_apply] at hc
  split_ifs at hc with hj
  · rcases h.stakes hc with hold | ⟨-, -, rfl⟩
    · exact hinv.tasks_fresh i c hold
    · exact Nat.lt_succ_of_le hσ.linked.reaches.claimsIssued_le
  · exact hinv.tasks_fresh j c hc

/-- A claim the acting client stakes after a step, no other client stakes. -/
lemma take_stakes_alone (hinv : ClaimInv s₀ σ) (h : Acts (σ.tasks i) σ.store t e) {c : ClaimId}
    (hc : t.Stakes c) {j : Nat} (hj : j ≠ i) : ¬ (σ.tasks j).Stakes c := by
  intro hjc
  rcases h.stakes hc with hold | ⟨-, -, rfl⟩
  · exact hj (hinv.sole j i c hjc hold)
  · exact Nat.not_succ_le_self _ (hinv.tasks_issued j _ hjc)

lemma take_sole (hinv : ClaimInv s₀ σ) (h : Acts (σ.tasks i) σ.store t e) :
    ∀ j k c, ((σ.take i t e).tasks j).Stakes c → ((σ.take i t e).tasks k).Stakes c → j = k := by
  intro j k c hj hk
  rw [System.take_tasks, Function.update_apply] at hj hk
  split_ifs at hj hk with hji hki
  · exact hji.trans hki.symm
  · exact absurd hk (take_stakes_alone hinv h hj hki)
  · exact absurd hj (take_stakes_alone hinv h hk hji)
  · exact hinv.sole j k c hj hk

lemma take_unreturned (hinv : ClaimInv s₀ σ) (h : Acts (σ.tasks i) σ.store t e) :
    ∀ j c, ((σ.take i t e).tasks j).Stakes c → ∀ n ∈ (σ.take i t e).log, ¬ n.Returns c := by
  rintro j c hc n hn ⟨ids, hq⟩
  rcases System.mem_take_log.1 hn with hold | ⟨ev, rfl, rfl⟩
  · -- An old return: the client staked `c` before, or `c` is fresh.
    rw [System.take_tasks, Function.update_apply] at hc
    split_ifs at hc with hj
    · rcases h.stakes hc with hi | ⟨-, -, rfl⟩
      · exact hinv.unreturned i c hi n hold ⟨ids, hq⟩
      · exact Nat.not_succ_le_self _ (hinv.log_issued n hold _ (.inr ⟨ids, hq⟩))
    · exact hinv.unreturned j c hc n hold ⟨ids, hq⟩
  · -- The step's own return: its client held `c`, alone, and now goes idle.
    obtain rfl : ev = _ := hq
    obtain ⟨hti, rfl⟩ := h.staked_event
    rw [System.take_tasks, Function.update_apply] at hc
    split_ifs at hc with hj
    · exact hc
    · exact hj (hinv.sole j i c hc (by rw [hti]; exact rfl))

/-- While a client is about to write its claim, no step writes it. -/
lemma not_written_while_staking (hinv : ClaimInv s₀ σ) (h : Acts (σ.tasks i) σ.store t e)
    {j : Nat} {c : ClaimId} {limit horizon f now}
    (hj : (σ.take i t e).tasks j = .staking c limit horizon f now)
    {limit' horizon' f' now'} (he : e = some (.write (.stake c limit' horizon' f' now'))) : False := by
  subst he
  have hti := h.staking_of_writes
  rw [System.take_tasks, Function.update_apply] at hj
  split_ifs at hj with hji
  · -- The writing client moves on; staying put it could only write an open statement.
    rcases h.to_staking hj with ⟨-, st, hopen, hst⟩ | ⟨-, hst, -⟩
    · cases hst
      exact hopen
    · cases hst
  · exact hji (hinv.sole j i c (by rw [hj]; exact rfl) (by rw [hti]; exact rfl))

lemma take_unwritten (hinv : ClaimInv s₀ σ) (h : Acts (σ.tasks i) σ.store t e) :
    ∀ j c limit horizon f now, (σ.take i t e).tasks j = .staking c limit horizon f now →
      (∀ n ∈ (σ.take i t e).log, ¬ n.Writes c) ∧
        ∀ r ∈ (σ.take i t e).store.rows, r.claim ≠ some c := by
  intro j c limit horizon f now hj
  have hold : (∀ n ∈ σ.log, ¬ n.Writes c) ∧ ∀ r ∈ σ.store.rows, r.claim ≠ some c := by
    have hj' := hj
    rw [System.take_tasks, Function.update_apply] at hj'
    split_ifs at hj' with hji
    · rcases h.to_staking hj' with ⟨hti, -⟩ | ⟨-, -, rfl⟩
      · exact hinv.unwritten i c limit horizon f now (hti.trans hj')
      · -- A fresh claim is on no row and in no write yet.
        exact ⟨fun n hn hw => Nat.not_succ_le_self _ (hinv.log_issued n hn _ (.inl hw)),
          fun r hr hrc => Nat.not_succ_le_self _ (hinv.tags_issued r hr _ hrc)⟩
    · exact hinv.unwritten j c limit horizon f now hj'
  refine ⟨fun n hn hw => ?_, fun r hr hrc => ?_⟩
  · rcases System.mem_take_log.1 hn with hn | ⟨ev, rfl, rfl⟩
    · exact hold.1 n hn hw
    · obtain ⟨limit', horizon', f', now', hev⟩ := hw
      obtain rfl : ev = _ := hev
      exact not_written_while_staking hinv h hj rfl
  · rcases System.tag_origin hr hrc with ⟨r₀, hr₀, -, hc₀⟩ | ⟨limit', horizon', f', now', he, -⟩
    · exact hold.2 r₀ hr₀ hc₀
    · exact not_written_while_staking hinv h hj he

lemma take_written (hinv : ClaimInv s₀ σ) (h : Acts (σ.tasks i) σ.store t e) :
    ∀ j c horizon, ((σ.take i t e).tasks j = .reading c horizon ∨
        ∃ kept rest, (σ.take i t e).tasks j = .sieving c horizon kept rest) →
      ∃ w ∈ (σ.take i t e).log, w.actor = j ∧ w.Writes c := by
  intro j c horizon hj
  have grow := σ.log_sublist_take i t e
  rcases σ.take_tasks_cases i t e j with ⟨rfl, ht⟩ | ⟨-, ht⟩ <;> rw [ht] at hj
  · rcases h.to_written hj with hold | ⟨limit, f, now, -, rfl⟩
    · obtain ⟨w, hw, hwa, hwc⟩ := hinv.written j c horizon hold
      exact ⟨w, grow.subset hw, hwa, hwc⟩
    · -- The step is the client's claim write.
      exact ⟨_, System.mem_take_log.2 (.inr ⟨_, rfl, rfl⟩), rfl, limit, horizon, f, now, rfl⟩
  · obtain ⟨w, hw, hwa, hwc⟩ := hinv.written j c horizon hj
    exact ⟨w, grow.subset hw, hwa, hwc⟩

lemma take_kept (hinv : ClaimInv s₀ σ) (h : Acts (σ.tasks i) σ.store t e) :
    ∀ j c, ((σ.take i t e).tasks j).Stakes c → ∀ x ∈ ((σ.take i t e).tasks j).kept,
      ∃ w ∈ (σ.take i t e).log, w.actor = j ∧ w.Writes c ∧ w.Marks x := by
  intro j c hc x hx
  suffices hold : ∃ w ∈ σ.log, w.actor = j ∧ w.Writes c ∧ w.Marks x by
    obtain ⟨w, hw, hrest⟩ := hold
    exact ⟨w, (σ.log_sublist_take i t e).subset hw, hrest⟩
  rw [System.take_tasks, Function.update_apply] at hc hx
  split_ifs at hc hx with hji
  · subst hji
    rcases h.kept hc hx with ⟨hc', hx'⟩ | ⟨⟨horizon, hti⟩, r, hr, rfl, hrc⟩
    · exact hinv.kept j c hc' x hx'
    · -- A row read back carries the claim, so the claim's one write marked it, and that write
      -- is the client's own.
      obtain ⟨w, hw, hwa, hwc⟩ := hinv.written j c horizon (.inl hti)
      rcases hinv.tagged r hr c hrc with hle | ⟨w', hw', hwc', hm⟩
      · exact absurd (hinv.tasks_fresh j c (by rw [hti]; exact rfl)) (Nat.not_lt.2 hle)
      · obtain rfl := hinv.one_write c w' hw' w hw hwc' hwc
        exact ⟨w', hw', hwa, hwc', hm⟩
  · exact hinv.kept j c hc x hx

lemma take_tagged (hinv : ClaimInv s₀ σ) :
    ∀ r ∈ (σ.take i t e).store.rows, ∀ c, r.claim = some c →
      c.serial ≤ s₀.claimsIssued ∨ ∃ w ∈ (σ.take i t e).log, w.Writes c ∧ w.Marks r.id := by
  intro r hr c hc
  rcases System.tag_origin hr hc with
    ⟨r₀, hr₀, hid, hc₀⟩ | ⟨limit, horizon, f, now, rfl, hw, r₀, hr₀, hid, hst⟩
  · rw [← hid]
    exact (hinv.tagged r₀ hr₀ c hc₀).imp id fun ⟨w, hw, hwc, hm⟩ =>
      ⟨w, (σ.log_sublist_take i t _).subset hw, hwc, hm⟩
  · -- The step is the write of `c`, and it marked the row.
    exact .inr ⟨_, System.mem_take_log.2 (.inr ⟨_, rfl, rfl⟩), ⟨limit, horizon, f, now, rfl⟩,
      c, limit, horizon, f, now, rfl, hw, r₀, hr₀, hid, hst⟩

lemma take_one_write (hinv : ClaimInv s₀ σ) (h : Acts (σ.tasks i) σ.store t e) :
    ∀ c, ∀ w₁ ∈ (σ.take i t e).log, ∀ w₂ ∈ (σ.take i t e).log,
      w₁.Writes c → w₂.Writes c → w₁ = w₂ := by
  -- The step's own write of `c` is made by the stake about to write it, which finds no other.
  have first : ∀ c ev, e = some ev → (⟨i, ev, σ.store, ev.apply σ.store⟩ : Entry).Writes c →
      ∀ n ∈ σ.log, ¬ n.Writes c := by
    rintro c ev rfl ⟨limit, horizon, f, now, hev⟩
    obtain rfl : ev = _ := hev
    exact (hinv.unwritten i c limit horizon f now h.staking_of_writes).1
  intro c w₁ hw₁ w₂ hw₂ hc₁ hc₂
  rcases System.mem_take_log.1 hw₁ with h₁ | ⟨ev₁, he₁, rfl⟩ <;>
    rcases System.mem_take_log.1 hw₂ with h₂ | ⟨ev₂, he₂, rfl⟩
  · exact hinv.one_write c w₁ h₁ w₂ h₂ hc₁ hc₂
  · exact absurd hc₁ (first c ev₂ he₂ hc₂ w₁ h₁)
  · exact absurd hc₂ (first c ev₁ he₁ hc₁ w₂ h₂)
  · obtain rfl : ev₁ = ev₂ := Option.some.inj (he₁.symm.trans he₂)
    rfl

lemma take_returned (hinv : ClaimInv s₀ σ) (h : Acts (σ.tasks i) σ.store t e) :
    ∀ q ∈ (σ.take i t e).log, ∀ c ids, q.event = .staked (.ok ⟨c, ids⟩) → ∀ x ∈ ids,
      ∃ w, [w, q].Sublist (σ.take i t e).log ∧ w.actor = q.actor ∧ w.Writes c ∧ w.Marks x := by
  intro q hq c ids hqc x hx
  rcases System.mem_take_log.1 hq with hold | ⟨ev, rfl, rfl⟩
  · obtain ⟨w, hs, hrest⟩ := hinv.returned q hold c ids hqc x hx
    exact ⟨w, hs.trans (σ.log_sublist_take i t _), hrest⟩
  · -- The step returns what its client held, each id marked by the client's own write.
    obtain rfl : ev = _ := hqc
    obtain ⟨hti, -⟩ := h.staked_event
    obtain ⟨w, hw, hrest⟩ := hinv.kept i c (by rw [hti]; exact rfl) x (by rw [hti]; exact hx)
    exact ⟨w, System.pair_sublist_take_of_mem hw i t _, hrest⟩

lemma take_distinct (hinv : ClaimInv s₀ σ) (h : Acts (σ.tasks i) σ.store t e) :
    ∀ q₁ q₂ c₁ c₂ ids₁ ids₂, [q₁, q₂].Sublist (σ.take i t e).log →
      q₁.event = .staked (.ok ⟨c₁, ids₁⟩) → q₂.event = .staked (.ok ⟨c₂, ids₂⟩) → c₁ ≠ c₂ := by
  intro q₁ q₂ c₁ c₂ ids₁ ids₂ hs h₁ h₂
  rcases System.pair_sublist_take hs with hold | ⟨hq₁, ev, rfl, rfl⟩
  · exact hinv.distinct q₁ q₂ c₁ c₂ ids₁ ids₂ hold h₁ h₂
  · -- The step returns a claim its client still held, which nobody returned before.
    obtain rfl : ev = _ := h₂
    obtain ⟨hti, -⟩ := h.staked_event
    rintro rfl
    exact hinv.unreturned i c₁ (by rw [hti]; exact rfl) q₁ hq₁ ⟨ids₁, h₁⟩

/-- **One step preserves the invariant.** -/
theorem step (hσ : Reachable s₀ σ) (hinv : ClaimInv s₀ σ) {σ' : System} (h : Step σ σ') :
    ClaimInv s₀ σ' := by
  obtain ⟨i, t, e, hacts, rfl⟩ := h.acts
  exact ⟨take_tags_issued hinv hacts, take_tasks_issued hinv hacts, take_log_issued hinv hacts,
    take_tasks_fresh hσ hinv hacts, take_sole hinv hacts, take_unreturned hinv hacts,
    take_unwritten hinv hacts, take_written hinv hacts, take_kept hinv hacts, take_tagged hinv,
    take_one_write hinv hacts, take_returned hinv hacts, take_distinct hinv hacts⟩

/-- The invariant holds of every state reachable from a table whose claims were all issued. -/
theorem reachable
    (hfresh : ∀ r ∈ s₀.rows, ∀ c, r.claim = some c → c.serial ≤ s₀.claimsIssued)
    (h : Reachable s₀ σ) : ClaimInv s₀ σ :=
  h.induction (init hfresh) fun hσ hinv hstep => hinv.step hσ hstep

end ClaimInv

/-! ## Exclusive claims -/

/-- A row a claim write marks was pending and unclaimed. -/
lemma Store.pending_of_staked {limit : Nat} {horizon : Instant} {f : ClaimFilter} {s : Store}
    {r : Row} (h : Store.Staked limit horizon f s r = true) :
    r.status = .pending ∧ r.claim = none := by
  simp only [Store.Staked, Bool.and_eq_true, Option.isNone_iff_eq_none, beq_iff_eq] at h
  exact ⟨h.2, h.1.2⟩

/-- The write of claim `c` that marked `x` marked it under its own limit, horizon and filter. -/
lemma Entry.Marks.of_writes {w : Entry} {x : ActionId} {c : ClaimId} (hm : w.Marks x)
    (hw : w.Writes c) :
    ∃ limit horizon f now, w.event = .write (.stake c limit horizon f now) ∧ w.before.Writable ∧
      ∃ r ∈ w.before.rows, r.id = x ∧ Store.Staked limit horizon f w.before r = true := by
  obtain ⟨c', limit, horizon, f, now, hev, hrest⟩ := hm
  obtain ⟨limit', horizon', f', now', hev'⟩ := hw
  rw [hev'] at hev
  cases hev
  exact ⟨_, _, _, _, hev', hrest⟩

/-- **Entry `k` cleared the claim of `x`**: a write of a statement that clears claims, which
found `x` claimed and left it unclaimed. -/
def Entry.Clears (x : ActionId) (k : Entry) : Prop :=
  ∃ st, k.event = .write st ∧ st.Unclaims ∧
    (∃ r ∈ k.before.rows, r.id = x ∧ r.claim.isSome) ∧
      ∃ r ∈ k.after.rows, r.id = x ∧ r.claim = none

/-- **Between two claim writes that both marked `x`**, a statement that clears claims cleared
it: the first left `x` claimed, the second found it unclaimed. -/
lemma Linked.clears_between {s t : Store} {l : List Entry} (h : Linked s l t) (hs : s.WellFormed)
    {wa wb : Entry} {x : ActionId} (hab : [wa, wb].Sublist l) (ha : wa.Marks x)
    (hb : wb.Marks x) : ∃ k, [wa, k, wb].Sublist l ∧ k.Clears x := by
  have hwf := h.wellFormed hs
  have hclaimed : ∃ r ∈ wa.after.rows, r.id = x ∧ r.claim.isSome := by
    obtain ⟨c, limit, horizon, f, now, hev, hw, r, hr, rfl, hst⟩ := ha
    obtain ⟨-, hafter, -⟩ := h.of_mem (hab.subset List.mem_cons_self)
    rw [hafter, hev]
    obtain ⟨r', hr', hid, hc⟩ := Stmt.stake_marks hw hr hst
    exact ⟨r', hr', hid, by rw [hc]; rfl⟩
  obtain ⟨-, limit, horizon, f, now, -, -, rb, hrb, rfl, hst⟩ := hb
  have hwb : wb.before.WellFormed := (hwf.2 wb (hab.subset (by simp))).1
  have hfree : ¬ ∃ r ∈ wb.before.rows, r.id = rb.id ∧ r.claim.isSome := by
    rintro ⟨r, hr, hid, hc⟩
    obtain rfl := hwb.eq_of_id hr hrb hid
    rw [(Store.pending_of_staked hst).2] at hc
    cases hc
  obtain ⟨k, hsub, ⟨r, hr, hid, hc⟩, hk⟩ :=
    h.crossing (fun s => ∃ r ∈ s.rows, r.id = rb.id ∧ r.claim.isSome) hab hclaimed hfree
  refine ⟨k, hsub, ?_⟩
  have hkl : k ∈ l := hsub.subset (by simp)
  obtain ⟨-, hafter, -⟩ := h.of_mem hkl
  have hkb : k.before.WellFormed := (hwf.2 k hkl).1
  -- The row is still there after `k`: it is there when the second write runs, and an id that
  -- leaves the table never comes back.
  obtain ⟨r', hr', hid'⟩ : ∃ r' ∈ k.after.rows, r'.id = rb.id := by
    by_contra hgone
    have hreach := h.reaches_of_sublist ((List.sublist_cons_self wa [k, wb]).trans hsub)
    have hle : rb.id.val ≤ k.after.lastId := by
      rw [← hid]
      refine Int.le_trans (hkb.le_lastId r hr) ?_
      rw [hafter]
      exact (Event.reaches k.event k.before).evolves.lastId_le
    exact hreach.evolves.absent hle (fun r' hr' hid' => hgone ⟨r', hr', hid'⟩) rb hrb rfl
  have hnone : r'.claim = none := by
    cases hc' : r'.claim with
    | none => rfl
    | some c' => exact absurd ⟨r', hr', hid', by rw [hc']; rfl⟩ hk
  -- Only a write changes the table, and only the five statements clear a claim.
  cases hkev : k.event with
  | write st =>
    rw [hkev] at hafter
    have hst' : r' ∈ (after st.run k.before).rows := by
      rw [hafter] at hr'
      exact hr'
    exact ⟨st, hkev, Stmt.unclaims_of_cleared st hkb hr hc hst' (hid'.trans hid.symm) hnone,
      ⟨r, hr, hid, hc⟩, r', hr', hid', hnone⟩
  | _ =>
    rw [hkev] at hafter
    exact absurd (show ∃ r ∈ k.after.rows, r.id = rb.id ∧ r.claim.isSome from
      by rw [hafter]; exact ⟨r, hr, hid, hc⟩) hk

/-- **Releasing claim `k`** clears the claim on exactly the rows that carry `k`, when the
table takes writes, and on none when it does not. -/
lemma Store.releaseClaim_rows (k : ClaimId) (s : Store) :
    (after (Store.releaseClaim k) s).rows =
      s.rows.map fun r => if s.Writable ∧ r.claim = some k then { r with claim := none } else r := by
  rw [Store.releaseClaim, after_beginWrite_bind]
  by_cases hw : s.Writable
  · rw [if_pos hw, after_of_ok (Store.rewrite_run _ _ s)]
    simp [hw]
  · rw [if_neg hw]
    simp [hw]

/-- **Claim safety of a state**: what the log says about the claims the stakes returned. -/
structure ClaimSafety (σ : System) : Prop where
  /-- Every id a stake returned was pending, unclaimed and due under the stake's horizon and
  filter when the stake's claim write ran. -/
  returned_due : ∀ q ∈ σ.log, ∀ c ids, q.event = .staked (.ok ⟨c, ids⟩) → ∀ x ∈ ids,
    ∃ w, [w, q].Sublist σ.log ∧ w.actor = q.actor ∧
      ∃ limit horizon f now, w.event = .write (.stake c limit horizon f now) ∧
        w.before.Writable ∧ ∃ r ∈ w.before.rows, r.id = x ∧ r.status = .pending ∧
          r.claim = none ∧ Store.isDue (.ofInstant horizon) f r = true
  /-- Two stakes that return the same id: between their claim writes, a statement that clears
  claims cleared the id's claim. -/
  cleared_between : ∀ q₁ q₂ c₁ c₂ ids₁ ids₂ x, [q₁, q₂].Sublist σ.log →
    q₁.event = .staked (.ok ⟨c₁, ids₁⟩) → q₂.event = .staked (.ok ⟨c₂, ids₂⟩) →
    x ∈ ids₁ → x ∈ ids₂ →
    ∃ w₁ w₂ k, w₁.actor = q₁.actor ∧ w₁.Writes c₁ ∧ w₂.actor = q₂.actor ∧ w₂.Writes c₂ ∧
      ([w₁, k, w₂].Sublist σ.log ∨ [w₂, k, w₁].Sublist σ.log) ∧ k.Clears x

/-- **Claims are exclusive** in every state reachable from a well-formed table whose claims
were all issued: each id a stake returns was pending, unclaimed and due when the stake's write
marked it; two stakes return one id only if its claim was cleared between their writes; and
releasing a claim clears exactly the rows that carry it. -/
theorem Reachable.claims_exclusive {s₀ : Store} {σ : System} (hs₀ : s₀.WellFormed)
    (hfresh : ∀ r ∈ s₀.rows, ∀ c, r.claim = some c → c.serial ≤ s₀.claimsIssued)
    (h : Reachable s₀ σ) :
    ClaimSafety σ ∧ ∀ k s, (after (Store.releaseClaim k) s).rows =
      s.rows.map fun r => if s.Writable ∧ r.claim = some k then { r with claim := none } else r := by
  have hinv := ClaimInv.reachable hfresh h
  have hwf := h.linked.wellFormed hs₀
  refine ⟨⟨?due, ?cleared⟩, Store.releaseClaim_rows⟩
  case due =>
    intro q hq c ids hqc x hx
    obtain ⟨w, hs, hact, hwc, hm⟩ := hinv.returned q hq c ids hqc x hx
    obtain ⟨limit, horizon, f, now, hev, hw, r, hr, rfl, hst⟩ := hm.of_writes hwc
    have hwb : w.before.WellFormed := (hwf.2 w (hs.subset List.mem_cons_self)).1
    obtain ⟨hpend, hnone⟩ := Store.pending_of_staked hst
    exact ⟨w, hs, hact, limit, horizon, f, now, hev, hw, r, hr, rfl, hpend, hnone,
      Store.isDue_of_staked hwb hr hst⟩
  case cleared =>
    intro q₁ q₂ c₁ c₂ ids₁ ids₂ x hs h₁ h₂ hx₁ hx₂
    obtain ⟨w₁, hs₁, ha₁, hwc₁, hm₁⟩ :=
      hinv.returned q₁ (hs.subset List.mem_cons_self) c₁ ids₁ h₁ x hx₁
    obtain ⟨w₂, hs₂, ha₂, hwc₂, hm₂⟩ := hinv.returned q₂ (hs.subset (by simp)) c₂ ids₂ h₂ x hx₂
    -- The two stakes return different claims, so their claim writes are two entries.
    have hne : w₁ ≠ w₂ := by
      rintro rfl
      obtain ⟨_, _, _, _, he₁⟩ := hwc₁
      obtain ⟨_, _, _, _, he₂⟩ := hwc₂
      rw [he₁] at he₂
      cases he₂
      exact hinv.distinct q₁ q₂ _ _ ids₁ ids₂ hs h₁ h₂ rfl
    rcases pair_sublist_of_mem (hs₁.subset List.mem_cons_self) (hs₂.subset List.mem_cons_self)
      hne with h₁₂ | h₂₁
    · obtain ⟨k, hk, hcl⟩ := h.linked.clears_between hs₀ h₁₂ hm₁ hm₂
      exact ⟨w₁, w₂, k, ha₁, hwc₁, ha₂, hwc₂, .inl hk, hcl⟩
    · obtain ⟨k, hk, hcl⟩ := h.linked.clears_between hs₀ h₂₁ hm₂ hm₁
      exact ⟨w₁, w₂, k, ha₁, hwc₁, ha₂, hwc₂, .inr hk, hcl⟩

/-- Two runners stake claims that both return action 1, the housekeeper having released the
first as stale in between: a statement between the two claim writes cleared the action's
claim. -/
theorem claims_exclusive_two_stakes :
    ({} : Store).WellFormed ∧
      (∀ r ∈ ({} : Store).rows, ∀ c, r.claim = some c → c.serial ≤ ({} : Store).claimsIssued) ∧
      ∃ σ, Reachable {} σ ∧
        (∃ q₁ q₂, [q₁, q₂].Sublist σ.log ∧ q₁.event = .staked (.ok ⟨⟨1⟩, [⟨1⟩]⟩) ∧
          q₂.event = .staked (.ok ⟨⟨2⟩, [⟨1⟩]⟩)) ∧
        (∃ k ∈ σ.log, k.Clears ⟨1⟩) ∧
        (ClaimSafety σ ∧ ∀ k s, (after (Store.releaseClaim k) s).rows =
          s.rows.map fun r => if s.Writable ∧ r.claim = some k then { r with claim := none } else r) := by
  have hwf : ({} : Store).WellFormed := ⟨List.nodup_nil, fun _ h => by cases h⟩
  have hfresh :
      ∀ r ∈ ({} : Store).rows, ∀ c, r.claim = some c → c.serial ≤ ({} : Store).claimsIssued :=
    fun _ h => by cases h
  obtain ⟨σ, hσ, ⟨q₁, q₂, hq, -, hq₁, -, hq₂⟩, -⟩ := two_runners_run
  have hsafe := Reachable.claims_exclusive hwf hfresh hσ
  -- Both stakes returned action 1, so a statement between their claim writes cleared it.
  obtain ⟨w₁, w₂, k, -, -, -, -, hk, hcl⟩ :=
    hsafe.1.cleared_between q₁ q₂ _ _ _ _ ⟨1⟩ hq hq₁ hq₂ List.mem_cons_self List.mem_cons_self
  have hmem : k ∈ σ.log := by
    rcases hk with hk | hk <;> exact hk.subset (by simp)
  exact ⟨hwf, hfresh, σ, hσ, ⟨q₁, q₂, hq, hq₁, hq₂⟩, ⟨k, hmem, hcl⟩, hsafe⟩

end JobQueue
