import JobQueue.Proofs.ClaimRows
import JobQueue.Proofs.Operations

/-!
# Attempts follow the status

A row counts the executions that began on it. The count is raised in one place only: the
write that starts an action, which moves it from pending to in progress. No statement moves
a row back to pending (`Stmt.evolves`), and every new row is pending with no attempts. So in
every table the clients can reach, a pending row has no attempts, a row in progress has one,
and no row has more than one.

The execution order of a claim sorts by priority, attempts, scheduled time and id, but a
claim only sorts rows that are pending or carry its own fresh id, and all of those have no
attempts. The attempts key therefore never decides anything: a stake returns the same rows in
the same order, and leaves the same table, as a stake that sorts by priority, scheduled time
and id alone (`Store.plainOrder`).

**Main statements**

* `Stmt.carries` — what one statement does to each row: it carries it over (same action, a
  status that may follow, one more attempt exactly when it starts), or it is a new row.
* `Store.Reaches.attemptsSettled`, `Operation.attemptsSettled` — attempts match statuses along
  any sequence of statements, hence of public operations.
* `Store.stake_eq_stakeBy_plain` — on such a table, with its claims issued, a stake does not
  depend on the attempts key.
* `Reachable.attempts_settled` — both, for every reachable state of the interleaved clients.
-/

namespace JobQueue

/-! ## What a statement does to a row -/

namespace Row

/-- **A row carried over by a statement**: the same action (id, hook, arguments key and
group), a status that may follow the old one, and one more attempt exactly when the row leaves
pending for in progress. -/
structure Carries (r r' : Row) : Prop where
  id : r'.id = r.id
  hook : r'.hook = r.hook
  argsKey : r'.argsKey = r.argsKey
  group : r'.group = r.group
  leads : r.status.Leads r'.status
  attempts : r'.attempts =
    if r.status = .pending ∧ r'.status = .inProgress then r.attempts + 1 else r.attempts

variable {r r' : Row}

/-- A rewrite that keeps the action, its status and its attempts carries the row over. -/
lemma Carries.of_status (hid : r'.id = r.id) (hhook : r'.hook = r.hook)
    (hkey : r'.argsKey = r.argsKey) (hgroup : r'.group = r.group) (hst : r'.status = r.status)
    (hat : r'.attempts = r.attempts) : r.Carries r' := by
  refine ⟨hid, hhook, hkey, hgroup, hst ▸ .refl _, ?_⟩
  rw [hst, hat]
  split_ifs with h
  · exact nomatch h.1.symm.trans h.2
  · rfl

lemma Carries.refl (r : Row) : r.Carries r := .of_status rfl rfl rfl rfl rfl rfl

/-- A move to a status other than in progress, keeping the action and its attempts. -/
lemma Carries.of_move (hid : r'.id = r.id) (hhook : r'.hook = r.hook)
    (hkey : r'.argsKey = r.argsKey) (hgroup : r'.group = r.group)
    (hl : r.status.Leads r'.status) (hne : r'.status ≠ .inProgress)
    (hat : r'.attempts = r.attempts) : r.Carries r' := by
  refine ⟨hid, hhook, hkey, hgroup, hl, ?_⟩
  rw [hat, if_neg fun h => hne h.2]

end Row

namespace Stmt

open Store

/-- **An edit carries the row over.** A start is the one edit that moves a row into progress,
and it raises the attempts by one; every other edit keeps them. -/
lemma Edit.carries {st : Stmt} {s : Store} {r r' : Row} (h : st.Edit s r r') : r.Carries r' := by
  have hleads := h.id_leads.2
  cases h with
  | stake _ => exact .of_status rfl rfl rfl rfl rfl rfl
  | start hp =>
    refine ⟨rfl, rfl, rfl, rfl, hleads, ?_⟩
    simp [Row.started, hp]
  | unclaim _ => exact .of_status rfl rfl rfl rfl rfl rfl
  | finish hid hhook hkey hgroup _ hfin hat _ =>
    refine .of_move hid hhook hkey hgroup hleads (fun hprog => ?_) hat
    rw [hprog] at hfin
    cases hfin

/-- **What one statement does to each row.** Every row of the new table carries over a row of
the old one, or is the row of an action that an insert appended to a writable table under the
next id; an insert unless queued does so only when no equal action is queued. -/
theorem carries (st : Stmt) (s : Store) :
    ∀ r' ∈ (after st.run s).rows, (∃ r ∈ s.rows, r.Carries r') ∨
      ∃ a due now, s.Writable ∧ r' = Row.ofAction ⟨s.lastId + 1⟩ a due now ∧
        (st = .insert a due now ∨ st = .insertUnique a due now ∧ queued a s = false) :=
  (does st s).related Row.Carries.refl fun _ _ _ he => he.carries

end Stmt

/-! ## Attempts match statuses -/

namespace Row

/-- **Attempts match the status**: at most one attempt, none while pending, one while in
progress. -/
def AttemptsSettled (r : Row) : Prop :=
  r.attempts ≤ 1 ∧ (r.status = .pending → r.attempts = 0) ∧
    (r.status = .inProgress → r.attempts = 1)

/-- A new row is pending with no attempts. -/
lemma attemptsSettled_ofAction (id : ActionId) (a : Action) (due now : Instant) :
    (ofAction id a due now).AttemptsSettled :=
  ⟨Nat.zero_le 1, fun _ => rfl, nofun⟩

/-- **Carrying a row over keeps its attempts matched to its status.** Only a start moves a row
into progress, and it finds the row pending with no attempts. -/
lemma Carries.attemptsSettled {r r' : Row} (h : r.Carries r') (hr : r.AttemptsSettled) :
    r'.AttemptsSettled := by
  unfold AttemptsSettled at hr ⊢
  obtain ⟨hle, hpend, hprog⟩ := hr
  have hat := h.attempts
  rcases h.leads with hst | hst | ⟨hst, hfin⟩
  · -- The status stays, so the attempts do.
    rw [if_neg fun h => nomatch h.1.symm.trans (hst.trans h.2)] at hat
    rw [hat, ← hst]
    exact ⟨hle, hpend, hprog⟩
  · have h₀ := hpend hst
    by_cases hp : r'.status = .inProgress
    · rw [if_pos ⟨hst, hp⟩] at hat
      refine ⟨by omega, fun h => ?_, fun _ => by omega⟩
      rw [h] at hp
      cases hp
    · rw [if_neg fun h => hp h.2] at hat
      refine ⟨by omega, fun _ => by omega, fun h => absurd h hp⟩
  · -- From in progress only to a finished status, with the one attempt kept.
    rw [if_neg fun h => nomatch h.1.symm.trans hst] at hat
    refine ⟨by omega, fun h => ?_, fun h => ?_⟩ <;> rw [h] at hfin <;> cases hfin

end Row

namespace Store

/-- **Every row's attempts match its status.** -/
def AttemptsSettled (s : Store) : Prop := ∀ r ∈ s.rows, r.AttemptsSettled

/-- **Every statement keeps attempts matched to statuses.** -/
theorem Stmt.attemptsSettled (st : Stmt) {s : Store} (hs : s.AttemptsSettled) :
    (after st.run s).AttemptsSettled := by
  intro r' hr'
  rcases st.carries s r' hr' with ⟨r, hr, hc⟩ | ⟨a, due, now, -, rfl, -⟩
  · exact hc.attemptsSettled (hs r hr)
  · exact Row.attemptsSettled_ofAction _ a due now

/-- **Any sequence of statements keeps attempts matched to statuses.** -/
theorem Reaches.attemptsSettled {s s' : Store} (h : Reaches s s') (hs : s.AttemptsSettled) :
    s'.AttemptsSettled := by
  induction h with
  | refl => exact hs
  | tail _ step ih =>
    obtain ⟨st, rfl⟩ := step
    exact Stmt.attemptsSettled st ih

/-! ## The attempts key of the claim order -/

/-- **Claim order without its attempts key**: priority, scheduled time, then id. -/
def plainOrder (a b : Row) : Ordering :=
  (compare a.priority b.priority).then <|
    (compare a.scheduledAt.text b.scheduledAt.text).then (compare a.id.val b.id.val)

/-- Between rows with as many attempts, claim order is the plain order. -/
lemma claimOrder_eq_plainOrder {a b : Row} (h : a.attempts = b.attempts) :
    claimOrder a b = plainOrder a b := by
  simp only [claimOrder, plainOrder, h, Std.ReflCmp.compare_self, Ordering.eq_then]

/-- Sorting depends only on how the order compares the rows sorted. -/
lemma sortBy_congr {o o' : Row → Row → Ordering} {rows : List Row}
    (h : ∀ a ∈ rows, ∀ b ∈ rows, o a b = o' a b) : sortBy o rows = sortBy o' rows := by
  have := List.map_mergeSort (f := id) (r := fun a b => o a b != .gt)
    (s := fun a b => o' a b != .gt) (l := rows) fun a ha b hb => by rw [id, id, h a ha b hb]
  unfold sortBy
  simpa only [List.map_id] using this

/-- Rows without attempts sort the same in claim order and in the plain order. -/
lemma sortBy_claimOrder_unattempted {rows : List Row} (h : ∀ r ∈ rows, r.attempts = 0) :
    sortBy claimOrder rows = sortBy plainOrder rows :=
  sortBy_congr fun a ha b hb => claimOrder_eq_plainOrder ((h a ha).trans (h b hb).symm)

/-! ### A stake in another order

The stake below is `stake` with its two sorts, of the due rows and of the claim's rows read
back, made in the order `o`; in claim order it is `stake` itself (`stake_eq_stakeBy`). -/

/-- The ids of the rows a claim of `limit` would take, in the order `o`. -/
def dueIdsBy (o : Row → Row → Ordering) (limit : Int) (horizon : Stamp) (f : ClaimFilter)
    (s : Store) : List ActionId :=
  (window limit 0 (sortBy o (s.rows.filter (isDue horizon f)))).map (·.id)

/-- The claim write, choosing rows in the order `o`. -/
def stakeWriteBy (o : Row → Row → Ordering) (c : ClaimId) (limit : Nat) (horizon : Instant)
    (f : ClaimFilter) (now : Instant) : StoreM Nat := do
  beginWrite
  let chosen := dueIdsBy o (signedWord limit) (.ofInstant horizon) f (← get)
  rewrite (fun r => chosen.contains r.id && r.claim.isNone && r.status == .pending)
    fun r => { r with claim := some c, lastAttempt := some (.ofInstant now),
                      updatedAt := .ofInstant now }

/-- The rows of claim `c` in the order `o`, each with its scheduled time read back. -/
def claimedRowsBy (o : Row → Row → Ordering) (c : ClaimId) :
    StoreM (List (ActionId × Instant)) := do
  let rows := sortBy o ((← get).rows.filter (·.claim == some c))
  rows.mapM fun r => match Row.time 1 r.scheduledAt with
    | .ok t => pure (r.id, t)
    | .error e => throw e

/-- The ids of claim `c` due by `horizon`, read back in the order `o`. -/
def claimedBy (o : Row → Row → Ordering) (c : ClaimId) (horizon : Instant) :
    StoreM (List ActionId) := do
  keepDue c horizon (← claimedRowsBy o c)

/-- **A stake whose sorts use the order `o`.** -/
def stakeBy (o : Row → Row → Ordering) (limit : Nat) (before : Option Instant) (f : ClaimFilter)
    (now : Instant) : StoreM Claim := do
  let c ← freshClaim
  let horizon := (before.getD now).truncSeconds
  if limit == 0 then return ⟨c, []⟩
  let _ ← stakeWriteBy o c limit horizon f now
  return ⟨c, ← claimedBy o c horizon⟩

lemma stake_eq_stakeBy (limit : Nat) (before : Option Instant) (f : ClaimFilter) (now : Instant) :
    stake limit before f now = stakeBy claimOrder limit before f now := rfl

/-- Every row a stake of claim `c` sorts, pending or carrying `c`, has no attempts. -/
def Unattempted (c : ClaimId) (s : Store) : Prop :=
  ∀ r ∈ s.rows, r.status = .pending ∨ r.claim = some c → r.attempts = 0

section Unattempted

variable {c : ClaimId} {s s' : Store} {o : Row → Row → Ordering} {limit : Nat} {horizon : Instant}
  {f : ClaimFilter} {now : Instant}

lemma dueIdsBy_plain (hu : s.Unattempted c) (l : Int) (h : Stamp) :
    dueIdsBy claimOrder l h f s = dueIdsBy plainOrder l h f s := by
  unfold dueIdsBy
  rw [sortBy_claimOrder_unattempted fun r hr => ?_]
  obtain ⟨hr, hdue⟩ := List.mem_filter.1 hr
  simp only [isDue, Bool.and_eq_true, beq_iff_eq] at hdue
  exact hu r hr (.inl hdue.1.1.1)

lemma stakeWriteBy_plain (hu : s.Unattempted c) :
    (stakeWriteBy claimOrder c limit horizon f now).run s =
      (stakeWriteBy plainOrder c limit horizon f now).run s := by
  simp only [stakeWriteBy, EStateM.run_bind, beginWrite_run]
  split_ifs
  · rfl
  · rfl
  · simp only [EStateM.run_get, dueIdsBy_plain hu]

/-- The claim write marks only pending rows, so afterwards the rows carrying its claim have no
attempts either. -/
lemma stakeWriteBy_unattempted (hu : s.Unattempted c) {k : Nat}
    (h : (stakeWriteBy o c limit horizon f now).run s = .ok k s') : s'.Unattempted c := by
  simp only [stakeWriteBy, EStateM.run_bind, beginWrite_run] at h
  split_ifs at h
  simp only [EStateM.run_get, rewrite_run, EStateM.Result.ok.injEq] at h
  obtain ⟨-, rfl⟩ := h
  intro r' hr'
  obtain ⟨r, hr, rfl⟩ := mem_remap (p := fun r => _ && r.claim.isNone && r.status == .pending)
    (s := s) hr'
  split
  · next hp =>
    simp only [Bool.and_eq_true, beq_iff_eq] at hp
    exact fun _ => hu r hr (.inl hp.2)
  · exact hu r hr

lemma claimedRowsBy_plain (hu : s.Unattempted c) :
    (claimedRowsBy claimOrder c).run s = (claimedRowsBy plainOrder c).run s := by
  simp only [claimedRowsBy, EStateM.run_bind, EStateM.run_get]
  rw [sortBy_claimOrder_unattempted fun r hr => ?_]
  obtain ⟨hr, hc⟩ := List.mem_filter.1 hr
  exact hu r hr (.inr (by simpa using hc))

end Unattempted

/-- **A stake does not depend on the attempts key.** On a table whose attempts match their
statuses and whose claims were all issued, a stake returns the same claim, with the same ids
in the same order, and leaves the same table, as a stake sorting by priority, scheduled time
and id alone; so does one that fails. -/
theorem stake_eq_stakeBy_plain {s : Store} (hs : s.AttemptsSettled) (hissued : s.ClaimsIssued)
    (n : Nat) (before : Option Instant) (f : ClaimFilter) (now : Instant) :
    (stake n before f now).run s = (stakeBy plainOrder n before f now).run s := by
  -- The fresh claim is on no row, and every pending row has no attempts.
  have hu : ({ s with claimsIssued := s.claimsIssued + 1 } : Store).Unattempted
      ⟨s.claimsIssued + 1⟩ := by
    intro r hr h
    rcases h with hp | hc
    · exact (hs r hr).2.1 hp
    · have := hissued r hr _ hc
      dsimp only at this
      omega
  rw [stake_eq_stakeBy]
  simp only [stakeBy, EStateM.run_bind, freshClaim_run]
  split
  · rfl
  · simp only [EStateM.run_bind, stakeWriteBy_plain hu]
    cases hw : (stakeWriteBy plainOrder ⟨s.claimsIssued + 1⟩ n (before.getD now).truncSeconds f
      now).run { s with claimsIssued := s.claimsIssued + 1 } with
    | ok k s₂ =>
      simp only [claimedBy, EStateM.run_bind, claimedRowsBy_plain (stakeWriteBy_unattempted hu hw)]
    | error e s₂ => rfl

end Store

/-! ## Every reachable state -/

/-- **Attempts follow the status along any sequence of public operations**, with tame runners:
the store's API, the queue front, runners and housekeeping. -/
theorem Operation.attemptsSettled (ops : List Operation) (hops : ∀ op ∈ ops, op.Tame) (w : World)
    (hw : w.store.AttemptsSettled) : (after (ops.forM Operation.perform) w).store.AttemptsSettled :=
  ((Stepwise.forM ops fun op hop => Operation.stepwise op (hops op hop)) w).attemptsSettled hw

/-- **Attempts follow the status, and the claim order's attempts key is idle.** In every state
reachable by interleaving clients from a table whose attempts match their statuses and whose
claims were all issued (an empty table, say), every row has at most one attempt, none while
pending and one while in progress; and a stake from that state returns exactly what a stake
sorting by priority, scheduled time and id alone returns, and leaves the same table. -/
theorem Reachable.attempts_settled {s₀ : Store} (ha₀ : s₀.AttemptsSettled)
    (hc₀ : s₀.ClaimsIssued) {σ : System} (h : Reachable s₀ σ) :
    σ.store.AttemptsSettled ∧ ∀ n before f now,
      (Store.stake n before f now).run σ.store =
        (Store.stakeBy Store.plainOrder n before f now).run σ.store := by
  have hs : σ.store.AttemptsSettled := h.linked.reaches.attemptsSettled ha₀
  exact ⟨hs, Store.stake_eq_stakeBy_plain hs (ClaimInv.reachable hc₀ h).tags_issued⟩

/-- After two runners have staked, started and dispatched one action and a second action has
been saved, the action in progress has had one attempt and the pending one none, and a stake
does not depend on the attempts key. -/
theorem attempts_settled_two_runners :
    ∃ σ : System, Reachable {} σ ∧
      (∃ r ∈ σ.store.rows, r.id = ⟨1⟩ ∧ r.status = .inProgress ∧ r.attempts = 1) ∧
      (∃ r ∈ σ.store.rows, r.id = ⟨2⟩ ∧ r.status = .pending ∧ r.attempts = 0) ∧
      σ.store.AttemptsSettled ∧ ∀ n before f now,
        (Store.stake n before f now).run σ.store =
          (Store.stakeBy Store.plainOrder n before f now).run σ.store := by
  obtain ⟨σ, hσ, -, -, -, -, ⟨r₁, hr₁, hid₁, hrun⟩, r₂, hr₂, hid₂, hpend⟩ := two_runners_run
  obtain ⟨hs, hstake⟩ := Reachable.attempts_settled (fun _ h => absurd h List.not_mem_nil)
    (fun _ h => absurd h List.not_mem_nil) hσ
  exact ⟨σ, hσ, ⟨r₁, hr₁, hid₁, hrun, (hs r₁ hr₁).2.2 hrun⟩,
    ⟨r₂, hr₂, hid₂, hpend, (hs r₂ hr₂).2.1 hpend⟩, hs, hstake⟩

end JobQueue
