import JobQueue.Proofs.Batches

/-!
# Runs that stop short

A run can stop before its batches are over in two ways. A store operation can fail with a
queue error, which the run returns: a stake that cannot read back what it claimed, or a fetch
of a row that does not decode. Or the arithmetic of a successor's schedule can panic, which
unwinds through the run, releasing the claim of the batch under way. The dispatcher's answer
is never either: a handler's failure, or its panic caught by the guarded dispatch, is recorded
as the action's failure and the batch goes on.

This file shows that a run that stops short went through whole batches, as a run that ends
normally does, and then cut one batch short at a failed stake or fetch, or at a successor's
panic, having dispatched a prefix of its ids. With the normal ending of `Batches` it gives the
contract of a whole run, however it ends.

**Main statements**

* `Registry.answersBy_of_dispatch` — a dispatcher that answers or panics by hook and
  arguments alone answers, guarded, by hook and arguments alone.
* `Runner.process_pending_halts` — processing a pending row stops short only at its fetch or
  at its successor's schedule.
* `Runner.processAll_halts` — a batch that stops short dispatched a prefix of its ids first.
* `Runner.runBatch_halts`, `Runner.runBatches_halts` — where a batch, and a run, stop short.
* `Runner.runBatches_contract` — the contract of a whole run.
-/

namespace JobQueue

/-- **How a job stopped short**: with a queue error, or with a panic. -/
inductive Halt where
  | error (e : QueueError)
  | panic (p : Panic)

/-- The result of a job that stopped short as `halt`, leaving world `w`. -/
def Halt.result {α : Type} : Halt → World → EStateM.Result Panic World (Except QueueError α)
  | .error e, w => .ok (.error e) w
  | .panic p, w => .error p w

lemma Halt.result_ne_ok {α : Type} (halt : Halt) (w w' : World) (a : α) :
    halt.result w ≠ .ok (.ok a) w' := by
  cases halt <;> simp [Halt.result]

namespace Job

variable {α β : Type}

/-- A job of two steps stopped short in its first step, or in its second after the first ended
normally. -/
lemma bind_run_halt {j : Job α} {f : α → Job β} {w w' : World} {halt : Halt}
    (h : (j >>= f).run w = halt.result w') :
    j.run w = halt.result w' ∨
      ∃ a w₀, j.run w = .ok (.ok a) w₀ ∧ (f a).run w₀ = halt.result w' := by
  rw [run_bind] at h
  rcases hj : j.run w with ⟨e | a, w₀⟩ | ⟨p, w₀⟩ <;> rw [hj] at h <;> dsimp only at h
  · left
    cases halt <;> cases h
    rfl
  · exact .inr ⟨a, w₀, rfl, h⟩
  · left
    cases halt <;> cases h
    rfl

end Job

/-- **A dispatcher that answers or panics by hook and arguments alone**, leaving the world as it
was (`F` gives the answer, or the message of the panic): guarded, it answers by hook and
arguments alone, a panic coming back as the failure `panicked` with its message. -/
lemma Registry.answersBy_of_dispatch {reg : Registry}
    (F : String → Args → Except String (Except HandlerError Unit))
    (hF : ∀ hook args w, (reg.dispatch hook args).run w = match F hook args with
      | .ok a => .ok a w
      | .error m => .error ⟨m⟩ w) :
    reg.AnswersBy fun hook args => match F hook args with
      | .ok a => a
      | .error m => .error (.panicked m) := by
  intro hook args w
  unfold Registry.dispatchGuarded
  rw [tryCatch_run, hF]
  dsimp only
  cases F hook args <;> rfl

namespace Store

/-- **A release on a writable table goes through.** -/
lemma releaseClaim_run_of_writable {s : Store} (hw : s.Writable) (c : ClaimId) :
    ∃ n s', (releaseClaim c).run s = .ok n s' := by
  simp only [releaseClaim, EStateM.run_bind, beginWrite_run_of_writable hw, rewrite_run]
  exact ⟨_, _, rfl⟩

end Store

namespace Runner

variable {r : Runner} {D : String → Args → Except HandlerError Unit} {x : ActionId}
  {w w₁ w' : World} {P : Bool → StoredAction → Bool} {s₁ : Store}

/-- **Processing `x` stopped short**, from world `w`, as `halt`, leaving world `w'`: fetching the
action failed with a queue error; or the action was read pending, dispatched and its answer
recorded, and then scheduling its successor panicked. The dispatcher's answer, a failure or a
panic, is never what stops it. -/
inductive Stops (r : Runner) (D : String → Args → Except HandlerError Unit) (x : ActionId)
    (w : World) : Halt → World → Prop
  | fetch {e : QueueError} {s : Store} :
      (Store.fetch x).run w.store = .error e s → Stops r D x w (.error e) { w with store := s }
  | successor {a : StoredAction} {p : Panic} {w' : World} :
      (Store.fetch x).run w.store = .ok a w.store → a.status = .pending →
      a.action.isRecurring = true →
      (r.scheduleSuccessor a).run { w with
        store := Store.finish x (recordedStatus (D a.hook a.action.args)) w.clock w.store } =
        .error p w' →
      Stops r D x w (.panic p) w'

/-- **Processing a pending row that stopped short** stopped as `Stops` says. -/
lemma process_pending_halts (hD : r.registry.AnswersBy D) (hwf : w.store.WellFormed)
    (hw : w.store.Writable) {q : Row} (hq : q ∈ w.store.rows) (hx : q.id = x)
    (hp : q.status = .pending) {halt : Halt} (h : (r.process x).run w = halt.result w') :
    r.Stops D x w halt w' := by
  rcases hf : (Store.fetch x).run w.store with ⟨a, s⟩ | ⟨e, s⟩
  · obtain ⟨rfl, -⟩ := Store.fetch_ok hf
    have he := execute_pending_run hD hwf hw hq hx hp
    rw [hf] at he
    rw [process_of_recorded he] at h
    split_ifs at h with hrec
    · rcases hs : (r.scheduleSuccessor a).run { w with
          store := Store.finish x (recordedStatus (D a.hook a.action.args)) w.clock w.store } with
        ⟨next, w₂⟩ | ⟨p, w₂⟩ <;> rw [hs] at h
      · exact absurd h.symm (Halt.result_ne_ok _ _ _ _)
      · cases halt with
        | error e => cases h
        | panic p' =>
          cases h
          exact .successor hf ((Store.fetch_status hwf hq hx hf).trans hp) hrec hs
    · exact absurd h.symm (Halt.result_ne_ok _ _ _ _)
  · unfold process at h
    rw [Job.run_bind, execute_pending_run hD hwf hw hq hx hp, hf] at h
    cases halt with
    | error e' =>
      cases h
      exact .fetch hf
    | panic p => cases h

/-- **Scheduling a successor that panicked** left the world as it was: only the schedule's
arithmetic panics, before anything is saved. -/
lemma scheduleSuccessor_panic (hpol : ∀ f a, r.policy f a = pure (P f a)) {a : StoredAction}
    {ran : Instant} (hran : a.scheduledAt.addSeconds? 1 = some ran) (hw : w.store.Writable)
    {p : Panic} (h : (r.scheduleSuccessor a).run w = .error p w') : w' = w := by
  obtain ⟨b, hb⟩ := Store.consistentlyFailing_read a.hook r.failureThreshold w.store
  rw [scheduleSuccessor_run_of hpol hran hb hw] at h
  by_cases hP : P b a = true
  · simp only [hP, if_true] at h
    cases h
  simp only [hP, Bool.false_eq_true, if_false] at h
  rcases hnext : a.action.schedule.next (some (w.clock.later ran)) with err | _ | t <;>
    simp only [hnext] at h
  · cases h
    rfl
  · cases h
  · split_ifs at h

/-- A panic in processing leaves a writable table: the one the record of the result left. -/
lemma Stops.writable (hpol : ∀ f a, r.policy f a = pure (P f a)) (hwf : w.store.WellFormed)
    (hw : w.store.Writable) {p : Panic} (h : r.Stops D x w (.panic p) w') : w'.store.Writable := by
  cases h with
  | @successor a _ _ hf _ _ hs =>
    obtain ⟨ran, hran⟩ := Store.fetch_addSeconds_one hf
    have hfin := (Store.Frames.finish (x := x) hwf hw (recordedStatus (D a.hook a.action.args))
      w.clock).writable
    rw [scheduleSuccessor_panic (w := { w with store := _ }) hpol hran hfin hs]
    exact hfin

/-- **A batch that stopped short dispatched a prefix of its ids, in order**, then stopped on the
next one: processing distinct ids whose rows are pending, on a well-formed writable table, and
stopping short, dispatched the first `m` ids in turn, the time limit not having passed after
them, and then processing the next id stopped as `Stops` says. -/
lemma processAll_halts (hD : r.registry.AnswersBy D) (hpol : ∀ f a, r.policy f a = pure (P f a))
    {passed : World → Bool} :
    ∀ {xs : List ActionId} {k : Nat} {w w' : World} {halt : Halt}, xs.Nodup →
      w.store.WellFormed → w.store.Writable →
      (∀ y ∈ xs, ∃ q ∈ w.store.rows, q.id = y ∧ q.status = .pending) →
      (r.processAll passed xs k).run w = halt.result w' →
      ∃ m y w₂, xs[m]? = some y ∧ r.DispatchesAll D passed w (xs.take m) w₂ ∧
        (0 < m → passed w₂ = false) ∧ Store.Frames (xs.take m) w.store w₂.store ∧
        r.Stops D y w₂ halt w'
  | [], k, w, w', halt, _, _, _, _, h => absurd h.symm (Halt.result_ne_ok _ _ _ _)
  | y :: ys, k, w, w', halt, hnd, hwf, hw, hpend, h => by
    unfold processAll at h
    obtain ⟨q, hq, hqid, hqp⟩ := hpend y List.mem_cons_self
    rcases Job.bind_run_halt h with hy | ⟨rep, w₁, hy, h⟩
    · -- Processing the first id stopped short.
      exact ⟨0, y, w, rfl, .nil w, fun h => absurd h (Nat.lt_irrefl 0), Store.Frames.refl hwf hw,
        process_pending_halts hD hwf hw hq hqid hqp hy⟩
    obtain ⟨hdisp, -, hfr⟩ := process_pending hD hpol hwf hw hq hqid hqp hy
    rcases Job.bind_run_halt h with hget | ⟨w₂, w₃, hget, h⟩
    · rw [get_run] at hget
      exact absurd hget.symm (Halt.result_ne_ok _ _ _ _)
    rw [get_run] at hget
    cases hget
    by_cases hpass : passed w₁ = true
    · simp only [hpass, if_true, Job.pure_run] at h
      exact absurd h.symm (Halt.result_ne_ok _ _ _ _)
    simp only [hpass, Bool.false_eq_true, if_false] at h
    obtain ⟨m, z, w₂, hz, hall, hcut, hfr', hstop⟩ := processAll_halts hD hpol
      (List.nodup_cons.1 hnd).2 hfr.wellFormed hfr.writable (pending_rest hnd hfr hpend) h
    -- The limit had not passed after the first id, nor after the others dispatched.
    have hcut' : passed w₂ = false := by
      rcases Nat.eq_zero_or_pos m with rfl | hm
      · cases hall
        exact Bool.eq_false_iff.2 hpass
      · exact hcut hm
    exact ⟨m + 1, z, w₂, by simpa using hz,
      .cons hdisp (fun _ => Bool.eq_false_iff.2 hpass) hall, fun _ => hcut', hfr.trans hfr',
      hstop⟩

/-- **The ids of claim `c` were due at world `w`**: each names a row that was pending, unclaimed,
let through by the runner's filter, and scheduled at a time, read back, no later than the
clock. -/
def DueAt (r : Runner) (w : World) (c : Claim) : Prop :=
  ∀ x ∈ c.actionIds, ∃ q ∈ w.store.rows, q.id = x ∧ q.status = .pending ∧
    q.claim = none ∧ r.config.filter.Admits q ∧
    ∃ t, Row.time 1 q.scheduledAt = .ok t ∧ t ≤ w.clock

/-- **What the runner's stake returns was due**, on a well-formed table whose claims were all
issued. -/
lemma dueAt_of_stake {c : Claim} (hwf : w.store.WellFormed) (hci : w.store.ClaimsIssued)
    (hst : (Store.stake r.config.batchSize none r.config.filter w.clock).run w.store = .ok c s₁) :
    r.DueAt w c := by
  intro x hx
  obtain ⟨q, hq, hid, hdue, t, ht, hle⟩ := Store.stake_returns_due hwf hci hst x hx
  simp only [Store.isDue, Bool.and_eq_true, beq_iff_eq, Option.isNone_iff_eq_none,
    ClaimFilter.passes_iff] at hdue
  exact ⟨q, hq, hid, hdue.1.1.1, hdue.1.1.2, hdue.2, t, ht,
    Int.le_trans hle (Instant.truncSeconds_le w.clock)⟩

/-- **A batch under way**, from world `w`: staking at the clock returned claim `c`, whose ids
were due; its first `k` ids were dispatched in order, reaching world `w₂`, and the time limit
had not passed after them. -/
def Partial (r : Runner) (D : String → Args → Except HandlerError Unit)
    (passed : World → Bool) (w : World) (c : Claim) (k : Nat) (w₂ : World) : Prop :=
  ∃ s₁,
    (Store.stake r.config.batchSize none r.config.filter w.clock).run w.store = .ok c s₁ ∧
    r.DueAt w c ∧ r.DispatchesAll D passed { w with store := s₁ } (c.actionIds.take k) w₂ ∧
    (0 < k → passed w₂ = false)

/-- **A batch cut short**, from world `w`, as `halt`, leaving world `w'`: its stake failed; or,
the batch under way, processing its next id stopped short as `Stops` says. A queue error leaves
the claim in place; a panic releases it on its way out. The dispatcher's answer never cuts a
batch short: a queue error comes from the stake or from a fetch. -/
inductive Aborts (r : Runner) (D : String → Args → Except HandlerError Unit)
    (passed : World → Bool) (w : World) : Halt → World → Prop
  | stake {e : QueueError} {s : Store} :
      (Store.stake r.config.batchSize none r.config.filter w.clock).run w.store = .error e s →
      Aborts r D passed w (.error e) { w with store := s }
  | error {c : Claim} {k : Nat} {w₂ w' : World} {y : ActionId} {e : QueueError} :
      r.Partial D passed w c k w₂ → c.actionIds[k]? = some y →
      r.Stops D y w₂ (.error e) w' → Aborts r D passed w (.error e) w'
  | panic {c : Claim} {k : Nat} {w₂ w₃ : World} {y : ActionId} {p : Panic} {n : Nat}
      {s : Store} :
      r.Partial D passed w c k w₂ → c.actionIds[k]? = some y →
      r.Stops D y w₂ (.panic p) w₃ → (Store.releaseClaim c.id).run w₃.store = .ok n s →
      Aborts r D passed w (.panic p) { w₃ with store := s }

/-- **A batch that stopped short was cut short as `Aborts` says**, on a well-formed table whose
claims were all issued. -/
lemma runBatch_halts (hD : r.registry.AnswersBy D) (hpol : ∀ f a, r.policy f a = pure (P f a))
    {passed : World → Bool} {halt : Halt} (hwf : w.store.WellFormed) (hci : w.store.ClaimsIssued)
    (h : (r.runBatch passed).run w = halt.result w') : r.Aborts D passed w halt w' := by
  unfold runBatch at h
  rcases Job.bind_run_halt h with hnow | ⟨now, w₀, hnow, h⟩
  · exact absurd ((Job.now_run w).symm.trans hnow) (Halt.result_ne_ok _ _ _ _).symm
  rw [Job.now_run] at hnow
  cases hnow
  rcases Job.bind_run_halt h with hstake | ⟨c, w₁, hstake, h⟩
  · -- The stake failed.
    rw [Job.store_run] at hstake
    rcases hst : (Store.stake r.config.batchSize none r.config.filter w.clock).run w.store with
      ⟨c, s⟩ | ⟨e, s⟩ <;> rw [hst] at hstake
    · exact absurd hstake.symm (Halt.result_ne_ok _ _ _ _)
    · cases halt with
      | error e' =>
        cases hstake
        exact .stake hst
      | panic p => cases hstake
  obtain ⟨hst, hw₁⟩ := Job.store_run_ok hstake
  split_ifs at h with hemp
  · exact absurd h.symm (Halt.result_ne_ok _ _ _ _)
  have hne : c.actionIds ≠ [] := fun he => hemp (by simp [he])
  obtain ⟨hwf₁, -⟩ := Store.stake_wellFormed hwf hci hst
  obtain ⟨-, hnd, -⟩ := Store.stake_rows hwf hci hst
  have hw : w₁.store.Writable := by
    obtain ⟨-, -, G, hs₁, -⟩ := Store.stake_rows hwf hci hst
    have hw₀ := Store.stake_writable hst hne
    rw [hs₁]
    exact ⟨hw₀.1, hw₀.2⟩
  have hpend := Store.stake_pending hwf hci hst
  have hdue := dueAt_of_stake hwf hci hst
  rcases Job.bind_run_halt h with hexec | ⟨n, w₂, hexec, h⟩
  · -- Processing the claim stopped short.
    rw [executeClaim_run] at hexec
    rcases hp : (r.processAll passed c.actionIds 0).run w₁ with ⟨v, w₃⟩ | ⟨p, w₃⟩ <;>
      rw [hp] at hexec <;> dsimp only at hexec
    · cases halt with
      | error e =>
        cases hexec
        obtain ⟨m, y, w₂, hy, hall, hcut, -, hstop⟩ :=
          processAll_halts hD hpol hnd hwf₁ hw hpend
            (show _ = (Halt.error e).result _ from hp)
        exact .error ⟨_, hst, hdue, hw₁ ▸ hall, hcut⟩ hy hstop
      | panic p => cases hexec
    · -- A panic releases the claim, on the writable table processing left.
      obtain ⟨m, y, w₂, hy, hall, hcut, hfr, hstop⟩ :=
        processAll_halts hD hpol hnd hwf₁ hw hpend
          (show _ = (Halt.panic p).result _ from hp)
      obtain ⟨k, s, hrel⟩ := Store.releaseClaim_run_of_writable
        (hstop.writable hpol hfr.wellFormed hfr.writable) c.id
      rw [hrel] at hexec
      cases halt with
      | error e => cases hexec
      | panic p' =>
        cases hexec
        exact .panic ⟨_, hst, hdue, hw₁ ▸ hall, hcut⟩ hy hstop hrel
  · -- Processing ended normally, and the release goes through.
    obtain ⟨m, -, -, -, -, -, -, hfr⟩ := processAll_ok hD hpol hnd hwf₁ hw hpend
      (executeClaim_ok hexec)
    obtain ⟨k, s, hrel⟩ := Store.releaseClaim_run_of_writable hfr.writable c.id
    rcases Job.bind_run_halt h with hrel' | ⟨u, w₃, -, h⟩
    · rw [Job.store_run, hrel] at hrel'
      exact absurd hrel'.symm (Halt.result_ne_ok _ _ _ _)
    · exact absurd h.symm (Halt.result_ne_ok _ _ _ _)

/-- **A run that stopped short, batch by batch.** On a well-formed table whose claims were all
issued, a run that stopped short went through batches one after another, each from a
well-formed table whose claims were all issued; then, with fewer claims outstanding than its
share, a batch was cut short as `Aborts` says. -/
lemma runBatches_halts (hD : r.registry.AnswersBy D) (hpol : ∀ f a, r.policy f a = pure (P f a))
    {passed : World → Bool} :
    ∀ {fuel done : Nat} {w w' : World} {halt : Halt}, w.store.WellFormed →
      w.store.ClaimsIssued → (r.runBatches passed fuel done).run w = halt.result w' →
      ∃ bs w₁, r.Runs D passed w bs w₁ ∧
        (∀ b ∈ bs, b.start.store.WellFormed ∧ b.start.store.ClaimsIssued) ∧
        r.MayStake w₁ ∧ r.Aborts D passed w₁ halt w'
  | 0, done, w, w', halt, _, _, h => absurd h.symm (Halt.result_ne_ok _ _ _ _)
  | fuel + 1, done, w, w', halt, hwf, hci, h => by
    unfold runBatches at h
    -- Counting the outstanding claims only reads.
    obtain ⟨m, hcnt⟩ : ∃ m, Store.claimCount.run w.store = .ok m w.store := ⟨_, rfl⟩
    rcases Job.bind_run_halt h with hcount | ⟨m', w₀, hcount, h⟩
    · rw [Job.store_run, hcnt] at hcount
      exact absurd hcount.symm (Halt.result_ne_ok _ _ _ _)
    rw [Job.store_run, hcnt] at hcount
    cases hcount
    by_cases hgate : m ≥ max 1 r.config.concurrentBatches
    · simp only [hgate, if_true] at h
      exact absurd h.symm (Halt.result_ne_ok _ _ _ _)
    have hmay : r.MayStake w := ⟨m, hcnt, by omega⟩
    simp only [hgate, if_false] at h
    rcases Job.bind_run_halt h with hbatch | ⟨k, w₂, hbatch, h⟩
    · -- The first batch was cut short.
      exact ⟨[], w, .nil w, by simp, hmay, runBatch_halts hD hpol hwf hci hbatch⟩
    rcases runBatch_ok hD hpol hwf hci hbatch with ⟨rfl, -, -⟩ | ⟨c, hb, hlv⟩
    · simp only [beq_self_eq_true, if_true] at h
      exact absurd h.symm (Halt.result_ne_ok _ _ _ _)
    obtain ⟨s₁, -, hst, hk, -⟩ := id hb
    have hk0 : (k == 0) = false := by simpa using Nat.pos_iff_ne_zero.1 hk
    simp only [hk0, Bool.false_eq_true, if_false] at h
    rcases Job.bind_run_halt h with hget | ⟨w₃, w₄, hget, h⟩
    · rw [get_run] at hget
      exact absurd hget.symm (Halt.result_ne_ok _ _ _ _)
    rw [get_run] at hget
    cases hget
    by_cases hpass : passed w₂ = true
    · simp only [hpass, if_true] at h
      exact absurd h.symm (Halt.result_ne_ok _ _ _ _)
    simp only [hpass, Bool.false_eq_true, if_false] at h
    obtain ⟨bs, w₁, hruns, hstarts, hmay₁, hab⟩ :=
      runBatches_halts hD hpol hlv.wellFormed hlv.issued h
    refine ⟨⟨w, c, k⟩ :: bs, w₁, .cons hmay hb (fun _ => Bool.eq_false_iff.2 hpass) hruns,
      ?_, hmay₁, hab⟩
    simp only [List.mem_cons, forall_eq_or_imp]
    exact ⟨⟨hwf, hci⟩, hstarts⟩


/-- Each batch of a run, begun on a well-formed table whose claims were all issued, took ids
that were due. -/
lemma Runs.dueAt {passed : World → Bool} {bs : List BatchRecord} (h : r.Runs D passed w bs w')
    (hstarts : ∀ b ∈ bs, b.start.store.WellFormed ∧ b.start.store.ClaimsIssued) :
    ∀ b ∈ bs, r.DueAt b.start b.claim := by
  intro b hb
  obtain ⟨s₁, hst⟩ := h.stakes b hb
  exact dueAt_of_stake (hstarts b hb).1 (hstarts b hb).2 hst

/-- **The batch contract of a run.** Over a well-formed table whose claims were all issued, with
a dispatcher that answers by hook and arguments alone (a failure or a panic included) and a
policy that only decides, a run of batches, however it ends, went through batches one after
another (`Runs`): each staked a claim only while fewer claims were outstanding than the
runner's share, took only ids that were due (`DueAt`), dispatched in order a prefix of them,
cut short only when the time limit had passed, recorded every dispatcher's answer, a failure as
a failed action, and released its claim. Then:
* a run that ends normally with count `n` stopped, perhaps after a stake that found nothing; it
  counted exactly the ids its batches processed; it leaves no claim on a row that was not there
  at the start, while each batch's claim was new; and it leaves every row that a batch claimed
  and no batch processed pending and unclaimed;
* a run that stops short, with a queue error or a panic, staked once more, with fewer claims
  outstanding than its share, and that batch was cut short as `Aborts` says: the queue error is
  that of the stake or of a fetch, never the dispatcher's answer. -/
theorem runBatches_contract (hD : r.registry.AnswersBy D)
    (hpol : ∀ f a, r.policy f a = pure (P f a)) {passed : World → Bool} {fuel done : Nat}
    (hwf : w.store.WellFormed) (hci : w.store.ClaimsIssued) :
    (∀ n w', (r.runBatches passed fuel done).run w = .ok (.ok n) w' →
      ∃ bs w₁, r.Runs D passed w bs w₁ ∧
        (w' = w₁ ∨ r.MayStake w₁ ∧ ∃ c, (Store.stake r.config.batchSize none r.config.filter
          w₁.clock).run w₁.store = .ok c w'.store ∧ c.actionIds = [] ∧
          w' = { w₁ with store := w'.store }) ∧
        n = done + (bs.map (·.processed)).sum ∧
        (∀ b ∈ bs, r.DueAt b.start b.claim) ∧
        (∀ q ∈ w'.store.rows, ∀ c, q.claim = some c → ∃ q₀ ∈ w.store.rows, q₀.claim = some c) ∧
        (∀ b ∈ bs, ∀ q ∈ w.store.rows, q.claim ≠ some b.claim.id) ∧
        ∀ b ∈ bs, ∀ x ∈ b.claim.actionIds, x ∉ bs.flatMap BatchRecord.done →
          ∃ q ∈ w'.store.rows, q.id = x ∧ q.status = .pending ∧ q.claim = none) ∧
    ∀ (halt : Halt) w', (r.runBatches passed fuel done).run w = halt.result w' →
      ∃ bs w₁, r.Runs D passed w bs w₁ ∧ (∀ b ∈ bs, r.DueAt b.start b.claim) ∧
        r.MayStake w₁ ∧ r.Aborts D passed w₁ halt w' := by
  refine ⟨fun n w' h => ?_, fun halt w' h => ?_⟩
  · obtain ⟨bs, w₁, hruns, hend, hn, hstarts, hlv, hrest⟩ := runBatches_ok hD hpol hwf hci h
    refine ⟨bs, w₁, hruns, hend, hn,
      hruns.dueAt fun b hb => ⟨(hstarts b hb).1, (hstarts b hb).2.1⟩, hlv.claims,
      fun b hb q hq hc => ?_, hrest⟩
    -- A claim on a row at the start was issued before the run, the batch's after.
    have hle := hci q hq _ hc
    have hlt := (hstarts b hb).2.2
    omega
  · obtain ⟨bs, w₁, hruns, hstarts, hmay, hab⟩ := runBatches_halts hD hpol hwf hci h
    exact ⟨bs, w₁, hruns, hruns.dueAt hstarts, hmay, hab⟩

end Runner

/-- A new row is unclaimed, so appending one keeps every claim issued. -/
lemma Store.ClaimsIssued.append {s : Store} (a : Action) (due now : Instant)
    (hci : s.ClaimsIssued) : (s.append a due now).ClaimsIssued := by
  intro q hq c hc
  simp only [Store.append, List.mem_append, List.mem_singleton] at hq
  rcases hq with hq | rfl
  · exact hci q hq c hc
  · simp [Row.ofAction] at hc

/-- The runner whose handler always succeeds answers every dispatch with success. -/
lemma Runner.succeeding_answers : Runner.succeeding.registry.AnswersBy fun _ _ => .ok () := by
  intro hook args w
  by_cases hh : hook = "h"
  · subst hh
    rfl
  · have hnone : Runner.succeeding.registry.serving hook = [] := by
      simp only [Registry.serving, Runner.succeeding, List.filter_eq_nil_iff, List.mem_cons,
        List.not_mem_nil, or_false, forall_eq, beq_iff_eq]
      exact fun h => hh h.symm
    simp only [Registry.dispatchGuarded, Registry.dispatch, hnone]
    rfl

/-- Two runs of a runner whose handler succeeds, at the first second of 2024. An hourly action
due then runs, and the run ends normally having processed it. An action saved when the clock
read the first second of the year 10000 holds a creation time that does not read back: the run
stakes it, fails to fetch it with a conversion error on that column, and stops with that
queue error, its batch cut short as `Aborts` says. -/
theorem Runner.run_counts_hourly_aborts_unreadable :
    (∃ w' bs w₁, Runner.succeeding.run.run
        (World.intervalDue (.ofSeconds 1704067200) ⟨3600, by decide, by decide⟩
          (.ofSeconds 1704067200)) = .ok (.ok 1) w' ∧
      Runner.succeeding.Runs (fun _ _ => .ok ()) Runner.succeeding.deadlinePassed
        (World.intervalDue (.ofSeconds 1704067200) ⟨3600, by decide, by decide⟩
          (.ofSeconds 1704067200)) bs w₁ ∧
      (bs.map (·.processed)).sum = 1) ∧
    ∃ w' bs w₁, Runner.succeeding.run.run
        { store := ({} : Store).append { hook := "h", args := .empty, schedule := .immediate }
            (.ofSeconds 1704067200) (.ofSeconds 253402300800),
          clock := .ofSeconds 1704067200 } =
        .ok (.error (.database
          "Conversion error from type Text at index: 11, input contains invalid characters")) w' ∧
      Runner.succeeding.Runs (fun _ _ => .ok ()) Runner.succeeding.deadlinePassed
        { store := ({} : Store).append { hook := "h", args := .empty, schedule := .immediate }
            (.ofSeconds 1704067200) (.ofSeconds 253402300800),
          clock := .ofSeconds 1704067200 } bs w₁ ∧
      Runner.succeeding.MayStake w₁ ∧
      Runner.succeeding.Aborts (fun _ _ => .ok ()) Runner.succeeding.deadlinePassed w₁
        (.error (.database
          "Conversion error from type Text at index: 11, input contains invalid characters")) w' := by
  constructor
  · obtain ⟨res, w', hrun, hp⟩ := run_ok_of_state_check (m := Runner.succeeding.run)
      (s := World.intervalDue (.ofSeconds 1704067200) ⟨3600, by decide, by decide⟩
        (.ofSeconds 1704067200))
      (p := fun res _ => match res with | .ok k => k == 1 | .error _ => false) (by decide +kernel)
    obtain rfl : res = .ok 1 := by
      rcases res with e | k
      · cases hp
      · simp only [beq_iff_eq] at hp
        rw [hp]
    obtain ⟨bs, w₁, hruns, -, hn, -⟩ := (Runner.runBatches_contract (P := fun f _ => f)
      Runner.succeeding_answers (fun _ _ => rfl) (Store.WellFormed.append _ _ _ .empty)
      (Store.ClaimsIssued.append _ _ _ fun _ h => absurd h List.not_mem_nil)).1 1 w' hrun
    exact ⟨w', bs, w₁, hrun, hruns, by omega⟩
  · obtain ⟨res, w', hrun, hp⟩ := run_ok_of_state_check (m := Runner.succeeding.run)
      (s := { store := ({} : Store).append { hook := "h", args := .empty, schedule := .immediate }
                (.ofSeconds 1704067200) (.ofSeconds 253402300800),
              clock := .ofSeconds 1704067200 })
      (p := fun res _ => match res with
        | .ok _ => false
        | .error e => e == .database
          "Conversion error from type Text at index: 11, input contains invalid characters")
      (by decide +kernel)
    obtain rfl : res = .error (.database
        "Conversion error from type Text at index: 11, input contains invalid characters") := by
      rcases res with e | k
      · simp only [beq_iff_eq] at hp
        rw [hp]
      · cases hp
    obtain ⟨bs, w₁, hruns, -, hmay, hab⟩ := (Runner.runBatches_contract (P := fun f _ => f)
      Runner.succeeding_answers (fun _ _ => rfl) (Store.WellFormed.append _ _ _ .empty)
      (Store.ClaimsIssued.append _ _ _ fun _ h => absurd h List.not_mem_nil)).2
      (.error _) w' hrun
    exact ⟨w', bs, w₁, hrun, hruns, hmay, hab⟩

end JobQueue
