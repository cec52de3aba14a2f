import JobQueue.Proofs.ClaimRows
import JobQueue.Proofs.Successor
import JobQueue.Queue.Enqueue

/-!
# A failed call leaves the table as it found it

The store runs its statements one at a time, each committing on its own, so a call that fails
after a write keeps what it wrote. This file goes through the store's writes and the queue's
calls and shows that all but one fail only before they write, or after a write that matched no
row: the table after a failure is the table before.

The argument is compositional. `Store.FailsIntact m` says that a failure of `m` leaves the rows
alone. It holds of reads, of a write that cannot fail once it holds the write lock
(`Store.FailsIntact.lock_bind`), of a write refused when it matched no row
(`Store.FailsIntact.lock_unless_zero`), and of a step that keeps the rows when it succeeds
followed by steps whose failures keep them (`Store.FailsIntact.bind`). `Job.FailsIntact` is the
same for the queue's calls, where reading the clock, a fault of time arithmetic (a panic, not a
queue error) and reads of the store keep the table.

The one exception is the stake. It writes its claim and then reads the claimed rows back,
checking each scheduled time as an instant. A stored time that does not read (a year outside 0
to 9999) fails the call with its claim write in place (`Store.stake_fails`,
`stake_claims_then_fails`).

**Main statements**

* `Store.FailsIntact`, `Job.FailsIntact` — a failure leaves the rows alone, with their rules.
* `Store.stake_fails` — a failed stake failed at its write, or after it reading back a row of
  its own claim.
* `Call.run_failsIntact` — every save, move, delete, cancel, claim release, housekeeping
  statement and queue call (a `Call`) but a stake leaves the table as it found it when it fails.
* `failed_calls_keep_table` — a failed call leaves the table as it found it, unless it is a
  stake that failed reading back its own claim.
* `stake_claims_then_fails` — a stake over a row due in the year 10000 fails and leaves the row
  claimed.
-/

namespace JobQueue

/-- A `mapM` whose steps only read fails, when it fails, at one of its elements and where it
started. -/
lemma mapM_run_error {ε σ α β : Type} {g : α → EStateM ε σ β} {P : α → ε → Prop}
    (hok : ∀ a s b s', (g a).run s = .ok b s' → s' = s)
    (herr : ∀ a s e s', (g a).run s = .error e s' → s' = s ∧ P a e) :
    ∀ (xs : List α) {s s' : σ} {e : ε}, (xs.mapM g).run s = .error e s' →
      s' = s ∧ ∃ a ∈ xs, P a e
  | [], s, s', e, h => by cases h
  | x :: xs, s, s', e, h => by
    simp only [List.mapM_cons, EStateM.run_bind] at h
    rcases hx : (g x).run s with ⟨b, s₁⟩ | ⟨e₁, s₁⟩ <;> simp only [hx] at h
    · rcases hxs : (xs.mapM g).run s₁ with ⟨bs, s₂⟩ | ⟨e₂, s₂⟩ <;> simp only [hxs] at h
      · cases h
      · obtain ⟨rfl, rfl⟩ := EStateM.Result.error.inj h
        obtain ⟨hs, a, ha, hP⟩ := mapM_run_error hok herr xs hxs
        exact ⟨hs.trans (hok x s b s₁ hx), a, List.mem_cons_of_mem _ ha, hP⟩
    · obtain ⟨rfl, rfl⟩ := EStateM.Result.error.inj h
      obtain ⟨rfl, hP⟩ := herr x s e₁ s₁ hx
      exact ⟨rfl, x, List.mem_cons_self, hP⟩

namespace Store

variable {α β : Type} {s s' : Store} {e : QueueError}

/-! ## Failures of store operations -/

/-- **A failure leaves the table alone**: whenever `m` fails, the rows are those it found. -/
def FailsIntact (m : StoreM α) : Prop := ∀ s e s', m.run s = .error e s' → s'.rows = s.rows

namespace FailsIntact

/-- A computation that ends where it started, as every read does. -/
lemma of_after {m : StoreM α} (h : ∀ s, after m s = s) : FailsIntact m := fun s _ s' hm => by
  rw [← after_of_error hm, h s]

lemma pure (a : α) : FailsIntact (Pure.pure a : StoreM α) := of_after fun _ => rfl

/-- A step that keeps the rows when it succeeds, followed by steps whose failures keep them. -/
lemma bind {m : StoreM α} {f : α → StoreM β} (hm : FailsIntact m)
    (hok : ∀ s a s', m.run s = .ok a s' → s'.rows = s.rows) (hf : ∀ a, FailsIntact (f a)) :
    FailsIntact (m >>= f) := by
  intro s e s' h
  rw [EStateM.run_bind] at h
  rcases hr : m.run s with ⟨a, s₁⟩ | ⟨e₁, s₁⟩ <;> rw [hr] at h
  · exact (hf a s₁ e s' h).trans (hok s a s₁ hr)
  · obtain ⟨-, rfl⟩ := EStateM.Result.error.inj h
    exact hm s e₁ s₁ hr

lemma seqRight {m : StoreM α} {k : StoreM β} (hm : FailsIntact m)
    (hok : ∀ s a s', m.run s = .ok a s' → s'.rows = s.rows) (hk : FailsIntact k) :
    FailsIntact (m *> k) :=
  hm.bind hok fun _ => hk

/-- **A write under the lock** fails at the lock, before it writes, or later as its rest
fails. -/
lemma lock_bind {k : Unit → StoreM β}
    (hk : ∀ s, s.Writable → ∀ e s', (k ()).run s = .error e s' → s'.rows = s.rows) :
    FailsIntact (beginWrite >>= k) := by
  intro s e s' h
  by_cases hw : s.Writable
  · rw [EStateM.run_bind, beginWrite_run_of_writable hw] at h
    exact hk s hw e s' h
  · obtain ⟨d, hd⟩ := beginWrite_run_of_not_writable hw
    rw [EStateM.run_bind, hd] at h
    cases h
    rfl

/-- **A write refused when it matched no row**: one statement under the lock that counts the
rows it matched, never fails itself, and writes nothing when it matches none. -/
lemma lock_unless_zero {m : StoreM Nat} (refusal : QueueError)
    (hm : ∀ s n s', m.run s = .ok n s' → n = 0 → s'.rows = s.rows)
    (hne : ∀ s e s', m.run s ≠ .error e s') :
    FailsIntact (beginWrite >>= fun _ =>
      m >>= fun n => if n == 0 then throw refusal else Pure.pure ()) := by
  refine lock_bind fun s _ e s' h => ?_
  rw [EStateM.run_bind] at h
  rcases hr : m.run s with ⟨n, s₁⟩ | ⟨e₁, s₁⟩ <;> simp only [hr] at h
  · split at h
    · next hz =>
      rw [← (EStateM.Result.error.inj h).2]
      exact hm s n s₁ hr (beq_iff_eq.1 hz)
    · cases h
  · exact absurd hr (hne s e₁ s₁)

end FailsIntact

/-! ## Saves -/

lemma validate_after (a : Action) (s : Store) : after (validate a) s = s := by
  unfold validate
  split <;> rfl

lemma insert_failsIntact (a : Action) (due now : Instant) : FailsIntact (insert a due now) :=
  FailsIntact.lock_bind fun _ _ _ _ h => by cases h

lemma saveAt_failsIntact (a : Action) (due now : Instant) : FailsIntact (saveAt a due now) :=
  (FailsIntact.of_after (validate_after a)).bind
    (fun s _ s' h => by rw [← after_of_ok h, validate_after]) fun _ => insert_failsIntact a due now

/-- A save whose first run was found fails only where saving at that run does. -/
lemma save_failsIntact {a : Action} {now : Instant} {m : StoreM ActionId} (h : save a now = .ok m) :
    FailsIntact m := by
  unfold save at h
  cases hd : firstDue a now with
  | error f => simp [hd, Except.map] at h
  | ok due =>
    simp only [hd, Except.map, Except.ok.injEq] at h
    exact h ▸ saveAt_failsIntact a due now

/-- The check for equal queued work and the insert run under one lock, and the insert cannot
fail once it holds it. -/
lemma insertUnique_failsIntact (a : Action) (due now : Instant) :
    FailsIntact (insertUnique a due now) := by
  refine FailsIntact.lock_bind fun s hw e s' h => ?_
  simp only [EStateM.run_bind, EStateM.run_get] at h
  split at h
  · cases h
  · simp only [Functor.map, EStateM.map, EStateM.run] at h
    rw [show insert a due now s = _ from insert_run a due now hw] at h
    cases h

lemma saveUnique_failsIntact {a : Action} {now : Instant} {m : StoreM (Option ActionId)}
    (h : saveUnique a now = .ok m) : FailsIntact m := by
  unfold saveUnique at h
  split at h
  · simp only [Except.ok.injEq] at h
    exact h ▸ (FailsIntact.of_after (validate_after a)).seqRight
      (fun s _ s' h => by rw [← after_of_ok h, validate_after]) (.pure _)
  · cases hd : firstDue a now with
    | error f => simp [hd, Except.map] at h
    | ok due =>
      simp only [hd, Except.map, Except.ok.injEq] at h
      exact h ▸ insertUnique_failsIntact a due now

/-! ## Moves, deletes and cancels -/

lemma transition_failsIntact (id : ActionId) (target : Status) (sources : List Status)
    (extra : Row → Row) (now : Instant) : FailsIntact (transition id target sources extra now) :=
  fun _ _ _ h => by rw [(transition_fails h).1]

lemma delete_failsIntact (id : ActionId) : FailsIntact (delete id) :=
  FailsIntact.lock_unless_zero _ (fun s n s' h hz => by
    rw [discard_run] at h
    obtain ⟨rfl, rfl⟩ := EStateM.Result.ok.inj h
    have hnone := List.filter_eq_nil_iff.1 (List.length_eq_zero_iff.1 hz)
    exact List.filter_eq_self.2 fun r hr => by simpa using hnone r hr)
    fun _ _ _ h => by cases h

lemma cancelPending_failsIntact (hook : Option String) (args : Option Args)
    (group : Option String) (now : Instant) : FailsIntact (cancelPending hook args group now) :=
  FailsIntact.lock_bind fun _ _ _ _ h => by cases h

/-! ## Claims and housekeeping -/

lemma releaseClaim_failsIntact (c : ClaimId) : FailsIntact (releaseClaim c) :=
  FailsIntact.lock_bind fun _ _ _ _ h => by cases h

lemma unclaim_failsIntact (id : ActionId) : FailsIntact (unclaim id) :=
  FailsIntact.lock_unless_zero _ (fun s n s' h hz => by
    rw [rewrite_run] at h
    obtain ⟨rfl, rfl⟩ := EStateM.Result.ok.inj h
    have hnone := List.filter_eq_nil_iff.1 (List.length_eq_zero_iff.1 hz)
    exact congrArg Store.rows (remap_of_none (p := (·.id == id)) (f := fun r => { r with claim := none })
      fun r hr => by simpa using hnone r hr))
    fun _ _ _ h => by cases h

lemma releaseStaleClaims_failsIntact (cutoff : Instant) :
    FailsIntact (releaseStaleClaims cutoff) :=
  FailsIntact.lock_bind fun _ _ _ _ h => by cases h

lemma failStaleInProgress_failsIntact (cutoff now : Instant) :
    FailsIntact (failStaleInProgress cutoff now) :=
  FailsIntact.lock_bind fun _ _ _ _ h => by cases h

lemma deleteFinished_failsIntact (cutoff : Instant) (limit : Nat) :
    FailsIntact (deleteFinished cutoff limit) :=
  FailsIntact.lock_bind fun _ _ _ _ h => by cases h

/-- Counting past-due work only reads, even when it fails on the earliest scheduled time. -/
lemma pastDue_after (cutoff : Instant) (s : Store) : after (pastDue cutoff) s = s := by
  simp only [pastDue, after, EStateM.run_bind, EStateM.run_get]
  generalize earliest _ = first
  rcases first with _ | t
  · rfl
  · cases h : Row.time 1 t <;> simp only [h] <;> rfl

/-! ## Reading a claim back -/

/-- **A failed read-back of a claim** changed nothing; it failed on a row carrying the claim
whose scheduled time does not read as an instant. -/
lemma claimedRows_error {c : ClaimId} (h : (claimedRows c).run s = .error e s') :
    s' = s ∧ ∃ r ∈ s.rows, r.claim = some c ∧ Row.time 1 r.scheduledAt = .error e := by
  simp only [claimedRows, EStateM.run_bind, EStateM.run_get] at h
  -- Each row is read back on its own, and the read only fails on its scheduled time.
  obtain ⟨rfl, r, hr, hP⟩ := mapM_run_error (P := fun q e => Row.time 1 q.scheduledAt = .error e)
    (fun q s b s' hb => by
      split at hb
      · exact (EStateM.Result.ok.inj hb).2.symm
      · cases hb)
    (fun q s e s' he => by
      split at he
      · cases he
      · obtain ⟨rfl, rfl⟩ := EStateM.Result.error.inj he
        exact ⟨rfl, ‹_›⟩) _ h
  obtain ⟨hr, hc⟩ := List.mem_filter.1 (List.mem_mergeSort.1 hr)
  exact ⟨rfl, r, hr, beq_iff_eq.1 hc, hP⟩

/-- **Keeping the due ids fails only on a store that cannot be written**, at its first
unclaim and before writing anything. -/
lemma keepDue_error {c : ClaimId} {h : Instant} :
    ∀ (ps : List (ActionId × Instant)) {s s' : Store} {e : QueueError},
      (keepDue c h ps).run s = .error e s' → s' = s ∧ ¬ s.Writable
  | [], s, s', e, hk => by cases hk
  | (x, t) :: ps, s, s', e, hk => by
    by_cases ht : t ≤ h
    · simp only [keepDue, if_pos ht, EStateM.run_bind] at hk
      rcases hr : (keepDue c h ps).run s with ⟨ids, s₁⟩ | ⟨e₁, s₁⟩ <;> rw [hr] at hk
      · cases hk
      · obtain ⟨-, rfl⟩ := EStateM.Result.error.inj hk
        exact keepDue_error ps hr
    · simp only [keepDue, if_neg ht, EStateM.run_bind] at hk
      by_cases hw : s.Writable
      · -- The unclaim goes through and the store stays writable, so the rest cannot fail.
        simp only [unclaimFrom, EStateM.run_bind, beginWrite_run_of_writable hw, rewrite_run,
          EStateM.run_pure] at hk
        exact absurd hw (keepDue_error ps hk).2
      · obtain ⟨d, hd⟩ := beginWrite_run_of_not_writable hw
        simp only [unclaimFrom, EStateM.run_bind, hd] at hk
        obtain ⟨-, rfl⟩ := EStateM.Result.error.inj hk
        exact ⟨rfl, hw⟩

/-- **A failed read of a claim on a writable store** failed reading back one of its rows, and
changed nothing. -/
lemma claimed_error {c : ClaimId} {h : Instant} (hw : s.Writable)
    (hc : (claimed c h).run s = .error e s') :
    s' = s ∧ ∃ r ∈ s.rows, r.claim = some c ∧ Row.time 1 r.scheduledAt = .error e := by
  simp only [claimed, EStateM.run_bind] at hc
  rcases hr : (claimedRows c).run s with ⟨ps, s₁⟩ | ⟨e₁, s₁⟩ <;> rw [hr] at hc
  · -- The read-back went through on a writable store, so keeping the due ids did too.
    obtain ⟨rfl, -⟩ := claimedRows_ok hr
    exact absurd hw (keepDue_error ps hc).2
  · obtain ⟨rfl, rfl⟩ := EStateM.Result.error.inj hc
    exact claimedRows_error hr

lemma findByClaim_failsIntact (c : ClaimId) (now : Instant) : FailsIntact (findByClaim c now) :=
  FailsIntact.bind (fun _ _ _ h => by rw [(claimedRows_error h).1])
    (fun _ _ _ h => by rw [(claimedRows_ok h).1]) fun ps _ _ _ h => by rw [(keepDue_error ps h).1]

/-! ## The stake -/

/-- **A failed stake** failed at its claim write, which then wrote nothing, or after it: reading
back a row of the claim just written, whose scheduled time does not read as an instant. The
claim write stays. -/
theorem stake_fails {limit : Nat} {before : Option Instant} {f : ClaimFilter} {now : Instant}
    (h : (stake limit before f now).run s = .error e s') :
    s'.rows = s.rows ∨
      s'.rows = (written ⟨s.claimsIssued + 1⟩ limit (before.getD now).truncSeconds f now s).rows ∧
      ∃ r ∈ s'.rows, r.claim = some ⟨s.claimsIssued + 1⟩ ∧ Row.time 1 r.scheduledAt = .error e := by
  simp only [stake, EStateM.run_bind, freshClaim_run] at h
  split at h
  · cases h
  · by_cases hw : s.Writable
    · obtain ⟨k, hk⟩ := stakeWrite_run_of_writable ⟨s.claimsIssued + 1⟩ limit
        (before.getD now).truncSeconds f now (s := { s with claimsIssued := s.claimsIssued + 1 }) hw
      simp only [EStateM.run_bind, hk] at h
      rcases hc : (claimed ⟨s.claimsIssued + 1⟩ (before.getD now).truncSeconds).run
        (written ⟨s.claimsIssued + 1⟩ limit (before.getD now).truncSeconds f now
          { s with claimsIssued := s.claimsIssued + 1 }) with ⟨ids, s₁⟩ | ⟨e₁, s₁⟩ <;>
        simp only [hc] at h
      · cases h
      · obtain ⟨rfl, rfl⟩ := EStateM.Result.error.inj h
        obtain ⟨rfl, hrow⟩ := claimed_error (by exact hw) hc
        exact .inr ⟨rfl, hrow⟩
    · -- The claim write needs the lock, and fails at it having written nothing.
      obtain ⟨d, hd⟩ := beginWrite_run_of_not_writable
        (s := { s with claimsIssued := s.claimsIssued + 1 }) hw
      simp only [stakeWrite, EStateM.run_bind, hd] at h
      obtain ⟨-, rfl⟩ := EStateM.Result.error.inj h
      exact .inl rfl

end Store

/-! ## Failures of the queue's calls -/

namespace Job

variable {α β : Type}

/-- **A failed job leaves the table alone**: whenever `j` ends with a queue error, the rows are
those it found. -/
def FailsIntact (j : Job α) : Prop :=
  ∀ w e w', j.run w = .ok (.error e) w' → w'.store.rows = w.store.rows

namespace FailsIntact

lemma pure (a : α) : FailsIntact (Pure.pure a : Job α) := fun _ _ _ h => by cases h

lemma store {m : StoreM α} (h : Store.FailsIntact m) : FailsIntact (Job.store m) := by
  intro w e w' hj
  rw [store_run] at hj
  rcases hm : m.run w.store with ⟨a, s⟩ | ⟨e₁, s⟩ <;> rw [hm] at hj
  · cases hj
  · cases hj
    exact h _ _ _ hm

/-- Work fails only by panicking, never with a queue error. -/
lemma work (m : Work α) : FailsIntact (Job.work m) := by
  intro w e w' hj
  rw [work_run] at hj
  rcases hm : m w with ⟨a, w₁⟩ | ⟨p, w₁⟩ <;> rw [hm] at hj <;> cases hj

lemma throw (e : QueueError) : FailsIntact (MonadExcept.throw e : Job α) := by
  intro w e' w' hj
  rw [throw_run] at hj
  cases hj
  rfl

lemma bind {j : Job α} {f : α → Job β} (hj : FailsIntact j)
    (hok : ∀ w a w', j.run w = .ok (.ok a) w' → w'.store.rows = w.store.rows ∧ FailsIntact (f a)) :
    FailsIntact (j >>= f) := by
  intro w e w' h
  rw [run_bind] at h
  rcases hr : j.run w with ⟨_ | a, w₀⟩ | ⟨p, w₀⟩ <;> rw [hr] at h
  · cases h
    exact hj _ _ _ hr
  · obtain ⟨hrows, hf⟩ := hok w a w₀ hr
    exact (hf w₀ e w' h).trans hrows
  · cases h

/-- A job followed by a result that cannot fail fails only where the job did. -/
lemma bind_pure {j : Job α} (hj : FailsIntact j) (g : α → β) :
    FailsIntact (j >>= fun a => Pure.pure (g a)) := by
  intro w e w' h
  rw [run_bind] at h
  rcases hr : j.run w with ⟨_ | a, w₀⟩ | ⟨p, w₀⟩ <;> rw [hr] at h
  · cases h
    exact hj _ _ _ hr
  · cases h
  · cases h

lemma map {j : Job α} (hj : FailsIntact j) (g : α → β) : FailsIntact (g <$> j) := by
  rw [map_eq_pure_bind]
  exact hj.bind_pure g

/-- Reading the clock changes nothing. -/
lemma now_bind {f : Instant → Job β} (hf : ∀ t, FailsIntact (f t)) :
    FailsIntact (Job.work Work.now >>= f) :=
  (work _).bind fun w t w' h => by
    rw [now_run] at h
    cases h
    exact ⟨rfl, hf _⟩

/-- A fault of time arithmetic panics; otherwise its value is all the step gives. -/
lemma ofFault_bind {x : Except TimeFault α} {f : α → Job β}
    (hf : ∀ a, x = .ok a → FailsIntact (f a)) : FailsIntact (Job.work (Work.ofFault x) >>= f) :=
  (work _).bind fun w a w' h => by
    rw [work_run] at h
    cases x with
    | ok a' =>
      cases h
      exact ⟨rfl, hf _ rfl⟩
    | error p => cases h

/-- A read of the store followed by steps whose failures keep the table. -/
lemma read_bind {m : StoreM α} {f : α → Job β} (hm : ∀ s, after m s = s)
    (hf : ∀ a, FailsIntact (f a)) : FailsIntact (Job.store m >>= f) :=
  (store (Store.FailsIntact.of_after hm)).bind fun w a w' h => by
    obtain ⟨hr, -⟩ := store_run_ok h
    exact ⟨by rw [← after_of_ok hr, hm], hf a⟩

end FailsIntact

end Job

namespace ActionQueue

open Job.FailsIntact

lemma saveAction_failsIntact (a : Action) (unique : Bool) :
    Job.FailsIntact (saveAction a unique) := by
  unfold saveAction
  refine now_bind fun now => ?_
  cases unique
  · exact ofFault_bind fun m hm => (store (Store.save_failsIntact hm)).map some
  · exact ofFault_bind fun m hm => store (Store.saveUnique_failsIntact hm)

lemma enqueue_failsIntact (hook : String) (args : Args) (schedule : Schedule)
    (o : EnqueueOptions) : Job.FailsIntact (enqueue hook args schedule o) :=
  saveAction_failsIntact _ _

lemma scheduleRecurring_failsIntact (first : Instant) (every : Int) (hook : String) (args : Args)
    (o : EnqueueOptions) : Job.FailsIntact (scheduleRecurring first every hook args o) := by
  unfold scheduleRecurring
  split
  · exact enqueue_failsIntact _ _ _ _
  · exact throw _

lemma scheduleCron_failsIntact (q : ActionQueue) (first : Instant) (expression : String)
    (zoneName : Option String) (hook : String) (args : Args) (o : EnqueueOptions) :
    Job.FailsIntact (q.scheduleCron first expression zoneName hook args o) := by
  unfold scheduleCron
  extract_lets spec
  clear_value spec
  cases spec with
  | ok c => exact enqueue_failsIntact _ _ _ _
  | error e => exact throw _

lemma unschedule_failsIntact (hook : String) (args : Option Args) (group : Option String) :
    Job.FailsIntact (unschedule hook args group) := by
  unfold unschedule
  -- Finding the next pending action only reads.
  refine now_bind fun now => read_bind (fun _ => rfl) fun found => ?_
  cases found with
  | none => exact pure _
  | some id => exact (store (Store.transition_failsIntact _ _ _ _ _)).bind_pure fun _ => some id

lemma unscheduleAll_failsIntact (hook : String) (args : Option Args) (group : Option String) :
    Job.FailsIntact (unscheduleAll hook args group) :=
  now_bind fun _ => store (Store.cancelPending_failsIntact _ _ _ _)

end ActionQueue

/-! ## Every call -/

/-- **A call a client makes** to the store or the queue, with its arguments: the saves, the
moves of an action, deletes and cancels, the claim calls, the housekeeping statements and the
queue's calls. -/
inductive Call where
  | saveAt (a : Action) (due now : Instant)
  | save (a : Action) (now : Instant)
  | saveUnique (a : Action) (now : Instant)
  | logExecution (id : ActionId) (now : Instant)
  | markComplete (id : ActionId) (now : Instant)
  | markFailure (id : ActionId) (now : Instant)
  | cancel (id : ActionId) (now : Instant)
  | delete (id : ActionId)
  | cancelPending (hook : Option String) (args : Option Args) (group : Option String)
      (now : Instant)
  | stake (limit : Nat) (before : Option Instant) (f : ClaimFilter) (now : Instant)
  | findByClaim (c : ClaimId) (now : Instant)
  | releaseClaim (c : ClaimId)
  | unclaim (id : ActionId)
  | releaseStaleClaims (cutoff : Instant)
  | failStaleInProgress (cutoff now : Instant)
  | deleteFinished (cutoff : Instant) (limit : Nat)
  | pastDue (cutoff : Instant)
  | enqueue (hook : String) (args : Args) (schedule : Schedule) (o : EnqueueOptions)
  | scheduleRecurring (first : Instant) (every : Int) (hook : String) (args : Args)
      (o : EnqueueOptions)
  | scheduleCron (q : ActionQueue) (first : Instant) (expression : String)
      (zoneName : Option String) (hook : String) (args : Args) (o : EnqueueOptions)
  | unschedule (hook : String) (args : Option Args) (group : Option String)
  | unscheduleAll (hook : String) (args : Option Args) (group : Option String)

namespace Call

/-- Run a store operation as a call on the world's store, dropping its result. -/
def ofStore {α : Type} (m : StoreM α) : Job Unit := do
  let _ ← Job.store m

/-- Run a queue call, dropping its result. -/
def ofJob {α : Type} (j : Job α) : Job Unit := do
  let _ ← j

/-- **Make a call.** A save finds its first run before it touches the store, and panics on a
fault there, as the queue's saves do. -/
def run : Call → Job Unit
  | .saveAt a due now => ofStore (Store.saveAt a due now)
  | .save a now => do ofStore (← Job.work (Work.ofFault (Store.save a now)))
  | .saveUnique a now => do ofStore (← Job.work (Work.ofFault (Store.saveUnique a now)))
  | .logExecution id now => ofStore (Store.logExecution id now)
  | .markComplete id now => ofStore (Store.markComplete id now)
  | .markFailure id now => ofStore (Store.markFailure id now)
  | .cancel id now => ofStore (Store.cancel id now)
  | .delete id => ofStore (Store.delete id)
  | .cancelPending hook args group now => ofStore (Store.cancelPending hook args group now)
  | .stake limit before f now => ofStore (Store.stake limit before f now)
  | .findByClaim c now => ofStore (Store.findByClaim c now)
  | .releaseClaim c => ofStore (Store.releaseClaim c)
  | .unclaim id => ofStore (Store.unclaim id)
  | .releaseStaleClaims cutoff => ofStore (Store.releaseStaleClaims cutoff)
  | .failStaleInProgress cutoff now => ofStore (Store.failStaleInProgress cutoff now)
  | .deleteFinished cutoff limit => ofStore (Store.deleteFinished cutoff limit)
  | .pastDue cutoff => ofStore (Store.pastDue cutoff)
  | .enqueue hook args schedule o => ofJob (ActionQueue.enqueue hook args schedule o)
  | .scheduleRecurring first every hook args o =>
    ofJob (ActionQueue.scheduleRecurring first every hook args o)
  | .scheduleCron q first expression zoneName hook args o =>
    ofJob (q.scheduleCron first expression zoneName hook args o)
  | .unschedule hook args group => ofJob (ActionQueue.unschedule hook args group)
  | .unscheduleAll hook args group => ofJob (ActionQueue.unscheduleAll hook args group)

open Job.FailsIntact

lemma ofStore_failsIntact {α : Type} {m : StoreM α} (h : Store.FailsIntact m) :
    Job.FailsIntact (ofStore m) :=
  (store h).bind_pure fun _ => ()

lemma ofJob_failsIntact {α : Type} {j : Job α} (h : Job.FailsIntact j) :
    Job.FailsIntact (ofJob j) :=
  h.bind_pure fun _ => ()

/-- A store operation that failed as a call failed on the world's store, which it left
behind. -/
lemma ofStore_run_error {α : Type} {m : StoreM α} {w w' : World} {e : QueueError}
    (h : (ofStore m).run w = .ok (.error e) w') : m.run w.store = .error e w'.store := by
  simp only [ofStore, Job.run_bind, Job.store_run] at h
  rcases hm : m.run w.store with ⟨a, s⟩ | ⟨e₁, s⟩ <;> simp only [hm] at h
  · cases h
  · cases h
    rfl

/-- **Every call but a stake** leaves the table as it found it when it fails. -/
lemma run_failsIntact :
    ∀ c : Call, (∀ limit before f now, c ≠ .stake limit before f now) → Job.FailsIntact c.run
  | .saveAt a due now, _ => ofStore_failsIntact (Store.saveAt_failsIntact a due now)
  | .save _ _, _ => ofFault_bind fun _ hm => ofStore_failsIntact (Store.save_failsIntact hm)
  | .saveUnique _ _, _ =>
    ofFault_bind fun _ hm => ofStore_failsIntact (Store.saveUnique_failsIntact hm)
  | .logExecution _ _, _ => ofStore_failsIntact (Store.transition_failsIntact _ _ _ _ _)
  | .markComplete _ _, _ => ofStore_failsIntact (Store.transition_failsIntact _ _ _ _ _)
  | .markFailure _ _, _ => ofStore_failsIntact (Store.transition_failsIntact _ _ _ _ _)
  | .cancel _ _, _ => ofStore_failsIntact (Store.transition_failsIntact _ _ _ _ _)
  | .delete id, _ => ofStore_failsIntact (Store.delete_failsIntact id)
  | .cancelPending hook args group now, _ =>
    ofStore_failsIntact (Store.cancelPending_failsIntact hook args group now)
  | .stake limit before f now, h => absurd rfl (h limit before f now)
  | .findByClaim c now, _ => ofStore_failsIntact (Store.findByClaim_failsIntact c now)
  | .releaseClaim c, _ => ofStore_failsIntact (Store.releaseClaim_failsIntact c)
  | .unclaim id, _ => ofStore_failsIntact (Store.unclaim_failsIntact id)
  | .releaseStaleClaims cutoff, _ =>
    ofStore_failsIntact (Store.releaseStaleClaims_failsIntact cutoff)
  | .failStaleInProgress cutoff now, _ =>
    ofStore_failsIntact (Store.failStaleInProgress_failsIntact cutoff now)
  | .deleteFinished cutoff limit, _ =>
    ofStore_failsIntact (Store.deleteFinished_failsIntact cutoff limit)
  | .pastDue cutoff, _ =>
    ofStore_failsIntact (Store.FailsIntact.of_after (Store.pastDue_after cutoff))
  | .enqueue hook args schedule o, _ =>
    ofJob_failsIntact (ActionQueue.enqueue_failsIntact hook args schedule o)
  | .scheduleRecurring first every hook args o, _ =>
    ofJob_failsIntact (ActionQueue.scheduleRecurring_failsIntact first every hook args o)
  | .scheduleCron q first expression zoneName hook args o, _ =>
    ofJob_failsIntact (ActionQueue.scheduleCron_failsIntact q first expression zoneName hook args o)
  | .unschedule hook args group, _ =>
    ofJob_failsIntact (ActionQueue.unschedule_failsIntact hook args group)
  | .unscheduleAll hook args group, _ =>
    ofJob_failsIntact (ActionQueue.unscheduleAll_failsIntact hook args group)

end Call

/-- **A failed call leaves the table as it found it**, unless it is a stake that failed reading
back its own claim: then the table is the one its claim write made, and one of the rows it
marked is the row whose scheduled time could not be read. -/
theorem failed_calls_keep_table (c : Call) (w w' : World) (e : QueueError)
    (h : c.run.run w = .ok (.error e) w') :
    w'.store.rows = w.store.rows ∨
      ∃ limit before f now, c = .stake limit before f now ∧
        w'.store.rows = (Store.written ⟨w.store.claimsIssued + 1⟩ limit
          (before.getD now).truncSeconds f now w.store).rows ∧
        ∃ r ∈ w'.store.rows, r.claim = some ⟨w.store.claimsIssued + 1⟩ ∧
          Row.time 1 r.scheduledAt = .error e := by
  by_cases hc : ∀ limit before f now, c ≠ .stake limit before f now
  · exact .inl (Call.run_failsIntact c hc w e w' h)
  · -- A stake fails as its store operation does.
    simp only [not_forall, not_not] at hc
    obtain ⟨limit, before, f, now, rfl⟩ := hc
    rcases Store.stake_fails (Call.ofStore_run_error h) with hrows | hwrite
    · exact .inl hrows
    · exact .inr ⟨limit, before, f, now, rfl, hwrite⟩

/-- Deleting an action that is not there, from a table of one action, fails and keeps the
table. -/
theorem failed_delete_keeps_table :
    ∃ w', (Call.delete ⟨2⟩).run.run
        { store := ({} : Store).append ⟨"h", .empty, .immediate, "", 10⟩
            (.ofSeconds 1704067200) (.ofSeconds 1704067200), clock := .ofSeconds 1704067200 } =
        .ok (.error (.actionNotFound 2)) w' ∧
      w'.store.rows = (({} : Store).append ⟨"h", .empty, .immediate, "", 10⟩
          (.ofSeconds 1704067200) (.ofSeconds 1704067200)).rows := by
  obtain ⟨w', hrun⟩ : ∃ w', (Call.delete ⟨2⟩).run.run
      { store := ({} : Store).append ⟨"h", .empty, .immediate, "", 10⟩
          (.ofSeconds 1704067200) (.ofSeconds 1704067200), clock := .ofSeconds 1704067200 } =
      .ok (.error (.actionNotFound 2)) w' := ⟨_, rfl⟩
  refine ⟨w', hrun, (failed_calls_keep_table _ _ w' _ hrun).resolve_right ?_⟩
  rintro ⟨_, _, _, _, h, -⟩
  cases h

/-- **A stake fails with its claim in place.** On a table holding one action due at the first
second of the year 10000, a stake of five by 2024 takes the row, whose stored time sorts before
the horizon's as text, and then fails reading that time back as an instant: the row stays
claimed. -/
theorem stake_claims_then_fails :
    ∃ w', (Call.stake 5 (some (.ofSeconds 1704067200)) {} (.ofSeconds 1704067200)).run.run
        { store := ({} : Store).append ⟨"h", .empty, .immediate, "", 10⟩
            (.ofSeconds 253402300800) (.ofSeconds 1704067200), clock := .ofSeconds 1704067200 } =
        .ok (.error (Row.conversion 1 "input contains invalid characters")) w' ∧
      w'.store.rows ≠ (({} : Store).append ⟨"h", .empty, .immediate, "", 10⟩
          (.ofSeconds 253402300800) (.ofSeconds 1704067200)).rows := by
  have h : (match (Call.stake 5 (some (.ofSeconds 1704067200)) {} (.ofSeconds 1704067200)).run.run
        { store := ({} : Store).append ⟨"h", .empty, .immediate, "", 10⟩
            (.ofSeconds 253402300800) (.ofSeconds 1704067200), clock := .ofSeconds 1704067200 } with
      | .ok (.error e) w' => e == Row.conversion 1 "input contains invalid characters" &&
          w'.store.rows.any (·.claim == some ⟨1⟩)
      | _ => false) = true := by
    decide +kernel
  split at h
  · next e w' hr =>
    simp only [Bool.and_eq_true, beq_iff_eq, List.any_eq_true] at h
    obtain ⟨rfl, r, hr', hc⟩ := h
    -- The table held its one row unclaimed.
    refine ⟨w', hr, fun heq => ?_⟩
    rw [heq] at hr'
    simp [Store.append, Row.ofAction] at hr'
    simp [hr'] at hc
  · cases h

end JobQueue
