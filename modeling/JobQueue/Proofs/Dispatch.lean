import JobQueue.Proofs.Interleaving

/-!
# Each action is dispatched at most once

Two runners may both read an action as pending, and claims can be released under a runner
and taken by another, so nothing the runners hold keeps them apart. What does is the start:
the conditional write that moves an action from pending to in progress succeeds for one
runner only, since no statement ever makes a row pending again and no id is handed out twice.
A runner dispatches only after its own start succeeded.

This file proves that over every interleaving of the machine of `Interleaving`. The history
part is a fact about the log alone (`Linked.starts_unique`): of the entries that start `x`,
there is at most one. The rest is an invariant of the clients (`DispatchInv`): a runner past
its start holds the entry of that start, and a runner about to dispatch `x` finds no dispatch
of `x` in the log.

A runner that did not start `x` reports it skipped, or fails: with `ActionNotFound` when the
action is gone (it was deleted before the runner read it, or between its start and the read of
the status), and with a database error when the row does not decode or the table cannot be
written (`Unstarted`).

**Main statements**

* `Linked.starts_unique` — at most one entry of the log starts a given action.
* `DispatchInv.step` — one step of the system preserves the invariant.
* `Reachable.dispatch_at_most_once` — every action is dispatched at most once, by the runner
  whose start moved it, after that start; any other runner's processing of it reports it
  skipped or fails.
* `deleted_after_dispatch_fails` — such a processing can fail: the action may be deleted
  under it.
-/

namespace JobQueue

/-! ## Reads and refusals -/

/-- A column read that fails says it could not convert the column. -/
lemma Row.conversion_of_mapError {α β : Type} {x : Except α β} {g : α → String} {i : Nat}
    {e : QueueError} (h : x.mapError (fun err => conversion i (g err)) = .error e) :
    ∃ d, e = .database d := by
  cases x with
  | error err =>
    simp only [Except.mapError, Except.error.injEq] at h
    exact ⟨_, h.symm⟩
  | ok a => simp [Except.mapError] at h

lemma Row.conversion_of_map {α β γ : Type} {x : Except α β} {f : β → γ} {g : α → String}
    {i : Nat} {e : QueueError}
    (h : f <$> x.mapError (fun err => conversion i (g err)) = .error e) :
    ∃ d, e = .database d := by
  cases x with
  | error err =>
    simp only [Except.mapError, Functor.map, Except.map, Except.error.injEq] at h
    exact ⟨_, h.symm⟩
  | ok a => simp [Except.mapError, Functor.map, Except.map] at h

/-- **A row that does not decode fails with a database error.** -/
lemma Row.decode_error {r : Row} {e : QueueError} (h : r.decode = .error e) :
    ∃ d, e = .database d := by
  simp only [Row.decode, Row.time, bind, Except.bind] at h
  -- One case per column that can fail, and the last one, which cannot.
  repeat' split at h
  all_goals cases h
  all_goals first
    | exact Row.conversion_of_mapError ‹_›
    | exact Row.conversion_of_map ‹_›
    | cases ‹(pure none : Except QueueError (Option Instant)) = _›

namespace Store

variable {s s' : Store}

lemma fetch_run (x : ActionId) (s : Store) :
    (fetch x).run s = match s.row? x with
      | some r => match r.decode with
        | .ok a => .ok a s
        | .error e => .error e s
      | none => .error (.actionNotFound x.val) s := by
  simp only [fetch, EStateM.run_bind, EStateM.run_get]
  rcases s.row? x with _ | r
  · rfl
  · rcases hd : r.decode with e | a
    · simp only [hd]
      rfl
    · simp only [hd]
      rfl

/-- Reading an action fails only when it is gone or its row does not decode. -/
lemma fetch_error {x : ActionId} {e : QueueError} (h : (fetch x).run s = .error e s') :
    e = .actionNotFound x.val ∨ ∃ d, e = .database d := by
  rw [fetch_run] at h
  rcases hr : s.row? x with _ | r
  · simp only [hr, EStateM.Result.error.injEq] at h
    exact .inl h.1.symm
  · rcases hd : r.decode with err | a
    · simp only [hr, hd, EStateM.Result.error.injEq] at h
      exact .inr (Row.decode_error (h.1 ▸ hd))
    · simp [hr, hd] at h

lemma status_error {x : ActionId} {e : QueueError} (h : (status x).run s = .error e s') :
    e = .actionNotFound x.val := by
  rw [status_run] at h
  rcases hr : s.row? x with _ | r
  · simp only [hr, EStateM.Result.error.injEq] at h
    exact h.1.symm
  · simp [hr] at h

/-- A move fails only when the table cannot be written. -/
lemma move_error {x : ActionId} {target : Status} {sources : List Status} {extra : Row → Row}
    {now : Instant} {e : QueueError} (h : (move x target sources extra now).run s = .error e s') :
    ∃ d, e = .database d := by
  by_cases hw : s.Writable
  · simp [move_run hw] at h
  · obtain ⟨d, hd⟩ := beginWrite_run_of_not_writable hw
    simp only [move, EStateM.run_bind, hd, EStateM.Result.error.injEq] at h
    exact ⟨d, h.1.symm⟩

/-- A move that reports a row moved ran on a writable table that held the row with one of the
source statuses. -/
lemma move_moved {x : ActionId} {target : Status} {sources : List Status} {extra : Row → Row}
    {now : Instant} {n : Nat} (h : (move x target sources extra now).run s = .ok n s')
    (hn : n ≠ 0) : s.Writable ∧ ∃ r ∈ s.rows, r.id = x ∧ r.statusIn sources = true := by
  by_cases hw : s.Writable
  · rw [move_run hw, EStateM.Result.ok.injEq] at h
    obtain ⟨r, hr⟩ := List.exists_mem_of_length_pos (Nat.pos_of_ne_zero (h.1 ▸ hn))
    simp only [List.mem_filter, Bool.and_eq_true, beq_iff_eq] at hr
    exact ⟨hw, r, hr.1, hr.2.1, hr.2.2⟩
  · obtain ⟨d, hd⟩ := beginWrite_run_of_not_writable hw
    simp [move, EStateM.run_bind, hd] at h

/-- **A pending row with the id.** -/
def Pending (x : ActionId) (s : Store) : Prop := ∃ r ∈ s.rows, r.id = x ∧ r.status = .pending

/-- No row becomes pending: a table with no pending row `x`, among ids already handed out,
moves forward to a table with none. -/
lemma Evolves.not_pending {x : ActionId} (h : Evolves s s') (hx : x.val ≤ s.lastId)
    (hp : ¬ s.Pending x) : ¬ s'.Pending x := by
  rintro ⟨r', hr', rfl, hpend⟩
  rcases h.forward r' hr' with ⟨r, hr, hid, hleads⟩ | hfresh
  · exact hp ⟨r, hr, hid, Status.leads_pending.1 (hpend ▸ hleads)⟩
  · exact absurd hx (Int.not_le.2 hfresh)

end Store

/-! ## Starting an action -/

/-- **Entry `e` starts `x`**: a start of `x` that moved it from pending to in progress. -/
def Entry.Starts (x : ActionId) (e : Entry) : Prop :=
  (∃ now, e.event = .write (.start x now)) ∧ e.before.Pending x ∧
    ∃ r ∈ e.after.rows, r.id = x ∧ r.status = .inProgress

/-- A start on a writable table that holds `x` pending starts it. -/
lemma Entry.starts_of_pending {s : Store} {x : ActionId} (i : Nat) (now : Instant)
    (hw : s.Writable) (hp : s.Pending x) :
    Entry.Starts x ⟨i, .write (.start x now), s, (Event.write (.start x now)).apply s⟩ := by
  obtain ⟨r, hr, rfl, hpend⟩ := hp
  refine ⟨⟨now, rfl⟩, ⟨r, hr, rfl, hpend⟩, ?_⟩
  simp only [Event.apply, Stmt.run, Stmt.after_move, if_pos hw, Store.remap]
  refine ⟨_, List.mem_map_of_mem hr, ?_⟩
  simp [Row.statusIn, hpend, Row.started]

/-- After a start of `x`, no row `x` is pending, and `x` is an id handed out. -/
lemma Entry.Starts.not_pending {x : ActionId} {e : Entry} (h : e.Starts x)
    (hwf : e.after.WellFormed) : ¬ e.after.Pending x ∧ x.val ≤ e.after.lastId := by
  obtain ⟨-, -, r, hr, rfl, hprog⟩ := h
  refine ⟨fun ⟨r', hr', hid, hpend⟩ => ?_, hwf.le_lastId r hr⟩
  have := hwf.eq_of_id hr' hr hid
  rw [this, hprog] at hpend
  cases hpend

namespace Linked

variable {s₀ t : Store} {l : List Entry}

/-- **Once started, never pending again**: after an entry that starts `x`, no later table of
the log holds `x` pending. -/
lemma not_pending_of_sublist {x : ActionId} {e e' : Entry} (h : Linked s₀ l t)
    (hs₀ : s₀.WellFormed) (hs : [e, e'].Sublist l) (hst : e.Starts x) : ¬ e'.before.Pending x := by
  have hwf := (h.wellFormed hs₀).2 e (hs.subset List.mem_cons_self)
  obtain ⟨hp, hx⟩ := hst.not_pending hwf.2
  exact (h.reaches_of_sublist hs).evolves.not_pending hx hp

lemma not_pending_of_mem {x : ActionId} {e : Entry} (h : Linked s₀ l t) (hs₀ : s₀.WellFormed)
    (he : e ∈ l) (hst : e.Starts x) : ¬ t.Pending x := by
  have hwf := (h.wellFormed hs₀).2 e he
  obtain ⟨hp, hx⟩ := hst.not_pending hwf.2
  exact (h.of_mem he).2.2.evolves.not_pending hx hp

/-- **At most one entry starts an action**: a second start would find it no longer pending. -/
theorem starts_unique {x : ActionId} {e₁ e₂ : Entry} (h : Linked s₀ l t) (hs₀ : s₀.WellFormed)
    (h₁ : e₁ ∈ l) (h₂ : e₂ ∈ l) (hst₁ : e₁.Starts x) (hst₂ : e₂.Starts x) : e₁ = e₂ := by
  by_contra hne
  rcases pair_sublist_of_mem h₁ h₂ hne with hs | hs
  · exact h.not_pending_of_sublist hs₀ hs hst₁ hst₂.2.1
  · exact h.not_pending_of_sublist hs₀ hs hst₂ hst₁.2.1

end Linked

/-! ## The runners' invariant -/

lemma Event.dispatches_iff {x : ActionId} {e : Event} : e.dispatches x = true ↔ e = .dispatch x := by
  cases e <;> simp [Event.dispatches]

/-- **A task past a successful start of `x`**: about to dispatch it, record its result, read
why the record moved nothing, or save its successor. -/
def Task.Holds (x : ActionId) : Task → Prop
  | .dispatch y _ _ | .record y _ _ _ | .checkRecord y | .succeed y _ _ => y = x
  | _ => False

/-- **What processing `x` may return without having started it**: skipped, with the status
that stopped it, or a failure because the action is gone or the table could not be read or
written. -/
def Unstarted (x : ActionId) : Except QueueError ProcessReport → Prop
  | .ok r => ∃ st, r = { id := x, outcome := .skipped st }
  | .error e => e = .actionNotFound x.val ∨ ∃ d, e = .database d

namespace Acts

variable {t t' : Task} {s : Store} {e : Option Event} {x : ActionId}

/-- Only a runner about to dispatch `x` dispatches it. -/
lemma dispatch_event (h : Acts t s t' (some (.dispatch x))) : ∃ a now, t = .dispatch x a now := by
  rcases h with h | ⟨-, st, -, hst⟩
  · cases h
    exact ⟨_, _, rfl⟩
  · cases hst

/-- Only a finished processing is reported. -/
lemma processed_event {r : Except QueueError ProcessReport}
    (h : Acts t s t' (some (.processed x r))) : t = .finished x r := by
  rcases h with h | ⟨-, st, -, hst⟩
  · cases h
    rfl
  · cases hst

/-- A task comes to hold `x` only by a start of `x` on a writable table holding it pending. -/
lemma holds (h : Acts t s t' e) (hx : t'.Holds x) :
    t.Holds x ∨ ∃ now, e = some (.write (.start x now)) ∧ s.Writable ∧ s.Pending x := by
  rcases h with h | ⟨rfl, -⟩
  · cases h with
    | @started _ _ y _ now _ h hn =>
      obtain ⟨hw, r, hr, hid, hsrc⟩ := Store.move_moved h hn
      have hpend : r.status = .pending := by simpa [Row.statusIn] using hsrc
      obtain rfl : y = x := hx
      exact .inr ⟨now, rfl, hw, r, hr, hid, hpend⟩
    | dispatch result => exact .inl hx
    | recorded h hn => exact .inl hx
    | unrecorded h => exact .inl hx
    | _ => exact hx.elim
  · exact .inl hx

/-- A runner that finishes processing `x` reports it without a start, or held it. -/
lemma finished {r : Except QueueError ProcessReport} (h : Acts t s t' e)
    (hx : t' = .finished x r) : Unstarted x r ∨ t.Holds x ∨ t = .finished x r := by
  rcases h with h | ⟨rfl, -⟩
  · cases h with
    | skip h hs =>
      cases hx
      exact .inl ⟨_, rfl⟩
    | unread h =>
      cases hx
      exact .inl (Store.fetch_error h)
    | startFailed h =>
      cases hx
      exact .inl (.inr (Store.move_error h))
    | raced h =>
      cases hx
      exact .inl ⟨_, rfl⟩
    | vanished h =>
      cases hx
      exact .inl (.inl (Store.status_error h))
    | recordFailed h =>
      cases hx
      exact .inr (.inl rfl)
    | interrupted h =>
      cases hx
      exact .inr (.inl rfl)
    | lost h =>
      cases hx
      exact .inr (.inl rfl)
    | succeed =>
      cases hx
      exact .inr (.inl rfl)
    | successor due now hr h =>
      cases hx
      exact .inr (.inl rfl)
    | _ => cases hx
  · exact .inr (.inr hx)

/-- A runner comes to be about to dispatch `x` only by its start of `x`. -/
lemma to_dispatch {a : StoredAction} {now : Instant} (h : Acts t s t' e)
    (hx : t' = .dispatch x a now) :
    s.Pending x ∨ t = .dispatch x a now := by
  rcases holds h (by rw [hx]; exact rfl) with hold | ⟨-, -, -, hp⟩
  · rcases h with h | ⟨rfl, -⟩
    · cases h <;> first | exact hold.elim | cases hx
    · exact .inr hx
  · exact .inl hp

end Acts

/-- **The runners' invariant.** -/
structure DispatchInv (σ : System) : Prop where
  /-- A runner past its start holds the entry of that start. -/
  held : ∀ i x, (σ.tasks i).Holds x → ∃ e ∈ σ.log, e.actor = i ∧ e.Starts x
  /-- A finished processing reports without a start, or its runner started the action. -/
  finished : ∀ i x r, σ.tasks i = .finished x r →
    Unstarted x r ∨ ∃ e ∈ σ.log, e.actor = i ∧ e.Starts x
  /-- A runner about to dispatch `x` finds no dispatch of `x` in the log. -/
  fresh : ∀ i x a now, σ.tasks i = .dispatch x a now →
    ∀ d ∈ σ.log, d.event.dispatches x = false
  /-- Every dispatch follows its runner's start. -/
  dispatched : ∀ d ∈ σ.log, ∀ x, d.event = .dispatch x →
    ∃ e, e.actor = d.actor ∧ e.Starts x ∧ [e, d].Sublist σ.log
  /-- No action is dispatched twice. -/
  once : ∀ x, σ.log.countP (·.event.dispatches x) ≤ 1
  /-- Every report was made without a start, or by the runner that started the action. -/
  reported : ∀ p ∈ σ.log, ∀ x r, p.event = .processed x r →
    Unstarted x r ∨ ∃ e ∈ σ.log, e.actor = p.actor ∧ e.Starts x

namespace DispatchInv

lemma init (s : Store) : DispatchInv (.init s) where
  held _ _ hx := hx.elim
  finished _ _ _ hx := by cases hx
  fresh _ _ _ _ hx := by cases hx
  dispatched _ hd := by cases hd
  once _ := by simp [System.init]
  reported _ hp := by cases hp

variable {s₀ : Store} {σ : System}

/-- Two runners that hold `x` are one: each holds a start of `x`, and there is one. -/
lemma holder_unique (hs₀ : s₀.WellFormed) (hσ : Reachable s₀ σ) (hinv : DispatchInv σ)
    {i j : Nat} {x : ActionId} (hi : (σ.tasks i).Holds x) (hj : (σ.tasks j).Holds x) : i = j := by
  obtain ⟨e, he, rfl, hst⟩ := hinv.held i x hi
  obtain ⟨e', he', rfl, hst'⟩ := hinv.held j x hj
  rw [hσ.linked.starts_unique hs₀ he he' hst hst']

/-- While `x` is pending, nobody has dispatched it: a dispatch follows a start. -/
lemma undispatched_of_pending (hs₀ : s₀.WellFormed) (hσ : Reachable s₀ σ) (hinv : DispatchInv σ)
    {x : ActionId} (hp : σ.store.Pending x) : ∀ d ∈ σ.log, d.event.dispatches x = false := by
  intro d hd
  by_contra hdx
  obtain ⟨e, -, hst, hsub⟩ := hinv.dispatched d hd x (Event.dispatches_iff.1 (by simpa using hdx))
  exact hσ.linked.not_pending_of_mem hs₀ (hsub.subset List.mem_cons_self) hst hp

/-- **One step preserves the invariant.** -/
theorem step (hs₀ : s₀.WellFormed) (hσ : Reachable s₀ σ) (hinv : DispatchInv σ) {σ' : System}
    (h : Step σ σ') : DispatchInv σ' := by
  obtain ⟨i, t, e, hacts, rfl⟩ := h.acts
  -- What the old log holds, the new one holds.
  have grow : ∀ {n : Entry}, n ∈ σ.log → n ∈ (σ.take i t e).log :=
    fun hn => (σ.log_sublist_take i t e).subset hn
  have evidence : ∀ {j x}, (∃ n ∈ σ.log, n.actor = j ∧ n.Starts x) →
      ∃ n ∈ (σ.take i t e).log, n.actor = j ∧ n.Starts x :=
    fun ⟨n, hn, ha, hs⟩ => ⟨n, grow hn, ha, hs⟩
  constructor
  · -- A task that holds `x` either held it before or just started `x`.
    intro j x hx
    rcases σ.take_tasks_cases i t e j with ⟨rfl, ht⟩ | ⟨-, ht⟩ <;> rw [ht] at hx
    · rcases hacts.holds hx with hold | ⟨now, rfl, hw, hp⟩
      · exact evidence (hinv.held j x hold)
      · exact ⟨_, System.mem_take_log.2 (.inr ⟨_, rfl, rfl⟩), rfl,
          Entry.starts_of_pending j now hw hp⟩
    · exact evidence (hinv.held j x hx)
  · intro j x r hx
    rcases σ.take_tasks_cases i t e j with ⟨rfl, ht⟩ | ⟨-, ht⟩ <;> rw [ht] at hx
    · rcases hacts.finished hx with hu | hold | hold
      · exact .inl hu
      · exact .inr (evidence (hinv.held j x hold))
      · exact (hinv.finished j x r hold).imp id evidence
    · exact (hinv.finished j x r hx).imp id evidence
  · intro j x a now hx d hd
    rcases System.mem_take_log.1 hd with hold | ⟨ev, rfl, rfl⟩
    · rcases σ.take_tasks_cases i t e j with ⟨rfl, ht⟩ | ⟨-, ht⟩ <;> rw [ht] at hx
      · rcases hacts.to_dispatch hx with hp | htask
        · exact undispatched_of_pending hs₀ hσ hinv hp d hold
        · exact hinv.fresh j x a now htask d hold
      · exact hinv.fresh j x a now hx d hold
    · -- The step's own event: a dispatch of `x` by `i` would make `i` a second holder of `x`.
      by_contra hdx
      obtain rfl := Event.dispatches_iff.1 (by simpa using hdx)
      obtain ⟨a', now', hti⟩ := hacts.dispatch_event
      -- After dispatching, `i` is about to record, not to dispatch.
      rcases σ.take_tasks_cases i t _ j with ⟨rfl, ht⟩ | ⟨hj, ht⟩ <;> rw [ht] at hx
      · rcases hacts with hm | ⟨-, st, -, hst⟩
        · rw [hti, hx] at hm
          cases hm
        · cases hst
      · exact hj (holder_unique hs₀ hσ hinv (by rw [hx]; exact rfl) (by rw [hti]; exact rfl))
  · -- A dispatch is an old one, or the step's own, made by a runner that holds `x`.
    intro d hd x hdx
    rcases System.mem_take_log.1 hd with hold | ⟨ev, rfl, rfl⟩
    · obtain ⟨n, ha, hs, hsub⟩ := hinv.dispatched d hold x hdx
      exact ⟨n, ha, hs, hsub.trans (σ.log_sublist_take i t e)⟩
    · obtain rfl : ev = .dispatch x := hdx
      obtain ⟨a, now, hti⟩ := hacts.dispatch_event
      obtain ⟨n, hn, ha, hs⟩ := hinv.held i x (by rw [hti]; exact rfl)
      refine ⟨n, ha, hs, ?_⟩
      rw [System.take_log, Option.map_some, Option.toList_some]
      exact (List.singleton_sublist.2 hn).append (List.Sublist.refl _)
  · -- The step's own dispatch of `x` finds none in the log.
    intro x
    rw [System.take_log, List.countP_append]
    rcases e with _ | ev
    · simpa using hinv.once x
    · by_cases hdx : ev.dispatches x = true
      · obtain rfl := Event.dispatches_iff.1 hdx
        obtain ⟨a, now, hti⟩ := hacts.dispatch_event
        have hnone : σ.log.countP (·.event.dispatches x) = 0 :=
          List.countP_eq_zero.2 fun d hd => by simp [hinv.fresh i x a now hti d hd]
        rw [hnone]
        simp [Event.dispatches]
      · simpa [hdx] using hinv.once x
  · -- A report is an old one, or the step's own, of a finished processing.
    intro p hp x r hpx
    rcases System.mem_take_log.1 hp with hold | ⟨ev, rfl, rfl⟩
    · exact (hinv.reported p hold x r hpx).imp id evidence
    · obtain rfl : ev = .processed x r := hpx
      exact (hinv.finished i x r hacts.processed_event).imp id evidence

/-- The invariant holds of every reachable state. -/
theorem reachable (hs₀ : s₀.WellFormed) (h : Reachable s₀ σ) : DispatchInv σ :=
  h.induction (init s₀) fun hσ hinv hstep => hinv.step hs₀ hσ hstep

end DispatchInv

/-- **Dispatch safety of a state**: what the log says about dispatches. -/
structure DispatchSafety (σ : System) : Prop where
  /-- No action is dispatched twice. -/
  once : ∀ x, σ.log.countP (·.event.dispatches x) ≤ 1
  /-- Every dispatch follows a start by the same runner that moved the action from pending to
  in progress. -/
  after_start : ∀ d ∈ σ.log, ∀ x, d.event = .dispatch x →
    ∃ e, e.actor = d.actor ∧ e.Starts x ∧ [e, d].Sublist σ.log
  /-- Any other runner's processing of a dispatched action reports it skipped, or fails
  because the action is gone or the table could not be read or written. -/
  others_unstarted : ∀ d ∈ σ.log, ∀ p ∈ σ.log, ∀ x r, d.event = .dispatch x →
    p.event = .processed x r → p.actor ≠ d.actor → Unstarted x r

/-- **Every action is dispatched at most once**, over every interleaving of runners with each
other and with every other client of a well-formed table: housekeeping, cancellations,
deletions, enqueues, claims and their releases. -/
theorem Reachable.dispatch_at_most_once {s₀ : Store} {σ : System} (hs₀ : s₀.WellFormed)
    (h : Reachable s₀ σ) : DispatchSafety σ := by
  have hinv := DispatchInv.reachable hs₀ h
  refine ⟨hinv.once, hinv.dispatched, fun d hd p hp x r hdx hpx hne => ?_⟩
  obtain ⟨e, hae, hst, hsub⟩ := hinv.dispatched d hd x hdx
  rcases hinv.reported p hp x r hpx with hu | ⟨e', he', hae', hst'⟩
  · exact hu
  · -- Both runners would hold a start of `x`, and there is only one.
    have hsame := h.linked.starts_unique hs₀ (hsub.subset List.mem_cons_self) he' hst hst'
    rw [← hae', ← hsame, hae] at hne
    exact absurd rfl hne

/-- A run that a computed check finds successful, with its value. -/
lemma run_ok_of_check {ε σ α : Type} {m : EStateM ε σ α} {s : σ} {p : α → Bool}
    (h : (match m.run s with | .ok a _ => p a | .error .. => false) = true) :
    ∃ a s', m.run s = .ok a s' ∧ p a = true := by
  rcases hr : m.run s with ⟨a, s'⟩ | ⟨e, s'⟩
  · rw [hr] at h
    exact ⟨a, s', rfl, h⟩
  · rw [hr] at h
    cases h

/-- A run that a computed check finds failed, with its error. -/
lemma run_error_of_check {ε σ α : Type} {m : EStateM ε σ α} {s : σ} {q : ε → Bool}
    (h : (match m.run s with | .ok .. => false | .error e _ => q e) = true) :
    ∃ e s', m.run s = .error e s' ∧ q e = true := by
  rcases hr : m.run s with ⟨a, s'⟩ | ⟨e, s'⟩
  · rw [hr] at h
    cases h
  · rw [hr] at h
    exact ⟨e, s', rfl, h⟩

/-! ## A run of two runners over one action -/

/-- **Two runners over one action.** Client 2 saves an action. Runner 0 stakes a claim and gets
it; the housekeeper, at the same clock reading, releases that claim as stale; runner 1 stakes a
second claim, gets the action again, reads it pending and starts it. Runner 0 processes the
action as well, finds it in progress and reports it skipped, and runner 1 dispatches it. Client
2 then saves a second action, of another hook and priority, due an hour later. -/
lemma two_runners_run :
    ∃ σ, Reachable {} σ ∧
      (∃ q₁ q₂, [q₁, q₂].Sublist σ.log ∧ q₁.actor = 0 ∧
        q₁.event = .staked (.ok ⟨⟨1⟩, [⟨1⟩]⟩) ∧ q₂.actor = 1 ∧
        q₂.event = .staked (.ok ⟨⟨2⟩, [⟨1⟩]⟩)) ∧
      (∃ k ∈ σ.log, k.actor = 2 ∧
        k.event = .write (.releaseStale (.ofSeconds 1704067200)) ∧
        ∃ r ∈ k.before.rows, r.status = .pending ∧ r.claim = some ⟨1⟩) ∧
      (∃ d ∈ σ.log, d.actor = 1 ∧ d.event = .dispatch ⟨1⟩) ∧
      (∃ p ∈ σ.log, p.actor = 0 ∧
        p.event = .processed ⟨1⟩ (.ok { id := ⟨1⟩, outcome := .skipped .inProgress })) ∧
      (∃ r ∈ σ.store.rows, r.id = ⟨1⟩ ∧ r.status = .inProgress) ∧
      ∃ r ∈ σ.store.rows, r.id = ⟨2⟩ ∧ r.status = .pending := by
  let t₀ : Instant := .ofSeconds 1704067200
  let a : Action := { hook := "h", args := .empty, schedule := .immediate }
  -- Client 2 saves the action; it gets id 1.
  let σ₁ := (System.init {}).take 2 .idle (some (.write (.insert a t₀ t₀)))
  have h₁ : Step (.init {}) σ₁ := .write 2 (.insert a t₀ t₀) trivial
  -- Runner 0 issues claim 1, marks the action with it, reads it back and keeps it.
  let σ₂ := σ₁.take 0 (.staking ⟨1⟩ 1 t₀.truncSeconds {} t₀) (some (.write .issue))
  have h₂ : Step σ₁ σ₂ := .move 0 (.issue 1 none {} t₀ (by decide) rfl)
  obtain ⟨n₁, _, hw₁, -⟩ :=
    run_ok_of_check (m := Store.stakeWrite ⟨1⟩ 1 t₀.truncSeconds {} t₀) (s := σ₂.store)
      (p := (· == 1)) (by decide +kernel)
  let σ₃ := σ₂.take 0 (.reading ⟨1⟩ t₀.truncSeconds)
    (some (.write (.stake ⟨1⟩ 1 t₀.truncSeconds {} t₀)))
  have h₃ : Step σ₂ σ₃ := .move 0 (.stake hw₁)
  obtain ⟨rows₁, _, hr₁, hrows₁⟩ := run_ok_of_check (m := Store.claimedRows ⟨1⟩)
    (s := σ₃.store) (p := (· == [(⟨1⟩, t₀)])) (by decide +kernel)
  obtain rfl : rows₁ = [(⟨1⟩, t₀)] := by simpa using hrows₁
  let σ₄ := σ₃.take 0 (.sieving ⟨1⟩ t₀.truncSeconds [] [(⟨1⟩, t₀)]) none
  have h₄ : Step σ₃ σ₄ := .move 0 (.readBack hr₁)
  let σ₅ := σ₄.take 0 (.sieving ⟨1⟩ t₀.truncSeconds [⟨1⟩] []) none
  have h₅ : Step σ₄ σ₅ := .move 0 (.keep (by decide))
  let σ₆ := σ₅.take 0 (.returning (.ok ⟨⟨1⟩, [⟨1⟩]⟩)) none
  have h₆ : Step σ₅ σ₆ := .move 0 .sieved
  let σ₇ := σ₆.take 0 .idle (some (.staked (.ok ⟨⟨1⟩, [⟨1⟩]⟩)))
  have h₇ : Step σ₆ σ₇ := .move 0 .answer
  -- The housekeeper releases claims staked at or before the clock reading: claim 1.
  let σ₈ := σ₇.take 2 .idle (some (.write (.releaseStale t₀)))
  have h₈ : Step σ₇ σ₈ := .write 2 (.releaseStale t₀) trivial
  -- Runner 1 stakes claim 2 the same way and gets the action again.
  let σ₉ := σ₈.take 1 (.staking ⟨2⟩ 1 t₀.truncSeconds {} t₀) (some (.write .issue))
  have h₉ : Step σ₈ σ₉ := .move 1 (.issue 1 none {} t₀ (by decide) rfl)
  obtain ⟨n₂, _, hw₂, -⟩ :=
    run_ok_of_check (m := Store.stakeWrite ⟨2⟩ 1 t₀.truncSeconds {} t₀) (s := σ₉.store)
      (p := (· == 1)) (by decide +kernel)
  let σ₁₀ := σ₉.take 1 (.reading ⟨2⟩ t₀.truncSeconds)
    (some (.write (.stake ⟨2⟩ 1 t₀.truncSeconds {} t₀)))
  have h₁₀ : Step σ₉ σ₁₀ := .move 1 (.stake hw₂)
  obtain ⟨rows₂, _, hr₂, hrows₂⟩ := run_ok_of_check (m := Store.claimedRows ⟨2⟩)
    (s := σ₁₀.store) (p := (· == [(⟨1⟩, t₀)])) (by decide +kernel)
  obtain rfl : rows₂ = [(⟨1⟩, t₀)] := by simpa using hrows₂
  let σ₁₁ := σ₁₀.take 1 (.sieving ⟨2⟩ t₀.truncSeconds [] [(⟨1⟩, t₀)]) none
  have h₁₁ : Step σ₁₀ σ₁₁ := .move 1 (.readBack hr₂)
  let σ₁₂ := σ₁₁.take 1 (.sieving ⟨2⟩ t₀.truncSeconds [⟨1⟩] []) none
  have h₁₂ : Step σ₁₁ σ₁₂ := .move 1 (.keep (by decide))
  let σ₁₃ := σ₁₂.take 1 (.returning (.ok ⟨⟨2⟩, [⟨1⟩]⟩)) none
  have h₁₃ : Step σ₁₂ σ₁₃ := .move 1 .sieved
  let σ₁₄ := σ₁₃.take 1 .idle (some (.staked (.ok ⟨⟨2⟩, [⟨1⟩]⟩)))
  have h₁₄ : Step σ₁₃ σ₁₄ := .move 1 .answer
  -- Runner 1 reads the action pending and starts it.
  let σ₁₅ := σ₁₄.take 1 (.fetch ⟨1⟩ t₀) none
  have h₁₅ : Step σ₁₄ σ₁₅ := .move 1 (.begin ⟨1⟩ t₀)
  obtain ⟨b, _, hfetch, hpending⟩ := run_ok_of_check (m := Store.fetch ⟨1⟩)
    (s := σ₁₅.store) (p := (·.status == .pending)) (by decide +kernel)
  let σ₁₆ := σ₁₅.take 1 (.start ⟨1⟩ b t₀) none
  have h₁₆ : Step σ₁₅ σ₁₆ := .move 1 (.pending hfetch (by simpa using hpending))
  obtain ⟨n₃, _, hmove, hone⟩ := run_ok_of_check
    (m := Store.move ⟨1⟩ .inProgress [.pending] (Row.started t₀) t₀) (s := σ₁₅.store)
    (p := (· == 1)) (by decide +kernel)
  let σ₁₇ := σ₁₆.take 1 (.dispatch ⟨1⟩ b t₀) (some (.write (.start ⟨1⟩ t₀)))
  have hs₁₆ : σ₁₆.store = σ₁₅.store := System.store_take_none σ₁₅ 1 _
  have h₁₇ : Step σ₁₆ σ₁₇ :=
    .move 1 (.started (by rw [hs₁₆]; exact hmove) (by simp at hone; omega))
  -- Runner 0 processes the action too: it finds it in progress and skips it.
  let σ₁₈ := σ₁₇.take 0 (.fetch ⟨1⟩ t₀) none
  have h₁₈ : Step σ₁₇ σ₁₈ := .move 0 (.begin ⟨1⟩ t₀)
  -- The table after the start; the tasks hold the action read, the table does not.
  let s₁₇ := (Event.write (.start ⟨1⟩ t₀)).apply σ₁₅.store
  have hs₁₈ : σ₁₈.store = s₁₇ :=
    (System.store_take_none σ₁₇ 0 _).trans
      ((System.store_take_some σ₁₆ 1 _ _).trans (by rw [hs₁₆]))
  obtain ⟨b', _, hfetch', hrunning⟩ := run_ok_of_check (m := Store.fetch ⟨1⟩) (s := s₁₇)
    (p := (·.status == .inProgress)) (by decide +kernel)
  have hst : b'.status = .inProgress := by simpa using hrunning
  let σ₁₉ :=
    σ₁₈.take 0 (.finished ⟨1⟩ (.ok { id := ⟨1⟩, outcome := .skipped .inProgress })) none
  have h₁₉ : Step σ₁₈ σ₁₉ :=
    .move 0 (hst ▸ .skip (by rw [hs₁₈]; exact hfetch') (by rw [hst]; decide))
  let σ₂₀ := σ₁₉.take 0 .idle
    (some (.processed ⟨1⟩ (.ok { id := ⟨1⟩, outcome := .skipped .inProgress })))
  have h₂₀ : Step σ₁₉ σ₂₀ := .move 0 .report
  -- Runner 1 dispatches the action.
  let σ₂₁ := σ₂₀.take 1 (.record ⟨1⟩ b (.ok ()) t₀) (some (.dispatch ⟨1⟩))
  have h₂₁ : Step σ₂₀ σ₂₁ := .move 1 (.dispatch (.ok ()))
  -- Client 2 saves a second action.
  let a₂ : Action :=
    { hook := "report", args := .empty, schedule := .immediate, priority := 5 }
  let σ₂₂ :=
    σ₂₁.take 2 (σ₂₁.tasks 2) (some (.write (.insert a₂ (.ofSeconds 1704070800) t₀)))
  have h₂₂ : Step σ₂₁ σ₂₂ :=
    .write 2 (.insert a₂ (.ofSeconds 1704070800) t₀) trivial
  -- What the log and the table show.
  have run₁ : Reachable {} σ₈ :=
    .tail (.tail (.tail (.tail (.tail (.tail (.tail (.single h₁) h₂) h₃) h₄) h₅) h₆) h₇)
      h₈
  have run₂ : Relation.ReflTransGen Step σ₈ σ₁₃ :=
    .tail (.tail (.tail (.tail (.single h₉) h₁₀) h₁₁) h₁₂) h₁₃
  have run₃ : Relation.ReflTransGen Step σ₁₄ σ₂₂ :=
    .tail (.tail (.tail (.tail (.tail (.tail (.tail (.single h₁₅) h₁₆) h₁₇) h₁₈) h₁₉) h₂₀)
      h₂₁) h₂₂
  have hq₁ : _ ∈ σ₇.log := System.mem_take_log.2 (.inr ⟨_, rfl, rfl⟩)
  have hk : _ ∈ σ₈.log := System.mem_take_log.2 (.inr ⟨_, rfl, rfl⟩)
  have hd : _ ∈ σ₂₁.log := System.mem_take_log.2 (.inr ⟨_, rfl, rfl⟩)
  have hp : _ ∈ σ₂₀.log := System.mem_take_log.2 (.inr ⟨_, rfl, rfl⟩)
  obtain ⟨r₇, hr₇, hc₇⟩ := List.any_eq_true.1 (show σ₇.store.rows.any
    (fun r => r.status == .pending && r.claim == some ⟨1⟩) = true by decide +kernel)
  let s₂₂ := (Event.write (.insert a₂ (.ofSeconds 1704070800) t₀)).apply s₁₇
  obtain ⟨r, hr, hrun⟩ := List.any_eq_true.1 (show s₂₂.rows.any
    (fun r => r.id == ⟨1⟩ && r.status == .inProgress) = true by decide +kernel)
  obtain ⟨r₂, hr₂, hpend⟩ := List.any_eq_true.1 (show s₂₂.rows.any
    (fun r => r.id == ⟨2⟩ && r.status == .pending) = true by decide +kernel)
  simp only [Bool.and_eq_true, beq_iff_eq] at hc₇ hrun hpend
  have hs₂₂ : σ₂₂.store = s₂₂ := by
    simp only [σ₂₂, σ₂₁, σ₂₀, σ₁₉, System.store_take_some, System.store_take_none,
      Event.apply, hs₁₈, s₂₂]
  refine ⟨σ₂₂, ((run₁.trans run₂).tail h₁₄).trans run₃,
    ⟨_, _, (System.sublist_take_of_mem ((log_sublist_of_steps run₂).subset
      ((σ₇.log_sublist_take 2 _ _).subset hq₁)) 1 _ _).trans (log_sublist_of_steps run₃),
      rfl, rfl, rfl, rfl⟩,
    ⟨_, (log_sublist_of_steps run₃).subset ((σ₁₃.log_sublist_take 1 _ _).subset
      ((log_sublist_of_steps run₂).subset hk)), rfl, rfl, r₇, hr₇, hc₇⟩,
    ⟨_, (σ₂₁.log_sublist_take 2 _ _).subset hd, rfl, rfl⟩,
    ⟨_, (σ₂₁.log_sublist_take 2 _ _).subset ((σ₂₀.log_sublist_take 1 _ _).subset hp), rfl,
      rfl⟩,
    ⟨r, hs₂₂ ▸ hr, hrun⟩, r₂, hs₂₂ ▸ hr₂, hpend⟩

/-- Of two runners that both process one action, one dispatches it, and the other's
processing is one of those a runner reports without a start. -/
theorem dispatch_at_most_once_two_runners :
    ({} : Store).WellFormed ∧ ∃ σ, Reachable {} σ ∧
      (∃ d ∈ σ.log, d.actor = 1 ∧ d.event = .dispatch ⟨1⟩) ∧
      (∃ p ∈ σ.log, p.actor = 0 ∧
        p.event = .processed ⟨1⟩ (.ok { id := ⟨1⟩, outcome := .skipped .inProgress })) ∧
      DispatchSafety σ := by
  have hwf : ({} : Store).WellFormed := ⟨List.nodup_nil, fun _ h => by cases h⟩
  obtain ⟨σ, hσ, -, -, hd, hp, -⟩ := two_runners_run
  exact ⟨hwf, σ, hσ, hd, hp, Reachable.dispatch_at_most_once hwf hσ⟩

/-- **A runner that did not start an action need not report it skipped**: runner 0 starts and
dispatches action 1, client 2 deletes it, and runner 1, processing it, fails with
`ActionNotFound`. -/
theorem deleted_after_dispatch_fails :
    ∃ σ, Reachable {} σ ∧ ∃ d ∈ σ.log, ∃ p ∈ σ.log, d.event = .dispatch ⟨1⟩ ∧
      p.event = .processed ⟨1⟩ (.error (.actionNotFound 1)) ∧ p.actor ≠ d.actor := by
  let t₀ : Instant := ⟨0, 0, by decide⟩
  let a : Action := { hook := "h", args := .empty, schedule := .immediate }
  -- The table after the save, the start and the delete.
  let s₁ := (Event.write (.insert a t₀ t₀)).apply {}
  let s₂ := (Event.write (.start ⟨1⟩ t₀)).apply s₁
  let s₃ := (Event.write (.delete ⟨1⟩)).apply s₂
  -- Client 2 saves the action; it gets id 1.
  let σ₁ := (System.init {}).take 2 .idle (some (.write (.insert a t₀ t₀)))
  have h₁ : Step (.init {}) σ₁ := .write 2 (.insert a t₀ t₀) trivial
  -- Runner 0 reads it pending, starts it and dispatches it.
  let σ₂ := σ₁.take 0 (.fetch ⟨1⟩ t₀) none
  have h₂ : Step σ₁ σ₂ := .move 0 (.begin ⟨1⟩ t₀)
  obtain ⟨b, _, hfetch, hpending⟩ := run_ok_of_check (m := Store.fetch ⟨1⟩) (s := s₁)
    (p := (·.status == .pending)) (by decide +kernel)
  let σ₃ := σ₂.take 0 (.start ⟨1⟩ b t₀) none
  have h₃ : Step σ₂ σ₃ := .move 0 (.pending hfetch (by simpa using hpending))
  obtain ⟨n, _, hmove, hone⟩ := run_ok_of_check
    (m := Store.move ⟨1⟩ .inProgress [.pending] (Row.started t₀) t₀) (s := s₁)
    (p := (· == 1)) (by decide +kernel)
  let σ₄ := σ₃.take 0 (.dispatch ⟨1⟩ b t₀) (some (.write (.start ⟨1⟩ t₀)))
  have h₄ : Step σ₃ σ₄ := .move 0 (.started hmove (by simp at hone; omega))
  let σ₅ := σ₄.take 0 (.record ⟨1⟩ b (.ok ()) t₀) (some (.dispatch ⟨1⟩))
  have h₅ : Step σ₄ σ₅ := .move 0 (.dispatch (.ok ()))
  -- Client 2 deletes it; runner 1 reads it and fails.
  let σ₆ := σ₅.take 2 .idle (some (.write (.delete ⟨1⟩)))
  have h₆ : Step σ₅ σ₆ := .write 2 (.delete ⟨1⟩) trivial
  let σ₇ := σ₆.take 1 (.fetch ⟨1⟩ t₀) none
  have h₇ : Step σ₆ σ₇ := .move 1 (.begin ⟨1⟩ t₀)
  obtain ⟨e, _, hgone, hnotFound⟩ := run_error_of_check (m := Store.fetch ⟨1⟩) (s := s₃)
    (q := (· == .actionNotFound 1)) (by decide +kernel)
  obtain rfl : e = .actionNotFound 1 := by simpa using hnotFound
  let σ₈ := σ₇.take 1 (.finished ⟨1⟩ (.error (.actionNotFound 1))) none
  have h₈ : Step σ₇ σ₈ := .move 1 (.unread hgone)
  let σ₉ := σ₈.take 1 .idle (some (.processed ⟨1⟩ (.error (.actionNotFound 1))))
  have h₉ : Step σ₈ σ₉ := .move 1 .report
  refine ⟨σ₉,
    .tail (.tail (.tail (.tail (.tail (.tail (.tail (.tail (.single h₁) h₂) h₃) h₄) h₅) h₆) h₇)
      h₈) h₉, ⟨0, .dispatch ⟨1⟩, s₂, s₂⟩, ?_,
    ⟨1, .processed ⟨1⟩ (.error (.actionNotFound 1)), s₃, s₃⟩, ?_, rfl, rfl, by decide⟩
  · simp only [σ₉, σ₈, σ₇, σ₆, σ₅, System.take, List.mem_append, List.mem_singleton]
    exact .inl (.inl (.inr rfl))
  · simp only [σ₉, σ₈, σ₇, System.take, List.mem_append, List.mem_singleton]
    exact .inr rfl

end JobQueue
