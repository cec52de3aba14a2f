import JobQueue.Proofs.Unscheduling

/-!
# A recurrence goes on only from its runner's own record

A recurring action is followed by a successor on one path only: the runner that started it
records the handler's result with a conditional write, and once that write has moved the row it
saves the successor. Nothing else saves one. Housekeeping fails actions that stayed in progress
too long, and a runner whose record then finds the row already finished reports the action
interrupted, with no successor.

This file proves what that means over every interleaving of the machine of `Interleaving`. An
action ends its life (`Entry.Ends`: it was pending or in progress, and is no longer) once, since
no statement makes a row pending or in progress again. A runner past a record that moved `x`
holds that record, the entry that ended `x`, and finds no successor of `x` reported
(`SuccessorInv`). So a successor of an action is reported at most once, and only by the runner
that started it and whose own record ended it. When another client ends the action first,
housekeeping failing it while its handler runs, no successor of it is ever reported, whatever
the failure policy and the schedule.

**Main statements**

* `Linked.ends_unique` — at most one entry of the log ends a given action.
* `SuccessorInv.step` — one step of the system preserves the invariant.
* `Reachable.successor_follows_own_record` — a successor of an action is reported at most once,
  by the runner that started it, and only when that runner's record was the entry that ended it.
* `housekeeping_failure_ends_recurrence` — housekeeping that fails a dispatched hourly action
  leaves it with no successor in every continuation.
-/

namespace JobQueue

/-! ## Ending an action -/

namespace Store

variable {s s' : Store} {x : ActionId}

/-- **A live row with the id**: pending or in progress. -/
def Live (x : ActionId) (s : Store) : Prop :=
  ∃ r ∈ s.rows, r.id = x ∧ r.statusIn [.pending, .inProgress] = true

instance (x : ActionId) (s : Store) : Decidable (s.Live x) :=
  inferInstanceAs (Decidable (∃ r ∈ s.rows, _))

/-- No row comes back to life: a table with no live row `x`, among ids already handed out,
moves forward to a table with none. -/
lemma Evolves.not_live (h : Evolves s s') (hx : x.val ≤ s.lastId) (hl : ¬ s.Live x) :
    ¬ s'.Live x := by
  rintro ⟨r', hr', rfl, hlive⟩
  rcases h.forward r' hr' with ⟨r, hr, hid, hleads⟩ | hfresh
  · have hb : r'.status ∈ [Status.pending, .inProgress] := by simpa [Row.statusIn] using hlive
    exact hl ⟨r, hr, hid, by simpa [Row.statusIn] using Status.live_of_leads hleads hb⟩
  · exact absurd hx (Int.not_le.2 hfresh)

/-- A record on a writable table leaves no live row `x`: it finishes the one it finds. -/
lemma not_live_after_record (result : Except HandlerError Unit) (now : Instant)
    (hw : s.Writable) : ¬ (after (recordStmt x result now).run s).Live x := by
  have hafter : after (recordStmt x result now).run s =
      remap (fun r => r.id == x && r.statusIn [.pending, .inProgress])
        (fun r => Row.attempted now
          { r with status := recordedStatus result, updatedAt := .ofInstant now }) s := by
    rcases result with _ | ⟨⟩ <;>
      simp only [recordStmt, recordedStatus, Stmt.run, Stmt.after_move, if_pos hw]
  rintro ⟨r', hr', hid, hlive⟩
  rw [hafter] at hr'
  obtain ⟨r, hr, rfl⟩ := List.mem_map.1 hr'
  by_cases hp : (r.id == x && r.statusIn [.pending, .inProgress]) = true
  · rw [if_pos hp] at hlive
    rcases result with _ | ⟨⟩ <;> simp [Row.attempted, Row.statusIn, recordedStatus] at hlive
  · rw [if_neg hp] at hid hlive
    exact hp (by simp [hid, hlive])

end Store

/-- **Entry `e` ends `x`**: `x` was live before it and is not after. -/
def Entry.Ends (x : ActionId) (e : Entry) : Prop := e.before.Live x ∧ ¬ e.after.Live x

namespace Linked

variable {s₀ t : Store} {l : List Entry} {x : ActionId}

/-- After an entry of the log that ends `x`, `x` is an id handed out. -/
lemma le_lastId_of_ends {e : Entry} (h : Linked s₀ l t) (hs₀ : s₀.WellFormed) (he : e ∈ l)
    (hend : e.Ends x) : x.val ≤ e.after.lastId := by
  obtain ⟨r, hr, rfl, -⟩ := hend.1
  obtain ⟨-, happ, -⟩ := h.of_mem he
  exact Int.le_trans (((h.wellFormed hs₀).2 e he).1.le_lastId r hr)
    (happ ▸ (Event.reaches _ _).evolves.lastId_le)

/-- **Once ended, never live again**: after an entry that ends `x`, no later table of the log
holds `x` live. -/
lemma not_live_of_sublist {e e' : Entry} (h : Linked s₀ l t) (hs₀ : s₀.WellFormed)
    (hs : [e, e'].Sublist l) (hend : e.Ends x) : ¬ e'.before.Live x :=
  (h.reaches_of_sublist hs).evolves.not_live
    (h.le_lastId_of_ends hs₀ (hs.subset List.mem_cons_self) hend) hend.2

lemma not_live_of_mem {e : Entry} (h : Linked s₀ l t) (hs₀ : s₀.WellFormed) (he : e ∈ l)
    (hend : e.Ends x) : ¬ t.Live x :=
  (h.of_mem he).2.2.evolves.not_live (h.le_lastId_of_ends hs₀ he hend) hend.2

/-- **At most one entry ends an action**: a second end would find it no longer live. -/
theorem ends_unique {e₁ e₂ : Entry} (h : Linked s₀ l t) (hs₀ : s₀.WellFormed) (h₁ : e₁ ∈ l)
    (h₂ : e₂ ∈ l) (hend₁ : e₁.Ends x) (hend₂ : e₂.Ends x) : e₁ = e₂ := by
  by_contra hne
  rcases pair_sublist_of_mem h₁ h₂ hne with hs | hs
  · exact h.not_live_of_sublist hs₀ hs hend₁ hend₂.1
  · exact h.not_live_of_sublist hs₀ hs hend₂ hend₁.1

end Linked

/-- **Entry `e` is a record of `x` that ended it**: the write of a handler's result moved `x`
from live to finished. -/
def Entry.RecordEnds (x : ActionId) (e : Entry) : Prop :=
  (∃ result now, e.event = .write (recordStmt x result now)) ∧ e.Ends x

/-- A record that moved a row ends its action. -/
lemma Entry.recordEnds_of_moved {s s' : Store} {x : ActionId} {result : Except HandlerError Unit}
    {now : Instant} {n : Nat} (i : Nat)
    (h : (Store.move x (recordedStatus result) [.pending, .inProgress] (Row.attempted now)
      now).run s = .ok n s') (hn : n ≠ 0) :
    Entry.RecordEnds x ⟨i, .write (recordStmt x result now), s,
      (Event.write (recordStmt x result now)).apply s⟩ := by
  obtain ⟨hw, hlive⟩ := Store.move_moved h hn
  exact ⟨⟨result, now, rfl⟩, hlive, Store.not_live_after_record result now hw⟩

/-! ## The successors' invariant -/

/-- Whether the event reports processing `x` with a successor saved. -/
def Event.reportsSuccessor (x : ActionId) : Event → Bool
  | .processed y (.ok rep) => y == x && rep.successor.isSome
  | _ => false

lemma Event.reportsSuccessor_iff {x : ActionId} {e : Event} :
    e.reportsSuccessor x = true ↔ ∃ rep, e = .processed x (.ok rep) ∧ rep.successor.isSome := by
  rcases e with _ | _ | ⟨y, _ | rep⟩ | _ <;> simp [reportsSuccessor]

/-- **A runner past a record of `x` that moved it**: about to save the successor, or finished
with one saved. -/
def Task.Succeeds (x : ActionId) : Task → Prop
  | .succeed y _ _ => y = x
  | .finished y (.ok rep) => y = x ∧ rep.successor.isSome = true
  | _ => False

namespace Acts

variable {t t' : Task} {s : Store} {e : Option Event} {x : ActionId}

/-- A runner comes to be past a record of `x` only by a record of `x` that moved it. -/
lemma succeeds (h : Acts t s t' e) (hx : t'.Succeeds x) :
    t.Succeeds x ∨ ∃ a result now n s', t = .record x a result now ∧
      e = some (.write (recordStmt x result now)) ∧
      (Store.move x (recordedStatus result) [.pending, .inProgress] (Row.attempted now)
        now).run s = .ok n s' ∧ n ≠ 0 := by
  rcases h with h | ⟨rfl, -⟩
  · cases h with
    | recorded h hn =>
      obtain rfl : _ = x := hx
      exact .inr ⟨_, _, _, _, _, rfl, rfl, h, hn⟩
    | successor due now hr h => exact .inl hx.1
    | _ => simp [Task.Succeeds] at hx
  · exact .inl hx

/-- After a report the runner is idle. -/
lemma idle_of_processed {r : Except QueueError ProcessReport}
    (h : Acts t s t' (some (.processed x r))) : t' = .idle := by
  rcases h with h | ⟨-, st, -, hst⟩
  · cases h
    rfl
  · cases hst

end Acts

/-- **The successors' invariant.** -/
structure SuccessorInv (σ : System) : Prop where
  /-- A runner past a record of `x` that moved it holds the entry of that record. -/
  recorded : ∀ i x, (σ.tasks i).Succeeds x → ∃ e ∈ σ.log, e.actor = i ∧ e.RecordEnds x
  /-- Such a runner finds no successor of `x` reported. -/
  fresh : ∀ i x, (σ.tasks i).Succeeds x → ∀ p ∈ σ.log, p.event.reportsSuccessor x = false
  /-- Every successor report follows its runner's record. -/
  reported : ∀ p ∈ σ.log, ∀ x, p.event.reportsSuccessor x = true →
    ∃ e ∈ σ.log, e.actor = p.actor ∧ e.RecordEnds x
  /-- No action has two successors reported. -/
  once : ∀ x, σ.log.countP (·.event.reportsSuccessor x) ≤ 1

namespace SuccessorInv

lemma init (s : Store) : SuccessorInv (.init s) where
  recorded _ _ hx := hx.elim
  fresh _ _ hx := hx.elim
  reported _ hp := by cases hp
  once _ := by simp [System.init]

variable {s₀ : Store} {σ : System}

/-- Two runners past a record of `x` are one: each holds a record that ended `x`, and only one
entry ends it. -/
lemma succeeder_unique (hs₀ : s₀.WellFormed) (hσ : Reachable s₀ σ) (hinv : SuccessorInv σ)
    {i j : Nat} {x : ActionId} (hi : (σ.tasks i).Succeeds x) (hj : (σ.tasks j).Succeeds x) :
    i = j := by
  obtain ⟨e, he, rfl, -, hend⟩ := hinv.recorded i x hi
  obtain ⟨e', he', rfl, -, hend'⟩ := hinv.recorded j x hj
  rw [hσ.linked.ends_unique hs₀ he he' hend hend']

/-- While `x` is live, no successor of it has been reported: a report follows an end. -/
lemma unreported_of_live (hs₀ : s₀.WellFormed) (hσ : Reachable s₀ σ) (hinv : SuccessorInv σ)
    {x : ActionId} (hl : σ.store.Live x) : ∀ p ∈ σ.log, p.event.reportsSuccessor x = false := by
  intro p hp
  by_contra hrep
  obtain ⟨e, he, -, -, hend⟩ := hinv.reported p hp x (by simpa using hrep)
  exact hσ.linked.not_live_of_mem hs₀ he hend hl

/-- **One step preserves the invariant.** -/
theorem step (hs₀ : s₀.WellFormed) (hσ : Reachable s₀ σ) (hinv : SuccessorInv σ) {σ' : System}
    (h : Step σ σ') : SuccessorInv σ' := by
  obtain ⟨i, t, e, hacts, rfl⟩ := h.acts
  -- What the old log holds, the new one holds.
  have evidence : ∀ {j x}, (∃ n ∈ σ.log, n.actor = j ∧ n.RecordEnds x) →
      ∃ n ∈ (σ.take i t e).log, n.actor = j ∧ n.RecordEnds x :=
    fun ⟨n, hn, ha, hr⟩ => ⟨n, (σ.log_sublist_take i t e).subset hn, ha, hr⟩
  -- The step's own report of a successor of `x` comes from `i`, past its record of `x`.
  have own : ∀ {x ev}, e = some ev → ev.reportsSuccessor x = true → (σ.tasks i).Succeeds x := by
    rintro x ev rfl hrep
    obtain ⟨rep, rfl, hsome⟩ := Event.reportsSuccessor_iff.1 hrep
    rw [hacts.processed_event]
    exact ⟨rfl, hsome⟩
  constructor
  · -- A runner past a record of `x` was so before, or its record just moved `x`.
    intro j x hx
    rcases σ.take_tasks_cases i t e j with ⟨rfl, ht⟩ | ⟨-, ht⟩ <;> rw [ht] at hx
    · rcases hacts.succeeds hx with hold | ⟨a, result, now, n, s', -, rfl, hmove, hn⟩
      · exact evidence (hinv.recorded j x hold)
      · exact ⟨_, System.mem_take_log.2 (.inr ⟨_, rfl, rfl⟩), rfl,
          Entry.recordEnds_of_moved j hmove hn⟩
    · exact evidence (hinv.recorded j x hx)
  · intro j x hx p hp
    rcases System.mem_take_log.1 hp with hold | ⟨ev, rfl, rfl⟩
    · rcases σ.take_tasks_cases i t e j with ⟨rfl, ht⟩ | ⟨-, ht⟩ <;> rw [ht] at hx
      · rcases hacts.succeeds hx with htask | ⟨a, result, now, n, s', -, -, hmove, hn⟩
        · exact hinv.fresh j x htask p hold
        · -- The record found `x` live, so nothing had ended it.
          exact unreported_of_live hs₀ hσ hinv (Store.move_moved hmove hn).2 p hold
      · exact hinv.fresh j x hx p hold
    · -- The step's own report of a successor of `x` would make `i` a second runner past a
      -- record of `x`.
      by_contra hrep
      have hi := own rfl (by simpa using hrep)
      rcases σ.take_tasks_cases i t _ j with ⟨rfl, ht⟩ | ⟨hj, ht⟩ <;> rw [ht] at hx
      · obtain ⟨rep, rfl, -⟩ := Event.reportsSuccessor_iff.1 (by simpa using hrep)
        rw [hacts.idle_of_processed] at hx
        exact hx
      · exact hj (succeeder_unique hs₀ hσ hinv hx hi)
  · -- A report is an old one, or the step's own, made past a record.
    intro p hp x hrep
    rcases System.mem_take_log.1 hp with hold | ⟨ev, rfl, rfl⟩
    · exact evidence (hinv.reported p hold x hrep)
    · exact evidence (hinv.recorded i x (own rfl hrep))
  · -- The step's own report of a successor finds none in the log.
    intro x
    rw [System.take_log, List.countP_append]
    rcases e with _ | ev
    · simpa using hinv.once x
    · by_cases hrep : ev.reportsSuccessor x = true
      · have hnone : σ.log.countP (·.event.reportsSuccessor x) = 0 :=
          List.countP_eq_zero.2 fun p hp => by simp [hinv.fresh i x (own rfl hrep) p hp]
        rw [hnone]
        simp [hrep]
      · simpa [hrep] using hinv.once x

/-- The invariant holds of every reachable state. -/
theorem reachable (hs₀ : s₀.WellFormed) (h : Reachable s₀ σ) : SuccessorInv σ :=
  h.induction (init s₀) fun hσ hinv hstep => hinv.step hs₀ hσ hstep

/-- A successor report names the record that ended the action: the one entry that ended it,
made by the reporting runner. -/
lemma ended_by_record (hs₀ : s₀.WellFormed) (h : Reachable s₀ σ) (hinv : SuccessorInv σ)
    {p : Entry} {x : ActionId} (hp : p ∈ σ.log) (hrep : p.event.reportsSuccessor x = true) :
    ∃ e ∈ σ.log, e.actor = p.actor ∧ e.RecordEnds x ∧ ∀ e' ∈ σ.log, e'.Ends x → e' = e := by
  obtain ⟨e, he, ha, hrec⟩ := hinv.reported p hp x hrep
  exact ⟨e, he, ha, hrec, fun e' he' hend => h.linked.ends_unique hs₀ he' he hend hrec.2⟩

end SuccessorInv

/-- **A successor follows its runner's own record.** Over every interleaving of runners with
each other and with every other client of a well-formed table, a successor of action `x` is
reported at most once, and only by the runner that started `x` and whose record of the
handler's result was the one entry that ended `x`. -/
theorem Reachable.successor_follows_own_record {s₀ : Store} {σ : System}
    (hs₀ : s₀.WellFormed) (h : Reachable s₀ σ) (x : ActionId) :
    σ.log.countP (·.event.reportsSuccessor x) ≤ 1 ∧
    ∀ p ∈ σ.log, p.event.reportsSuccessor x = true →
      (∃ e ∈ σ.log, e.actor = p.actor ∧ e.Starts x) ∧
      ∃ e ∈ σ.log, e.actor = p.actor ∧ e.RecordEnds x ∧ ∀ e' ∈ σ.log, e'.Ends x → e' = e := by
  have hinv := SuccessorInv.reachable hs₀ h
  refine ⟨hinv.once x, fun p hp hrep => ⟨?_, hinv.ended_by_record hs₀ h hp hrep⟩⟩
  -- A report made without a start has no successor.
  obtain ⟨rep, hev, hsome⟩ := Event.reportsSuccessor_iff.1 hrep
  rcases (DispatchInv.reachable hs₀ h).reported p hp x (.ok rep) hev with ⟨st, rfl⟩ | hstart
  · cases hsome
  · exact hstart

/-! ## Runs of an hourly action -/

/-- An action of hook `h` repeating every hour from the first second of 2024. -/
def hourly : Action :=
  { hook := "h", args := .empty,
    schedule := .interval (.ofSeconds 1704067200) ⟨3600, by decide, by decide⟩ }

/-- Client 2 saves `hourly`, due at once, and runner 0 reads it pending, starts it and
dispatches it there; the handler succeeds. -/
lemma hourly_dispatched : ∃ σ b, Reachable {} σ ∧
    σ.tasks 0 = .record ⟨1⟩ b (.ok ()) (.ofSeconds 1704067200) ∧
    σ.store = (Event.write (.start ⟨1⟩ (.ofSeconds 1704067200))).apply
      ((Event.write (.insert hourly (.ofSeconds 1704067200) (.ofSeconds 1704067200))).apply {}) ∧
    b.action.isRecurring = true ∧ (Text.trimBlank b.action.hook).isEmpty = false ∧
    ∃ e ∈ σ.log, e.actor = 0 ∧ e.Starts ⟨1⟩ := by
  let t₀ : Instant := .ofSeconds 1704067200
  let s₁ := (Event.write (.insert hourly t₀ t₀)).apply {}
  let σ₁ := (System.init {}).take 2 .idle (some (.write (.insert hourly t₀ t₀)))
  have h₁ : Step (.init {}) σ₁ := .write 2 (.insert hourly t₀ t₀) trivial
  let σ₂ := σ₁.take 0 (.fetch ⟨1⟩ t₀) none
  have h₂ : Step σ₁ σ₂ := .move 0 (.begin ⟨1⟩ t₀)
  obtain ⟨b, _, hfetch, hb⟩ := run_ok_of_check (m := Store.fetch ⟨1⟩) (s := s₁)
    (p := fun b => b.status == .pending && b.action.isRecurring &&
      !(Text.trimBlank b.action.hook).isEmpty) (by decide +kernel)
  simp only [Bool.and_eq_true, beq_iff_eq, Bool.not_eq_true'] at hb
  obtain ⟨⟨hpending, hrecur⟩, hhook⟩ := hb
  let σ₃ := σ₂.take 0 (.start ⟨1⟩ b t₀) none
  have h₃ : Step σ₂ σ₃ := .move 0 (.pending hfetch hpending)
  obtain ⟨n, _, hmove, hone⟩ := run_ok_of_check
    (m := Store.move ⟨1⟩ .inProgress [.pending] (Row.started t₀) t₀) (s := s₁) (p := (· == 1))
    (by decide +kernel)
  let σ₄ := σ₃.take 0 (.dispatch ⟨1⟩ b t₀) (some (.write (.start ⟨1⟩ t₀)))
  have h₄ : Step σ₃ σ₄ := .move 0 (.started hmove (by simp at hone; omega))
  let σ₅ := σ₄.take 0 (.record ⟨1⟩ b (.ok ()) t₀) (some (.dispatch ⟨1⟩))
  have h₅ : Step σ₄ σ₅ := .move 0 (.dispatch (.ok ()))
  refine ⟨σ₅, b, .tail (.tail (.tail (.tail (.single h₁) h₂) h₃) h₄) h₅, rfl, rfl, hrecur, hhook,
    ⟨0, .write (.start ⟨1⟩ t₀), s₁, (Event.write (.start ⟨1⟩ t₀)).apply s₁⟩, ?_, rfl,
    Entry.starts_of_pending 0 t₀ (by decide +kernel) (by decide +kernel)⟩
  simp only [σ₅, σ₄, System.take, List.mem_append, List.mem_singleton]
  exact .inl (.inr rfl)

/-- The runner's record of success ends the hourly action, and it saves and reports a
successor: the report comes from the runner that started the action, and its record is the
one entry that ended it. -/
theorem successor_follows_hourly_record :
    ∃ σ, ({} : Store).WellFormed ∧ Reachable {} σ ∧
      (∃ p ∈ σ.log, p.event.reportsSuccessor ⟨1⟩ = true) ∧
      σ.log.countP (·.event.reportsSuccessor ⟨1⟩) ≤ 1 ∧
      ∀ p ∈ σ.log, p.event.reportsSuccessor ⟨1⟩ = true →
        (∃ e ∈ σ.log, e.actor = p.actor ∧ e.Starts ⟨1⟩) ∧
        ∃ e ∈ σ.log, e.actor = p.actor ∧ e.RecordEnds ⟨1⟩ ∧
          ∀ e' ∈ σ.log, e'.Ends ⟨1⟩ → e' = e := by
  obtain ⟨σ₅, b, hreach, htask, hstore, hrecur, hhook, -⟩ := hourly_dispatched
  let t₀ : Instant := .ofSeconds 1704067200
  -- Runner 0 records the success.
  obtain ⟨n, _, hmove, hone⟩ := run_ok_of_check
    (m := Store.move ⟨1⟩ (recordedStatus (.ok ())) [.pending, .inProgress] (Row.attempted t₀) t₀)
    (s := σ₅.store) (p := (· == 1)) (by rw [hstore]; decide +kernel)
  let σ₆ := σ₅.take 0 (.succeed ⟨1⟩ b (outcomeOf (.ok ())))
    (some (.write (recordStmt ⟨1⟩ (.ok ()) t₀)))
  have h₆ : Step σ₅ σ₆ := .move 0 (by rw [htask]; exact .recorded hmove (by simp at hone; omega))
  -- It saves the successor an hour on, and reports it.
  have hw : σ₆.store.Writable := by
    show ((Event.write (recordStmt ⟨1⟩ (.ok ()) t₀)).apply σ₅.store).Writable
    rw [hstore]
    decide +kernel
  let t₁ : Instant := .ofSeconds 1704070800
  let y : ActionId := ⟨σ₆.store.lastId + 1⟩
  have hsave : (Store.saveAt b.action t₁ t₀).run σ₆.store =
      .ok y (σ₆.store.append b.action t₁ t₀) := by
    rw [Store.saveAt_run hw, if_neg (by simp [hhook])]
  let r : Except QueueError ProcessReport :=
    .ok { id := ⟨1⟩, outcome := outcomeOf (.ok ()), successor := some y }
  let σ₇ := σ₆.take 0 (.finished ⟨1⟩ r) (some (.write (.insert b.action t₁ t₀)))
  have h₇ : Step σ₆ σ₇ := .move 0 (.successor t₁ t₀ hrecur hsave)
  let σ₈ := σ₇.take 0 .idle (some (.processed ⟨1⟩ r))
  have h₈ : Step σ₇ σ₈ := .move 0 .report
  have hreach₈ : Reachable {} σ₈ := ((hreach.tail h₆).tail h₇).tail h₈
  refine ⟨σ₈, Store.WellFormed.empty, hreach₈, ⟨⟨0, .processed ⟨1⟩ r, σ₇.store, σ₇.store⟩, ?_, ?_⟩,
    Reachable.successor_follows_own_record Store.WellFormed.empty hreach₈ ⟨1⟩⟩
  · simp only [σ₈, System.take, List.mem_append, List.mem_singleton]
    exact .inr rfl
  · simp [r, Event.reportsSuccessor]

/-- **Housekeeping that fails a running recurring action ends its recurrence.** Client 2 saves
`hourly`, due at once; runner 0 starts and dispatches it; while the handler runs, client 1's
housekeeping fails every action started by then; the runner's record of success then moves
nothing, and it reports the action interrupted. The action was started by a runner and ended
failed, its hook is not consistently failing and its schedule has a next run; yet in no
continuation of the run is a successor of it reported. -/
theorem housekeeping_failure_ends_recurrence :
    hourly.isRecurring = true ∧
    hourly.schedule.next (some (.ofSeconds 1704067200)) = .ok (some (.ofSeconds 1704070800)) ∧
    ∃ σ, Reachable {} σ ∧ (∃ e ∈ σ.log, e.actor = 0 ∧ e.Starts ⟨1⟩) ∧
      (∃ p ∈ σ.log, p.actor = 0 ∧
        p.event = .processed ⟨1⟩ (.ok { id := ⟨1⟩, outcome := .interrupted .failed })) ∧
      (∃ r ∈ σ.store.rows, r.id = ⟨1⟩ ∧ r.status = .failed) ∧
      (Store.consistentlyFailing "h" 5).run σ.store = .ok false σ.store ∧
      ∀ σ', Relation.ReflTransGen Step σ σ' →
        ∀ p ∈ σ'.log, p.event.reportsSuccessor ⟨1⟩ = false := by
  obtain ⟨σ₅, b, hreach, htask, hstore, -, -, hstart⟩ := hourly_dispatched
  let t₀ : Instant := .ofSeconds 1704067200
  -- Client 1's housekeeping fails every action started by `t₀`.
  let σ₆ := σ₅.take 1 (σ₅.tasks 1) (some (.write (.failStale t₀ t₀)))
  have h₆ : Step σ₅ σ₆ := .write 1 (.failStale t₀ t₀) trivial
  let s₆ := (Event.write (.failStale t₀ t₀)).apply σ₅.store
  -- The runner's record moves nothing; it reads the status, failed, and reports.
  obtain ⟨n, _, hmove, hzero⟩ := run_ok_of_check
    (m := Store.move ⟨1⟩ (recordedStatus (.ok ())) [.pending, .inProgress] (Row.attempted t₀) t₀)
    (s := s₆) (p := (· == 0)) (by simp only [s₆]; rw [hstore]; decide +kernel)
  obtain rfl : n = 0 := by simpa using hzero
  let σ₇ := σ₆.take 0 (.checkRecord ⟨1⟩) (some (.write (recordStmt ⟨1⟩ (.ok ()) t₀)))
  have h₇ : Step σ₆ σ₇ := .move 0 (by
    simp only [σ₆, System.take_tasks, Function.update_eq_self, htask]
    exact .unrecorded hmove)
  let s₇ := (Event.write (recordStmt ⟨1⟩ (.ok ()) t₀)).apply s₆
  obtain ⟨st, _, hstatus, hfailed⟩ := run_ok_of_check (m := Store.status ⟨1⟩) (s := s₇)
    (p := (· == .failed)) (by simp only [s₇, s₆]; rw [hstore]; decide +kernel)
  obtain rfl : st = .failed := by simpa using hfailed
  let r : Except QueueError ProcessReport := .ok { id := ⟨1⟩, outcome := .interrupted .failed }
  let σ₈ := σ₇.take 0 (.finished ⟨1⟩ r) none
  have h₈ : Step σ₇ σ₈ := .move 0 (.interrupted hstatus)
  let σ₉ := σ₈.take 0 .idle (some (.processed ⟨1⟩ r))
  have h₉ : Step σ₈ σ₉ := .move 0 .report
  have hsteps : Relation.ReflTransGen Step σ₅ σ₉ :=
    (((Relation.ReflTransGen.single h₆).tail h₇).tail h₈).tail h₉
  have hreach₉ : Reachable {} σ₉ := Relation.ReflTransGen.trans hreach hsteps
  -- The table at the end, from the one the dispatch left.
  have hfinal : σ₉.store = (Event.write (recordStmt ⟨1⟩ (.ok ()) t₀)).apply
      ((Event.write (.failStale t₀ t₀)).apply σ₅.store) := rfl
  -- The housekeeping entry is the one that ended action 1.
  let f : Entry := ⟨1, .write (.failStale t₀ t₀), σ₅.store, s₆⟩
  have hend : f.Ends ⟨1⟩ := by
    simp only [f, Entry.Ends, s₆]
    rw [hstore]
    exact ⟨by decide +kernel, by decide +kernel⟩
  have hf : f ∈ σ₉.log := by
    simp only [σ₉, σ₈, σ₇, σ₆, System.take, List.mem_append, List.mem_singleton]
    exact .inl (.inl (.inr rfl))
  refine ⟨rfl, by decide, σ₉, hreach₉, ?_, ⟨⟨0, .processed ⟨1⟩ r, s₇, s₇⟩, ?_, rfl, rfl⟩, ?_, ?_, ?_⟩
  · obtain ⟨e, he, hact, hst⟩ := hstart
    exact ⟨e, (log_sublist_of_steps hsteps).subset he, hact, hst⟩
  · simp only [σ₉, System.take, List.mem_append, List.mem_singleton]
    exact .inr rfl
  · rw [hfinal, hstore]
    decide +kernel
  · obtain ⟨l, hnew, hrun⟩ := Store.consistentlyFailing_run (s := σ₉.store) "h" (n := 5)
      (by decide) (by rw [hfinal, hstore]; decide +kernel)
    have hlen : (σ₉.store.finished "h").length = 1 := by
      rw [hfinal, hstore]
      decide +kernel
    rw [hrun, decide_eq_false]
    rintro ⟨-, hle, -⟩
    rw [hnew.1.length_eq, hlen] at hle
    omega
  · -- A successor report would name the record that ended action 1, but housekeeping did.
    intro σ' hσ' p hp
    by_contra hrep
    have hreach' : Reachable {} σ' := Relation.ReflTransGen.trans hreach₉ hσ'
    obtain ⟨e, -, -, ⟨⟨result, now, hev⟩, -⟩, huniq⟩ :=
      (SuccessorInv.reachable Store.WellFormed.empty hreach').ended_by_record
        Store.WellFormed.empty hreach' hp (by simpa using hrep)
    obtain rfl := huniq f ((log_sublist_of_steps hσ').subset hf) hend
    rcases result with _ | ⟨⟩ <;> cases hev

end JobQueue
