import JobQueue.Proofs.Cadence
import JobQueue.Proofs.Staking
import JobQueue.Proofs.Dispatch

/-!
# The successor of a recurring action

Once a recurring action has run and its result is recorded, the runner schedules the next
run. It asks whether the hook keeps failing (its latest finished runs, newest first, all
failed), lets the failure policy decide whether to suppress the successor, and otherwise
asks the schedule for its next run after both the clock and a second past the slot that ran.
A run found is saved as a new pending action; a save that fails is left out.

This file states all of that as one equation for `Runner.process`, and shows what the new
row holds. For an interval schedule whose start is outside a leap second it proves that the
run chosen is the first grid point past that instant, in a later second than the slot that
ran. A start inside a leap second breaks this: the run chosen can fall in the very second
that ran.

**Main statements**

* `Store.recentOutcomes_run`, `Store.consistentlyFailing_run` — the history query, as the
  newest-first list of the hook's finished runs.
* `Runner.execute_recorded` — an execution that recorded a result read a pending action and
  left a writable store.
* `Runner.scheduleSuccessor_run` — scheduling a successor, as an equation.
* `Runner.process_schedules_successor` — processing an action: no row unless the action
  recorded a result and is recurring; then one row exactly when the policy allows and the
  schedule has a next run; for an interval schedule, the first grid point past the slot.
* `Runner.leap_start_repeats_slot` — an interval started inside a leap second stores the
  successor in the second that ran.
-/

namespace JobQueue

/-! ## Jobs as state transformers -/

namespace Job

variable {α β : Type}

lemma run_bind (j : Job α) (f : α → Job β) (w : World) :
    (j >>= f).run w = match j.run w with
      | .ok (.ok a) w₀ => (f a).run w₀
      | .ok (.error e) w₀ => .ok (.error e) w₀
      | .error p w₀ => .error p w₀ := by
  rw [ExceptT.run_bind]
  show EStateM.bind _ _ w = _
  unfold EStateM.bind
  rcases j.run w with ⟨_ | _, _⟩ | ⟨_, _⟩ <;> rfl

/-- A job made of two steps succeeded when each did, the second from where the first left. -/
lemma bind_run_ok {j : Job α} {f : α → Job β} {w w' : World} {b : β}
    (h : (j >>= f).run w = .ok (.ok b) w') :
    ∃ a w₀, j.run w = .ok (.ok a) w₀ ∧ (f a).run w₀ = .ok (.ok b) w' := by
  rw [run_bind] at h
  rcases hj : j.run w with ⟨e | a, w₀⟩ | ⟨p, w₀⟩ <;> rw [hj] at h
  · cases h
  · exact ⟨a, w₀, rfl, h⟩
  · cases h

lemma map_run (g : α → β) (j : Job α) (w : World) :
    (g <$> j).run w = match j.run w with
      | .ok (.ok a) w₀ => .ok (.ok (g a)) w₀
      | .ok (.error e) w₀ => .ok (.error e) w₀
      | .error p w₀ => .error p w₀ := by
  rw [ExceptT.run_map]
  show EStateM.map _ _ w = _
  unfold EStateM.map
  rcases j.run w with ⟨_ | _, _⟩ | ⟨_, _⟩ <;> rfl

lemma pure_run (a : α) (w : World) : (pure a : Job α).run w = .ok (.ok a) w := rfl

lemma throw_run (e : QueueError) (w : World) : (throw e : Job α).run w = .ok (.error e) w := rfl

lemma work_run (m : Work α) (w : World) : (Job.work m).run w = match m w with
    | .ok a w' => .ok (.ok a) w'
    | .error p w' => .error p w' := by
  show EStateM.map _ _ w = _
  unfold EStateM.map
  rcases m w with ⟨a, w'⟩ | ⟨p, w'⟩ <;> rfl

lemma store_run (m : StoreM α) (w : World) : (Job.store m).run w = match m.run w.store with
    | .ok a s => .ok (.ok a) { w with store := s }
    | .error e s => .ok (.error e) { w with store := s } := rfl

lemma now_run (w : World) : (Job.work Work.now).run w = .ok (.ok w.clock) w := rfl

/-- A store operation that succeeded as a job succeeded on the world's store, and changed
nothing else. -/
lemma store_run_ok {m : StoreM α} {w w' : World} {a : α}
    (h : (Job.store m).run w = .ok (.ok a) w') :
    m.run w.store = .ok a w'.store ∧ w' = { w with store := w'.store } := by
  rw [store_run] at h
  rcases hm : m.run w.store with ⟨a', s⟩ | ⟨e, s⟩ <;> rw [hm] at h
  · cases h
    exact ⟨rfl, rfl⟩
  · cases h

/-- A store operation whose result came back as a success succeeded on the world's store. -/
lemma work_store_run_ok {m : StoreM α} {w w' : World} {a : α}
    (h : (Job.work (Work.store m)).run w = .ok (.ok (.ok a)) w') :
    m.run w.store = .ok a w'.store := by
  rw [work_run] at h
  unfold Work.store at h
  rcases hm : m.run w.store with ⟨a', s⟩ | ⟨e, s⟩ <;> rw [hm] at h
  · cases h
    rfl
  · cases h

end Job

/-! ## The history of a hook -/

namespace Store

/-- Listing order compares the stored scheduled time, then the id. -/
instance : Std.TransCmp timeOrder :=
  inferInstanceAs (Std.TransCmp (compareLex (compareOn fun r : Row => r.scheduledAt.text)
    (compareOn fun r : Row => r.id.val)))

lemma timeOrder_ne_gt (r₁ r₂ : Row) :
    (timeOrder r₁ r₂ != .gt) = (timeOrder r₁ r₂).isLE := by
  cases timeOrder r₁ r₂ <;> rfl

/-- A sort in listing order leaves every row no later than those after it. -/
lemma sortBy_timeOrder_pairwise (rows : List Row) :
    (sortBy timeOrder rows).Pairwise fun r₁ r₂ => (timeOrder r₁ r₂).isLE := by
  have htrans : ∀ a b c : Row, (timeOrder a b != .gt) = true → (timeOrder b c != .gt) = true →
      (timeOrder a c != .gt) = true := by
    intro a b c hab hbc
    rw [timeOrder_ne_gt] at hab hbc ⊢
    exact Std.TransCmp.isLE_trans hab hbc
  have htotal : ∀ a b : Row, ((timeOrder a b != .gt) || (timeOrder b a != .gt)) = true := by
    intro a b
    rw [@Std.OrientedCmp.eq_swap Row timeOrder _ a b]
    cases timeOrder b a <;> rfl
  simpa only [sortBy, timeOrder_ne_gt] using List.pairwise_mergeSort htrans htotal rows

/-- The finished runs of a hook: its complete and failed rows, whatever their arguments. -/
def finished (hook : String) (s : Store) : List Row :=
  s.rows.filter fun r => r.hook == hook && r.statusIn [.complete, .failed]

/-- **A hook's finished runs, newest first**: every one of them, each no earlier in listing
order (stored scheduled time, then id) than those after it. -/
def NewestFirst (hook : String) (s : Store) (l : List Row) : Prop :=
  l.Perm (s.finished hook) ∧ l.Pairwise fun r₁ r₂ => (timeOrder r₂ r₁).isLE

/-- **The newest `n` runs all failed**, there being at least `n`; never for `n = 0`. -/
def Failing (n : Nat) (l : List Row) : Prop :=
  0 < n ∧ n ≤ l.length ∧ ∀ q ∈ l.take n, q.status = .failed

instance (n : Nat) (l : List Row) : Decidable (Failing n l) :=
  inferInstanceAs (Decidable (_ ∧ _ ∧ _))

variable {s : Store} {n : Nat}

/-- **The history query** reads the statuses of the hook's `n` newest finished runs, for
any limit that fits a machine word and any table of fewer than `2 ^ 63` rows. -/
lemma recentOutcomes_run (hook : String) (hn : n < 2 ^ 64) (hl : s.rows.length < 2 ^ 63) :
    ∃ l, s.NewestFirst hook l ∧
      (recentOutcomes hook n).run s = .ok ((l.take n).map (·.status)) s := by
  have hperm := List.mergeSort_perm (s.finished hook) fun a b => timeOrder a b != .gt
  refine ⟨(sortBy timeOrder (s.finished hook)).reverse, ⟨?_, ?_⟩, ?_⟩
  · exact (List.reverse_perm _).trans hperm
  · rw [List.pairwise_reverse]
    exact sortBy_timeOrder_pairwise _
  · have hlen : (sortBy timeOrder (s.finished hook)).reverse.length < 2 ^ 63 := by
      rw [List.length_reverse, sortBy, hperm.length_eq]
      exact Nat.lt_of_le_of_lt (List.length_filter_le _ _) hl
    simp only [recentOutcomes, EStateM.run_bind, EStateM.run_get]
    change EStateM.run (pure ((window (signedWord n) 0
      (sortBy timeOrder (s.finished hook)).reverse).map (·.status))) s = _
    rw [window_signedWord hn hlen]
    rfl

/-- **Whether a hook is consistently failing** is whether its newest runs all failed. -/
lemma consistentlyFailing_run (hook : String) (hn : n < 2 ^ 64) (hl : s.rows.length < 2 ^ 63) :
    ∃ l, s.NewestFirst hook l ∧
      (consistentlyFailing hook n).run s = .ok (decide (Failing n l)) s := by
  obtain ⟨l, hnew, hrun⟩ := recentOutcomes_run hook hn hl
  refine ⟨l, hnew, ?_⟩
  unfold consistentlyFailing
  by_cases hz : n = 0
  · subst hz
    simp [Failing]
  · have hb : (((l.take n).map (·.status)).length == n &&
        ((l.take n).map (·.status)).all fun x => x == .failed) = decide (Failing n l) := by
      rw [Bool.eq_iff_iff, Bool.and_eq_true, decide_eq_true_iff, Failing]
      simp only [List.length_map, List.length_take, beq_iff_eq, List.all_map, List.all_eq_true,
        Function.comp_apply, min_eq_left_iff]
      exact ⟨fun h => ⟨Nat.pos_of_ne_zero hz, h⟩, fun h => h.2⟩
    simp only [beq_iff_eq, hz, if_false, EStateM.run_bind, hrun, hb]
    rfl

end Store

/-! ## What an execution read and wrote -/

lemma mapError_eq_ok {ε ε' α : Type} {x : Except ε α} {f : ε → ε'} {a : α} :
    x.mapError f = .ok a ↔ x = .ok a := by
  cases x <;> simp [Except.mapError]

/-- A row that decodes holds its scheduled time as a stamp that reads back. -/
lemma Row.decode_scheduledAt {r : Row} {a : StoredAction} (h : r.decode = .ok a) :
    r.scheduledAt.read = .ok a.scheduledAt := by
  simp only [decode, except_bind_eq_ok] at h
  obtain ⟨_, -, _, -, t, ht, h⟩ := h
  -- The later columns do not touch the scheduled time.
  have hat : a.scheduledAt = t := by
    split at h <;>
    · simp only [except_bind_eq_ok] at h
      obtain ⟨_, -, _, -, _, -, h⟩ := h
      cases h
      rfl
  rw [hat]
  exact mapError_eq_ok.1 ht

namespace Store

variable {s s' : Store} {id : ActionId} {a : StoredAction}

/-- A read of an action changes nothing, and finds a row with the id that decodes to it. -/
lemma fetch_ok (h : (fetch id).run s = .ok a s') :
    s' = s ∧ ∃ r, s.row? id = some r ∧ r.decode = .ok a := by
  rw [fetch_run] at h
  rcases hr : s.row? id with _ | r <;> simp only [hr] at h
  · cases h
  · rcases hd : r.decode with e | b <;> simp only [hd] at h
    · cases h
    · cases h
      exact ⟨rfl, r, rfl, hd⟩

/-- **The second after a stored action's slot exists**: whatever a row holds, a scheduled time
read back from it lies before the year 10000 is a day old. -/
lemma fetch_addSeconds_one (h : (fetch id).run s = .ok a s') :
    ∃ ran, a.scheduledAt.addSeconds? 1 = some ran := by
  obtain ⟨-, r, -, hd⟩ := fetch_ok h
  obtain ⟨hin, hlt⟩ := Stamp.read_secs_lt (Row.decode_scheduledAt hd)
  exact Instant.addSeconds?_one_isSome hin (by change a.scheduledAt.secs < 8210266876799; omega)

/-- **A move that went through leaves a writable store**: it took the write lock. -/
lemma transition_ok_writable {target : Status} {sources : List Status} {extra : Row → Row}
    {now : Instant} (h : (transition id target sources extra now).run s = .ok () s') :
    s'.Writable := by
  by_cases hw : s.Writable
  · simp only [transition, EStateM.run_bind, move_run hw] at h
    by_cases hz : (s.rows.filter fun r => r.id == id && r.statusIn sources).length = 0
    · -- No row moved: the second read names the status, and the move is refused.
      simp only [hz, beq_self_eq_true, if_true, EStateM.run_bind, status_run] at h
      generalize remap _ _ s = s₁ at h
      cases hr : s₁.row? id <;> simp [hr] at h
    · simp only [hz, beq_iff_eq, if_false] at h
      cases h
      exact hw
  · obtain ⟨d, hd⟩ := beginWrite_run_of_not_writable hw
    simp [transition, move, EStateM.run_bind, hd] at h

/-- **Saving an action** on a writable store appends its row under the next id, unless its
hook is blank. -/
lemma saveAt_run {x : Action} {due now : Instant} (hw : s.Writable) :
    (saveAt x due now).run s = if (Text.trimBlank x.hook).isEmpty then
        .error (.invalidAction "hook name must not be empty") s
      else .ok ⟨s.lastId + 1⟩ (s.append x due now) := by
  unfold saveAt validate
  split_ifs with hb
  · rfl
  · rw [EStateM.run_bind]
    exact insert_run x due now hw

end Store

namespace Instant

variable {a b : Instant}

lemma le_later (a b : Instant) : b ≤ a.later b := by
  unfold later
  split_ifs with h
  · exact Int.le_refl _
  · change b.key ≤ a.key
    exact Int.not_lt.1 h

lemma later_isLeap (ha : a.isLeap = false) (hb : b.isLeap = false) :
    (a.later b).isLeap = false := by
  unfold later
  split_ifs <;> assumption

/-- An instant and its truncation to the second are stored alike. -/
lemma stamp_truncSeconds (t : Instant) : t.truncSeconds.stamp = t.stamp := by
  simp only [stamp, format, truncSeconds_secs, nanos_div, truncSeconds_isLeap]

end Instant

/-- **The next run of an interval schedule after a slot that ran** is the first grid point past
both the clock and the second after the slot, and it lies in a later second than the slot,
when neither the start nor the clock lies inside a leap second. -/
theorem Schedule.interval_after_slot {start now slot ran t : Instant} {p : Period}
    (hs : start.isLeap = false) (hr : start.inRange = true) (hn : now.isLeap = false)
    (hran : slot.addSeconds? 1 = some ran)
    (ht : (interval start p).next (some (now.later ran)) = .ok (some t)) :
    slot < t.truncSeconds ∧ ∃ k : Nat, start.addSeconds? ((k * p.secs : Nat) : Int) = some t ∧
      now.later ran < t ∧
      ∀ j < k, ∀ u, start.addSeconds? ((j * p.secs : Nat) : Int) = some u →
        u ≤ now.later ran := by
  have hafter := Instant.later_isLeap hn (Instant.addSeconds?_one hran).2
  obtain ⟨k, hk, hlt, hleast⟩ := next_interval_least hs hr hafter ht
  -- The run is past the clock and the second after the slot, so past that second.
  have hle : ran ≤ t := by
    have := Instant.le_later now ran
    change ran.key ≤ (now.later ran).key at this
    change (now.later ran).key < t.key at hlt
    change ran.key ≤ t.key
    omega
  exact ⟨Instant.lt_truncSeconds_of_le hran hle, k, hk, hlt, hleast⟩

namespace Runner

variable {r : Runner} {id : ActionId} {w w₁ : World}

/-- **What an execution that recorded a result did**: it read the action, pending, from the
store it started on; its last write went through, so the store it left is writable; and the
outcome is a completion or a failure. -/
lemma execute_recorded {x : StoredAction} {o : Outcome}
    (h : (r.execute id).run w = .ok (.ok (.recorded x o)) w₁) :
    (Store.fetch id).run w.store = .ok x w.store ∧ x.status = .pending ∧ w₁.store.Writable ∧
      (o = .completed ∨ ∃ e, o = .failed e) := by
  unfold execute at h
  obtain ⟨now, w₀, hnow, h⟩ := Job.bind_run_ok h
  obtain ⟨stored, w₂, hfetch, h⟩ := Job.bind_run_ok h
  split_ifs at h with hpend
  · simp [Job.pure_run] at h
  obtain ⟨lift, w₃, hlog, h⟩ := Job.bind_run_ok h
  dsimp only at h
  -- A refused start ends the execution as skipped, and any other error aborts it.
  split at h
  · simp [Job.pure_run] at h
  · simp [Job.throw_run] at h
  obtain ⟨result, w₄, hdisp, h⟩ := Job.bind_run_ok h
  obtain ⟨lift', w₅, hrec, h⟩ := Job.bind_run_ok h
  -- Likewise for the record of the result.
  split at h
  · simp [Job.pure_run] at h
  · simp [Job.throw_run] at h
  simp only [Job.pure_run, EStateM.Result.ok.injEq, Except.ok.injEq, Execution.recorded.injEq] at h
  obtain ⟨⟨rfl, rfl⟩, rfl⟩ := h
  rw [Job.now_run] at hnow
  cases hnow
  obtain ⟨hf, -⟩ := Job.store_run_ok hfetch
  obtain ⟨hs, -⟩ := Store.fetch_ok hf
  rw [hs] at hf
  have hrec' := Job.work_store_run_ok hrec
  refine ⟨hf, by simpa using hpend, ?_, ?_⟩
  · cases result <;> exact Store.transition_ok_writable hrec'
  · cases result
    · exact .inr ⟨_, rfl⟩
    · exact .inl rfl

variable {P : Bool → StoredAction → Bool}

lemma scheduleSuccessor_eq (x : StoredAction) (w : World) :
    (r.scheduleSuccessor x).run w = match (r.successor x).run w with
      | .ok (.ok next) w' => .ok next w'
      | .ok (.error _) w' => .ok none w'
      | .error p w' => .error p w' := by
  unfold scheduleSuccessor Job.attempt
  show EStateM.bind _ _ w = _
  unfold EStateM.bind
  rcases (r.successor x).run w with ⟨_ | _, _⟩ | ⟨_, _⟩ <;> rfl

/-- **Scheduling a successor** under a failure policy that only decides, given what the
history query answers: nothing when the policy suppresses it; otherwise a panic on a fault of
the schedule, nothing when there is no next run or the save is refused for a blank hook, and
else a new row under the next id. -/
lemma scheduleSuccessor_run_of (hpol : ∀ f a, r.policy f a = pure (P f a)) {x : StoredAction}
    {ran : Instant} (hran : x.scheduledAt.addSeconds? 1 = some ran) {b : Bool}
    (hb : (Store.consistentlyFailing x.hook r.failureThreshold).run w.store = .ok b w.store)
    (hw : w.store.Writable) :
    (r.scheduleSuccessor x).run w =
      if P b x then .ok none w
      else match x.action.schedule.next (some (w.clock.later ran)) with
        | .error e => .error ⟨e.message⟩ w
        | .ok none => .ok none w
        | .ok (some t) =>
          if (Text.trimBlank x.hook).isEmpty then .ok none w
          else .ok (some ⟨w.store.lastId + 1⟩)
            { w with store := w.store.append x.action t w.clock } := by
  rw [scheduleSuccessor_eq]
  unfold successor
  rw [Job.run_bind, Job.store_run, hb]
  dsimp only
  rw [Job.run_bind, Job.work_run, hpol]
  simp only [pure, EStateM.pure]
  by_cases hp : P b x = true
  · simp only [hp, if_true]
    rfl
  simp only [hp, Bool.false_eq_true, if_false]
  rw [Job.run_bind, Job.now_run]
  dsimp only
  rw [hran, Option.getD_some, Job.run_bind, Job.work_run]
  -- The next run: a fault panics, none ends the job, and a run is saved.
  rcases hnext : x.action.schedule.next (some (w.clock.later ran)) with e | _ | t
  · rfl
  · rfl
  · simp only [Work.ofFault, pure, EStateM.pure]
    rw [Job.map_run, Job.store_run, Store.saveAt_run hw, StoredAction.hook]
    split_ifs <;> rfl

/-- **Scheduling a successor**, under a failure policy that only decides, when the history
query is exact: the policy sees whether the hook's newest finished runs all failed. -/
lemma scheduleSuccessor_run (hpol : ∀ f a, r.policy f a = pure (P f a)) {x : StoredAction}
    {ran : Instant} (hran : x.scheduledAt.addSeconds? 1 = some ran)
    (hn : r.failureThreshold < 2 ^ 64) (hl : w.store.rows.length < 2 ^ 63)
    (hw : w.store.Writable) :
    ∃ l, w.store.NewestFirst x.hook l ∧
      (r.scheduleSuccessor x).run w =
        if P (decide (Store.Failing r.failureThreshold l)) x then .ok none w
        else match x.action.schedule.next (some (w.clock.later ran)) with
          | .error e => .error ⟨e.message⟩ w
          | .ok none => .ok none w
          | .ok (some t) =>
            if (Text.trimBlank x.hook).isEmpty then .ok none w
            else .ok (some ⟨w.store.lastId + 1⟩)
              { w with store := w.store.append x.action t w.clock } := by
  obtain ⟨l, hnew, hcf⟩ := Store.consistentlyFailing_run x.hook hn hl
  exact ⟨l, hnew, scheduleSuccessor_run_of hpol hran hcf hw⟩

/-- **What an execution that ended early did**: it skipped the action, or was interrupted while
recording the result, and reported no successor. -/
lemma execute_final {rep : ProcessReport}
    (h : (r.execute id).run w = .ok (.ok (.final rep)) w₁) :
    rep.id = id ∧ rep.successor = none ∧
      ∃ st, rep.outcome = .skipped st ∨ rep.outcome = .interrupted st := by
  unfold execute at h
  obtain ⟨now, w₀, -, h⟩ := Job.bind_run_ok h
  obtain ⟨stored, w₂, -, h⟩ := Job.bind_run_ok h
  split_ifs at h
  · simp only [Job.pure_run, EStateM.Result.ok.injEq, Except.ok.injEq,
      Execution.final.injEq] at h
    obtain ⟨rfl, -⟩ := h
    exact ⟨rfl, rfl, _, .inl rfl⟩
  obtain ⟨lift, w₃, -, h⟩ := Job.bind_run_ok h
  dsimp only at h
  split at h
  · simp only [Job.pure_run, EStateM.Result.ok.injEq, Except.ok.injEq,
      Execution.final.injEq] at h
    obtain ⟨rfl, -⟩ := h
    exact ⟨rfl, rfl, _, .inl rfl⟩
  · simp [Job.throw_run] at h
  obtain ⟨result, w₄, -, h⟩ := Job.bind_run_ok h
  obtain ⟨lift', w₅, -, h⟩ := Job.bind_run_ok h
  split at h
  · simp only [Job.pure_run, EStateM.Result.ok.injEq, Except.ok.injEq,
      Execution.final.injEq] at h
    obtain ⟨rfl, -⟩ := h
    exact ⟨rfl, rfl, _, .inr rfl⟩
  · simp [Job.throw_run] at h
  · simp [Job.pure_run] at h

/-- An execution that ended early is the whole of processing. -/
lemma process_of_final {rep : ProcessReport}
    (h : (r.execute id).run w = .ok (.ok (.final rep)) w₁) :
    (r.process id).run w = .ok (.ok rep) w₁ := by
  unfold process
  rw [Job.run_bind, h]
  rfl

/-- **After a recorded result, processing schedules the successor** of a recurring action. -/
lemma process_of_recorded {x : StoredAction} {o : Outcome}
    (h : (r.execute id).run w = .ok (.ok (.recorded x o)) w₁) :
    (r.process id).run w =
      if x.action.isRecurring then
        match (r.scheduleSuccessor x).run w₁ with
        | .ok next w₂ => .ok (.ok { id, outcome := o, successor := next }) w₂
        | .error p w₂ => .error p w₂
      else .ok (.ok { id, outcome := o }) w₁ := by
  unfold process
  rw [Job.run_bind, h]
  dsimp only
  split_ifs
  · rw [Job.run_bind, Job.work_run, EStateM.run]
    rcases r.scheduleSuccessor x w₁ with ⟨next, w₂⟩ | ⟨p, w₂⟩ <;> rfl
  · rfl

/-- **Processing an action schedules at most one successor, as the policy and the schedule
say.** Take a failure policy that only decides. An execution that ended early is all that
processing does: no successor. When the result was recorded, as a completion or a failure,
the policy sees whether the hook's newest finished runs all failed; for a recurring action it
does not suppress, the schedule's next run after both the clock and the second past the slot
is saved as a new pending row, under the next id, stored at its whole second. A fault of the
schedule panics, and a run that is absent or refused adds nothing. For an interval schedule
whose start and clock are outside leap seconds, the new run is the first grid point past that
instant, in a later second than the slot. -/
theorem process_schedules_successor {P : Bool → StoredAction → Bool}
    (hpol : ∀ f a, r.policy f a = pure (P f a)) {e : Execution}
    (hexec : (r.execute id).run w = .ok (.ok e) w₁)
    (hn : r.failureThreshold < 2 ^ 64) (hl : w₁.store.rows.length < 2 ^ 63) :
    (∀ rep, e = .final rep →
      (r.process id).run w = .ok (.ok rep) w₁ ∧ rep.successor = none ∧
      ∃ st, rep.outcome = .skipped st ∨ rep.outcome = .interrupted st) ∧
    ∀ x o, e = .recorded x o → (o = .completed ∨ ∃ err, o = .failed err) ∧
      ∃ ran l, x.scheduledAt.addSeconds? 1 = some ran ∧ w₁.store.NewestFirst x.hook l ∧
        (r.process id).run w =
          (if x.action.isRecurring ∧
              P (decide (Store.Failing r.failureThreshold l)) x = false then
            match x.action.schedule.next (some (w₁.clock.later ran)) with
            | .error f => .error ⟨f.message⟩ w₁
            | .ok none => .ok (.ok { id, outcome := o }) w₁
            | .ok (some t) =>
              if (Text.trimBlank x.hook).isEmpty then .ok (.ok { id, outcome := o }) w₁
              else .ok (.ok { id, outcome := o, successor := some ⟨w₁.store.lastId + 1⟩ })
                { w₁ with store := w₁.store.append x.action t w₁.clock }
          else .ok (.ok { id, outcome := o }) w₁) ∧
        ∀ t, x.action.schedule.next (some (w₁.clock.later ran)) = .ok (some t) →
          Stamp.ofInstant t = Stamp.ofInstant t.truncSeconds ∧
          ∀ start p, x.action.schedule = .interval start p → start.isLeap = false →
            start.inRange = true → w₁.clock.isLeap = false →
            x.scheduledAt < t.truncSeconds ∧
            ∃ k : Nat, start.addSeconds? ((k * p.secs : Nat) : Int) = some t ∧
              w₁.clock.later ran < t ∧
              ∀ j < k, ∀ u, start.addSeconds? ((j * p.secs : Nat) : Int) = some u →
                u ≤ w₁.clock.later ran := by
  refine ⟨fun rep he => ?_, fun x o he => ?_⟩
  · subst he
    obtain ⟨-, hsucc, hout⟩ := execute_final hexec
    exact ⟨process_of_final hexec, hsucc, hout⟩
  subst he
  obtain ⟨hfetch, -, hw, ho⟩ := execute_recorded hexec
  obtain ⟨ran, hran⟩ := Store.fetch_addSeconds_one hfetch
  obtain ⟨l, hnew, hsched⟩ := scheduleSuccessor_run hpol hran hn hl hw
  refine ⟨ho, ran, l, hran, hnew, ?_, fun t ht => ⟨?_, fun start p hsch hs hr hc => ?_⟩⟩
  · rw [process_of_recorded hexec]
    by_cases hrec : x.action.isRecurring = true
    · rw [if_pos hrec, hsched]
      by_cases hp : P (decide (Store.Failing r.failureThreshold l)) x = true
      · rw [if_pos hp, if_neg (by simp [hp])]
      · rw [if_neg hp, if_pos ⟨hrec, by simpa using hp⟩]
        rcases x.action.schedule.next (some (w₁.clock.later ran)) with f | _ | t
        · rfl
        · rfl
        · dsimp only
          split_ifs <;> rfl
    · rw [if_neg hrec, if_neg fun h => hrec h.1]
  · exact congrArg Stamp.mk (Instant.stamp_truncSeconds t).symm
  · rw [hsch] at ht
    exact Schedule.interval_after_slot hs hr hc hran ht

end Runner

/-! ## A worked case, and a leap second -/

/-- A runner whose one handler, for the hook `h`, always succeeds. -/
def Runner.succeeding : Runner :=
  { registry := ⟨[{ name := "h", hook := "h", run := fun _ => pure (.ok ()) }]⟩ }

/-- A world whose table holds one action of the hook `h`, repeating every `p` seconds from
`start` and due at `due`, with the clock at the first second of 2024. -/
def World.intervalDue (start : Instant) (p : Period) (due : Instant) : World :=
  { store := ({} : Store).append { hook := "h", args := .empty, schedule := .interval start p } due
      (.ofSeconds 1704067200),
    clock := .ofSeconds 1704067200 }

/-- The action and outcome of an execution that recorded a result. -/
def Runner.Execution.recorded? : Runner.Execution → Option (StoredAction × Outcome)
  | .final _ => none
  | .recorded x o => some (x, o)

/-- A run that a computed check on its value and final state accepts succeeded. -/
lemma run_ok_of_state_check {ε σ α : Type} {m : EStateM ε σ α} {s : σ}
    {p : α → σ → Bool}
    (h : (match m.run s with | .ok a s' => p a s' | .error .. => false) = true) :
    ∃ a s', m.run s = .ok a s' ∧ p a s' = true := by
  rcases hr : m.run s with ⟨a, s'⟩ | ⟨e, s'⟩
  · rw [hr] at h
    exact ⟨a, s', rfl, h⟩
  · rw [hr] at h
    cases h

/-- A result that a check on its value accepts is a value. -/
lemma ok_of_check {ε α : Type} {res : Except ε α} {f : α → Bool}
    (h : res.toOption.any f = true) :
    ∃ a, res = .ok a ∧ f a = true := by
  rw [Option.any_eq_true] at h
  obtain ⟨a, ha, hf⟩ := h
  rcases res with e | a'
  · cases ha
  · cases ha
    exact ⟨a, rfl, hf⟩

/-- An execution that a check on its recorded result accepts recorded one. -/
lemma recorded_of_check {res : Except QueueError Runner.Execution}
    {f : StoredAction × Outcome → Bool}
    (h : (res.toOption.bind Runner.Execution.recorded?).any f = true) :
    ∃ x o, res = .ok (.recorded x o) ∧ f (x, o) = true := by
  rw [Option.any_eq_true] at h
  obtain ⟨⟨x, o⟩, hb, hf⟩ := h
  rcases res with e | (rep | ⟨x', o'⟩)
  · cases hb
  · cases hb
  · cases hb
    exact ⟨x, o, rfl, hf⟩

/-- An hourly action due at the first second of 2024, processed then by a runner whose handler
succeeds: its result is recorded and its successor, row 2, is due an hour later. -/
theorem Runner.hourly_successor :
    ∃ x o w₁, (succeeding.execute ⟨1⟩).run
        (World.intervalDue (.ofSeconds 1704067200) ⟨3600, by decide, by decide⟩
          (.ofSeconds 1704067200)) =
        .ok (.ok (.recorded x o)) w₁ ∧
      (succeeding.process ⟨1⟩).run
        (World.intervalDue (.ofSeconds 1704067200) ⟨3600, by decide, by decide⟩
          (.ofSeconds 1704067200)) =
        .ok (.ok { id := ⟨1⟩, outcome := o, successor := some ⟨2⟩ })
          { w₁ with store := w₁.store.append x.action (.ofSeconds 1704070800) w₁.clock } := by
  obtain ⟨res, w₁, hexec, hp⟩ := run_ok_of_state_check (m := (succeeding.execute ⟨1⟩).run)
    (s := World.intervalDue (.ofSeconds 1704067200) ⟨3600, by decide, by decide⟩
      (.ofSeconds 1704067200))
    (p := fun res w₁ =>
      (res.toOption.bind Runner.Execution.recorded?).any (fun xo =>
        xo.1.scheduledAt == .ofSeconds 1704067200 && xo.1.hook == "h" &&
          xo.1.action.schedule ==
            Schedule.interval (.ofSeconds 1704067200) ⟨3600, by decide, by decide⟩) &&
        w₁.clock == .ofSeconds 1704067200 && w₁.store.lastId == 1 &&
        (w₁.store.finished "h").length == 1 && w₁.store.rows.length == 1) (by decide +kernel)
  -- The check pins the execution down: a recorded result of an hourly action.
  simp only [Bool.and_eq_true, beq_iff_eq] at hp
  obtain ⟨⟨⟨⟨hrec, hclock⟩, hlast⟩, hfin⟩, hlen⟩ := hp
  obtain ⟨x, o, rfl, hx⟩ := recorded_of_check hrec
  simp only [Bool.and_eq_true, beq_iff_eq] at hx
  obtain ⟨⟨hat, hhook⟩, hsched⟩ := hx
  obtain ⟨q, hs, hq⟩ : ∃ q : Period,
      x.action.schedule = .interval (.ofSeconds 1704067200) q ∧ q.secs = 3600 := by
    rcases hsc : x.action.schedule with _ | _ | ⟨st, q⟩ | _ <;> rw [hsc] at hsched <;>
      try cases hsched
    simp only [BEq.beq, Schedule.beq, Bool.and_eq_true, decide_eq_true_eq] at hsched
    exact ⟨q, by rw [hsched.1], hsched.2⟩
  obtain ⟨-, hrecorded⟩ :=
    process_schedules_successor (P := fun f _ => f) (fun _ _ => rfl) hexec (by decide)
      (by rw [hlen]; decide)
  obtain ⟨-, ran, l, hran, hnew, hrun, -⟩ := hrecorded x o rfl
  refine ⟨x, o, w₁, hexec, ?_⟩
  rw [hrun]
  -- Evaluate the equation: recurring, not failing, next run an hour on, a hook that is not blank.
  obtain rfl : q = ⟨3600, by decide, by decide⟩ := by
    cases q
    simp only at hq
    subst hq
    rfl
  have hran' : ran = .ofSeconds 1704067201 := by
    have hone : (Instant.ofSeconds 1704067200).addSeconds? 1 = some (.ofSeconds 1704067201) := by
      decide
    rw [hat, hone] at hran
    exact (Option.some.inj hran).symm
  have hfail : ¬ Store.Failing succeeding.failureThreshold l := by
    rintro ⟨-, hle, -⟩
    rw [hnew.1.length_eq, hhook, hfin] at hle
    exact absurd hle (by decide)
  have hnext : (Schedule.interval (.ofSeconds 1704067200) ⟨3600, by decide, by decide⟩).next
      (some ((Instant.ofSeconds 1704067200).later (.ofSeconds 1704067201))) =
      .ok (some (.ofSeconds 1704070800)) := by decide
  have hrecur : x.action.isRecurring = true := by
    rw [Action.isRecurring, hs]
    rfl
  rw [if_pos ⟨hrecur, by simpa using hfail⟩, hs, hclock, hran', hnext, hhook, hlast]
  dsimp only
  rw [if_neg (by decide)]
  rfl

/-- **A start inside a leap second repeats the slot that ran.** An action repeating every
minute from 2099-12-31T23:59:60.5Z and due at 2100-01-01T00:00:59Z is processed, before its
slot, by a runner whose handler succeeds. Its schedule's next run after the following second
is 00:00:59.5, so the successor is stored at 00:00:59, the very second that ran. -/
theorem Runner.leap_start_repeats_slot :
    (Schedule.interval ⟨4102444799, 1500000000, by decide⟩ ⟨60, by decide, by decide⟩).next
        (some (.ofSeconds 4102444860)) = .ok (some ⟨4102444859, 500000000, by decide⟩) ∧
    ∃ rep w', (succeeding.process ⟨1⟩).run
        (World.intervalDue ⟨4102444799, 1500000000, by decide⟩ ⟨60, by decide, by decide⟩
          (.ofSeconds 4102444859)) = .ok (.ok rep) w' ∧
      rep.successor = some ⟨2⟩ ∧
      (w'.store.row? ⟨2⟩).map (·.scheduledAt) =
        some (Stamp.ofInstant (.ofSeconds 4102444859)) := by
  refine ⟨by decide, ?_⟩
  obtain ⟨res, w', hrun, hp⟩ := run_ok_of_state_check (m := (succeeding.process ⟨1⟩).run)
    (s := World.intervalDue ⟨4102444799, 1500000000, by decide⟩ ⟨60, by decide, by decide⟩
      (.ofSeconds 4102444859))
    (p := fun res w' => res.toOption.any (fun rep => rep.successor == some ⟨2⟩) &&
      (w'.store.row? ⟨2⟩).map (·.scheduledAt) ==
        some (Stamp.ofInstant (.ofSeconds 4102444859)))
    (by decide +kernel)
  simp only [Bool.and_eq_true, beq_iff_eq] at hp
  obtain ⟨hrep, hrow⟩ := hp
  obtain ⟨rep, rfl, hsucc⟩ := ok_of_check hrep
  exact ⟨rep, w', hrun, by simpa using hsucc, hrow⟩

end JobQueue
