import JobQueue.Proofs.ClaimRows
import JobQueue.Proofs.Successor

/-!
# What a run does, batch by batch

A run works the queue in batches: while fewer claims are outstanding than its share, it stakes
a claim, processes the ids the stake returned in order until the time limit passes, and
releases the claim. This file follows a run that ended normally, for a single runner on a
well-formed table whose claims were all issued, with a dispatcher that answers by hook and
arguments alone (a panic counting as a failure) and a failure policy that only decides. The
time limit is any test of the world.

Processing an id the stake returned always dispatches its action: the row was pending when
claimed, and only processing that very id moves it. The dispatcher's answer is reported as
the outcome and recorded as the row's status, a failure or a panic included, and the batch
goes on to the next id. Each batch releases its claim, so when the run is over no row carries
a claim it staked, and every row it claimed but did not reach is pending and unclaimed again.
A run that stops short, with a queue error or a panic, is followed in `StoppedRuns`, which also
states the contract of a whole run.

**Main statements**

* `Runner.execute_pending_run` — executing a pending row, as an equation.
* `Runner.process_pending` — processing a pending row dispatches it and touches no other row.
* `Runner.processAll_ok` — a batch dispatches a prefix of its ids, in order.
* `Runner.runBatch_ok` — what one batch does.
* `Runner.runBatches_ok` — what a run does, batch by batch.
-/

namespace JobQueue

/-- **A dispatcher that answers by hook and arguments alone**: dispatching a hook with some
arguments gives `D hook args`, a handler's panic coming back as a failure, and leaves the world
as it was. -/
def Registry.AnswersBy (reg : Registry) (D : String → Args → Except HandlerError Unit) : Prop :=
  ∀ hook args w, (reg.dispatchGuarded hook args).run w = .ok (D hook args) w

/-- A row's decoding keeps its id, status and claim. -/
lemma Row.decode_fields {r : Row} {a : StoredAction} (h : r.decode = .ok a) :
    a.id = r.id ∧ a.status = r.status ∧ a.claim = r.claim := by
  simp only [decode, except_bind_eq_ok] at h
  obtain ⟨_, -, _, -, _, -, h⟩ := h
  split at h <;>
  · simp only [except_bind_eq_ok] at h
    obtain ⟨_, -, _, -, _, -, h⟩ := h
    cases h
    exact ⟨rfl, rfl, rfl⟩

namespace Store

variable {s s' : Store} {x : ActionId}

/-- **A move of a row with a source status goes through** on a writable table. -/
lemma transition_run_of_mem (target : Status) (sources : List Status) (extra : Row → Row)
    (now : Instant) (hw : s.Writable) {q : Row} (hq : q ∈ s.rows) (hx : q.id = x)
    (hs : q.statusIn sources = true) :
    (transition x target sources extra now).run s =
      .ok () (remap (fun r => r.id == x && r.statusIn sources)
        (fun r => extra { r with status := target, updatedAt := .ofInstant now }) s) := by
  have hpos : (s.rows.filter fun r => r.id == x && r.statusIn sources).length ≠ 0 :=
    (List.length_pos_iff_exists_mem.2 ⟨q, List.mem_filter.2 ⟨hq, by simp [hx, hs]⟩⟩).ne'
  simp only [transition, EStateM.run_bind, move_run hw, beq_iff_eq, hpos, if_false,
    EStateM.run_pure]

/-- **The table after action `x` ran** at `now` with its result recorded as `target`: started
(in progress, one more attempt), then moved to `target`. -/
def finish (x : ActionId) (target : Status) (now : Instant) (s : Store) : Store :=
  remap (fun r => r.id == x && r.statusIn [.pending, .inProgress])
    (fun r => Row.attempted now { r with status := target, updatedAt := .ofInstant now })
    (remap (fun r => r.id == x && r.statusIn [.pending])
      (fun r => Row.started now { r with status := .inProgress, updatedAt := .ofInstant now }) s)

/-- **What running `x` does to each row**: it keeps every row's id and claim, leaves every other
row alone, and moves the row of `x`, if pending, to the recorded status. -/
lemma finish_rows (x : ActionId) (target : Status) (now : Instant) (s : Store) :
    ∃ g : Row → Row, (finish x target now s).rows = s.rows.map g ∧ ∀ q, (g q).id = q.id ∧
      (g q).claim = q.claim ∧ (q.id ≠ x → g q = q) ∧
      (q.id = x → q.status = .pending → (g q).status = target) := by
  refine ⟨_, by simp only [finish, remap, List.map_map]; rfl, fun q => ?_⟩
  by_cases hx : q.id = x
  · by_cases hp : q.status = .pending
    · simp [hx, hp, Row.statusIn, Row.started, Row.attempted]
    · by_cases hi : q.status = .inProgress
      · simp [hx, hi, Row.statusIn, Row.attempted]
      · simp [hx, hp, hi, Row.statusIn]
  · simp [hx]

/-- **How processing the ids `done` may leave the table**: well formed and writable with the
same claim count; every row still there, each row not among `done` exactly as it was; and every
row with the claim its row had before, or none if it is new. -/
structure Frames (done : List ActionId) (s s' : Store) : Prop where
  wellFormed : s'.WellFormed
  writable : s'.Writable
  claimsIssued : s'.claimsIssued = s.claimsIssued
  kept : ∀ q ∈ s.rows, q.id ∉ done → q ∈ s'.rows
  present : ∀ q ∈ s.rows, ∃ q' ∈ s'.rows, q'.id = q.id
  claims : ∀ q' ∈ s'.rows, (∃ q ∈ s.rows, q.id = q'.id ∧ q'.claim = q.claim) ∨ q'.claim = none

namespace Frames

variable {d d₁ d₂ : List ActionId} {s₁ s₂ : Store}

lemma refl (hs : s.WellFormed) (hw : s.Writable) : Frames [] s s :=
  ⟨hs, hw, rfl, fun _ hq _ => hq, fun q hq => ⟨q, hq, rfl⟩,
    fun q hq => .inl ⟨q, hq, rfl, rfl⟩⟩

lemma trans (h₁ : Frames d₁ s s₁) (h₂ : Frames d₂ s₁ s₂) : Frames (d₁ ++ d₂) s s₂ where
  wellFormed := h₂.wellFormed
  writable := h₂.writable
  claimsIssued := h₂.claimsIssued.trans h₁.claimsIssued
  kept q hq hd := h₂.kept q (h₁.kept q hq fun h => hd (List.mem_append_left _ h))
    fun h => hd (List.mem_append_right _ h)
  present q hq := by
    obtain ⟨q₁, hq₁, hid₁⟩ := h₁.present q hq
    obtain ⟨q₂, hq₂, hid₂⟩ := h₂.present q₁ hq₁
    exact ⟨q₂, hq₂, hid₂.trans hid₁⟩
  claims q₂ hq₂ := by
    rcases h₂.claims q₂ hq₂ with ⟨q₁, hq₁, hid₁, hc₁⟩ | hnone
    · rcases h₁.claims q₁ hq₁ with ⟨q, hq, hid, hc⟩ | hnone
      · exact .inl ⟨q, hq, hid.trans hid₁, hc₁.trans hc⟩
      · exact .inr (hc₁.trans hnone)
    · exact .inr hnone

/-- A new row appended after processing is unclaimed. -/
lemma append (h : Frames d s s₁) (a : Action) (due now : Instant) :
    Frames d s (s₁.append a due now) where
  wellFormed := h.wellFormed.append a due now
  writable := h.writable
  claimsIssued := h.claimsIssued
  kept q hq hd := List.mem_append_left _ (h.kept q hq hd)
  present q hq := by
    obtain ⟨q', hq', hid⟩ := h.present q hq
    exact ⟨q', List.mem_append_left _ hq', hid⟩
  claims q' hq' := by
    rcases List.mem_append.1 hq' with hq' | hq'
    · exact h.claims q' hq'
    · rw [List.mem_singleton.1 hq']
      exact .inr rfl

/-- **Running one action** leaves the table as processing it may. -/
lemma finish (hs : s.WellFormed) (hw : s.Writable) (target : Status) (now : Instant) :
    Frames [x] s (Store.finish x target now s) := by
  obtain ⟨g, hrows, hg⟩ := finish_rows x target now s
  refine ⟨WellFormed.map (fun q _ => (hg q).1) hs hrows rfl, hw, rfl, fun q hq hd => ?_,
    fun q hq => ⟨g q, hrows ▸ List.mem_map_of_mem hq, (hg q).1⟩, fun q' hq' => ?_⟩
  · rw [hrows, ← (hg q).2.2.1 (fun h => hd (List.mem_singleton.2 h))]
    exact List.mem_map_of_mem hq
  · rw [hrows] at hq'
    obtain ⟨q, hq, rfl⟩ := List.mem_map.1 hq'
    exact .inl ⟨q, hq, ((hg q).1).symm, (hg q).2.1⟩

end Frames

end Store

namespace Store

/-- **The history query only reads.** -/
lemma consistentlyFailing_read (hook : String) (n : Nat) (s : Store) :
    ∃ b, (consistentlyFailing hook n).run s = .ok b s := by
  unfold consistentlyFailing recentOutcomes
  split_ifs
  · exact ⟨false, rfl⟩
  · exact ⟨_, rfl⟩

variable {s s' : Store}

/-- A fetch that went through read the action's row as it is: the status it reads is the row's. -/
lemma fetch_status (hwf : s.WellFormed) {q : Row} (hq : q ∈ s.rows) {x : ActionId}
    (hx : q.id = x) {a : StoredAction} (hf : (fetch x).run s = .ok a s') : a.status = q.status := by
  obtain ⟨-, r', hr', hd⟩ := fetch_ok hf
  obtain rfl : q = r' := by
    rw [← hx, hwf.row?_eq hq] at hr'
    exact Option.some.inj hr'
  exact (Row.decode_fields hd).2.1

/-- **The rows a stake returned are pending after it**, on a well-formed table whose claims
were all issued. -/
lemma stake_pending {limit : Nat} {before : Option Instant} {f : ClaimFilter} {now : Instant}
    {c : Claim} (hs : s.WellFormed) (hci : s.ClaimsIssued)
    (h : (stake limit before f now).run s = .ok c s') :
    ∀ y ∈ c.actionIds, ∃ q ∈ s'.rows, q.id = y ∧ q.status = .pending := by
  intro y hy
  obtain ⟨-, -, G, rfl, hG⟩ := stake_rows hs hci h
  obtain ⟨q, hq, hid, hdue, -⟩ := stake_returns_due hs hci h y hy
  simp only [isDue, Bool.and_eq_true, beq_iff_eq, Option.isNone_iff_eq_none] at hdue
  obtain ⟨hid', hstat, -⟩ := hG q hq
  exact ⟨G q, List.mem_map_of_mem hq, hid'.trans hid, hstat.trans hdue.1.1.1⟩

end Store

/-- A store operation run as work, its error a value, as a step on the world. -/
lemma Work.store_run {α : Type} (m : StoreM α) (w : World) :
    (Work.store m).run w = match m.run w.store with
      | .ok a s => .ok (.ok a) { w with store := s }
      | .error e s => .ok (.error e) { w with store := s } := rfl

/-- A store operation run as work inside a job. -/
lemma Job.work_store_run {α : Type} (m : StoreM α) (w : World) :
    (Job.work (Work.store m)).run w = match m.run w.store with
      | .ok a s => .ok (.ok (.ok a)) { w with store := s }
      | .error e s => .ok (.ok (.error e)) { w with store := s } := by
  rw [Job.work_run]
  unfold Work.store
  rcases m.run w.store with ⟨a, s⟩ | ⟨e, s⟩ <;> rfl

namespace Runner

variable {r : Runner} {D : String → Args → Except HandlerError Unit} {x : ActionId}
  {w w₁ w' : World} {P : Bool → StoredAction → Bool}

/-- **Processing `x` dispatched it**, from world `w` to world `w'`: it read the action pending,
reported the dispatcher's answer for the action's hook and arguments as the outcome, and left
the action's row in the status that answer is recorded as. -/
def Dispatches (r : Runner) (D : String → Args → Except HandlerError Unit) (x : ActionId)
    (w w' : World) : Prop :=
  ∃ a rep, (Store.fetch x).run w.store = .ok a w.store ∧ a.status = .pending ∧
    (r.process x).run w = .ok (.ok rep) w' ∧ rep.id = x ∧
    rep.outcome = outcomeOf (D a.hook a.action.args) ∧
    ∃ q ∈ w'.store.rows, q.id = x ∧ q.status = recordedStatus (D a.hook a.action.args)

/-- **Executing a pending row**, as an equation: on a well-formed writable table it stops with
the fetch's error, or reads the action, dispatches it, and records the dispatcher's answer. -/
lemma execute_pending_run (hD : r.registry.AnswersBy D) (hwf : w.store.WellFormed)
    (hw : w.store.Writable) {q : Row} (hq : q ∈ w.store.rows) (hx : q.id = x)
    (hp : q.status = .pending) :
    (r.execute x).run w = match (Store.fetch x).run w.store with
      | .ok a _ => .ok (.ok (.recorded a (outcomeOf (D a.hook a.action.args)))) { w with
        store := Store.finish x (recordedStatus (D a.hook a.action.args)) w.clock w.store }
      | .error e s => .ok (.error e) { w with store := s } := by
  unfold execute
  rw [Job.run_bind, Job.now_run]
  dsimp only
  rw [Job.run_bind, Job.store_run]
  rcases hf : (Store.fetch x).run w.store with ⟨a, s⟩ | ⟨e, s⟩
  · obtain ⟨rfl, -⟩ := Store.fetch_ok hf
    have hpa : a.status = .pending := (Store.fetch_status hwf hq hx hf).trans hp
    dsimp only
    rw [if_neg (by simp [hpa])]
    -- The start goes through on the pending row.
    have hstart := Store.transition_run_of_mem .inProgress [.pending] (Row.started w.clock)
      w.clock hw hq hx (show q.statusIn [.pending] = true by simp [Row.statusIn, hp])
    rw [Job.run_bind, Job.work_store_run]
    dsimp only
    rw [Store.logExecution, hstart]
    dsimp only
    -- The dispatcher answers and leaves the world alone.
    rw [Job.run_bind, Job.work_run,
      show r.registry.dispatchGuarded a.hook a.action.args _ = _ from hD _ _ _]
    dsimp only
    -- The record goes through on the started row.
    have hq₁ :
        Row.started w.clock { q with status := .inProgress, updatedAt := .ofInstant w.clock } ∈
        (Store.remap (fun r => r.id == x && r.statusIn [.pending]) (fun r => Row.started w.clock
          { r with status := .inProgress, updatedAt := .ofInstant w.clock }) w.store).rows :=
      List.mem_map.2 ⟨q, hq, by simp [hx, hp, Row.statusIn]⟩
    have hrecord := fun target => Store.transition_run_of_mem (x := x) target
      [.pending, .inProgress] (Row.attempted w.clock) w.clock (by exact hw) hq₁
      (by simp [Row.started, hx]) (by simp [Row.started, Row.statusIn])
    rw [Job.run_bind, Job.work_store_run]
    rcases D a.hook a.action.args with err | u
    · dsimp only
      rw [Store.markFailure, hrecord]
      rfl
    · dsimp only
      rw [Store.markComplete, hrecord]
      rfl
  · rfl

/-- **Executing a pending row dispatches it**: on a well-formed writable table, an execution of
a pending row that ends normally read the action, ran the dispatcher on its hook and arguments,
and recorded the answer. -/
lemma execute_pending (hD : r.registry.AnswersBy D) (hwf : w.store.WellFormed)
    (hw : w.store.Writable) {q : Row} (hq : q ∈ w.store.rows) (hx : q.id = x)
    (hp : q.status = .pending) {e : Execution} (h : (r.execute x).run w = .ok (.ok e) w₁) :
    ∃ a, (Store.fetch x).run w.store = .ok a w.store ∧ a.status = .pending ∧
      e = .recorded a (outcomeOf (D a.hook a.action.args)) ∧
      w₁ = { w with store :=
        Store.finish x (recordedStatus (D a.hook a.action.args)) w.clock w.store } := by
  rw [execute_pending_run hD hwf hw hq hx hp] at h
  rcases hf : (Store.fetch x).run w.store with ⟨a, s⟩ | ⟨err, s⟩ <;> rw [hf] at h
  · -- the fetch read the pending row and left the table alone
    obtain ⟨rfl, -⟩ := Store.fetch_ok hf
    simp only [EStateM.Result.ok.injEq, Except.ok.injEq] at h
    obtain ⟨rfl, rfl⟩ := h
    exact ⟨a, rfl, (Store.fetch_status hwf hq hx hf).trans hp, rfl, rfl⟩
  · simp at h

/-- **Scheduling a successor** under a failure policy that only decides either panics, or ends
with the world as it was, or with one new row appended at the clock. -/
lemma scheduleSuccessor_ok (hpol : ∀ f a, r.policy f a = pure (P f a)) {a : StoredAction}
    {ran : Instant} (hran : a.scheduledAt.addSeconds? 1 = some ran) (hw : w.store.Writable)
    {next : Option ActionId} (h : (r.scheduleSuccessor a).run w = .ok next w') :
    w' = w ∨ ∃ t, w' = { w with store := w.store.append a.action t w.clock } := by
  obtain ⟨b, hb⟩ := Store.consistentlyFailing_read a.hook r.failureThreshold w.store
  rw [scheduleSuccessor_run_of hpol hran hb hw] at h
  by_cases hP : P b a = true
  · simp only [hP, if_true, EStateM.Result.ok.injEq] at h
    exact .inl h.2.symm
  simp only [hP, Bool.false_eq_true, if_false] at h
  -- The next run: a fault panics, none adds nothing, a run is saved unless the hook is blank.
  rcases hnext : a.action.schedule.next (some (w.clock.later ran)) with err | _ | t <;>
    simp only [hnext] at h
  · cases h
  · cases h
    exact .inl rfl
  · split_ifs at h
    · cases h
      exact .inl rfl
    · cases h
      exact .inr ⟨t, rfl⟩

/-- **Processing a pending row dispatches it** and touches no other row: on a well-formed
writable table, processing that ends normally dispatched the action, left the clock alone, and
left the table as processing `x` may. -/
lemma process_pending (hD : r.registry.AnswersBy D) (hpol : ∀ f a, r.policy f a = pure (P f a))
    (hwf : w.store.WellFormed) (hw : w.store.Writable) {q : Row} (hq : q ∈ w.store.rows)
    (hx : q.id = x) (hp : q.status = .pending) {rep : ProcessReport}
    (h : (r.process x).run w = .ok (.ok rep) w') :
    r.Dispatches D x w w' ∧ w'.clock = w.clock ∧ Store.Frames [x] w.store w'.store := by
  have hproc := h
  -- The execution ends normally, as processing does, and records the dispatcher's answer.
  obtain ⟨e, w₁, he, -⟩ := Job.bind_run_ok (show (r.execute x >>= _).run w = _ from h)
  obtain ⟨a, hf, hpa, rfl, rfl⟩ := execute_pending hD hwf hw hq hx hp he
  obtain ⟨ran, hran⟩ := Store.fetch_addSeconds_one hf
  have hfr := Store.Frames.finish (x := x) hwf hw (recordedStatus (D a.hook a.action.args)) w.clock
  have hrow : ∃ q' ∈ (Store.finish x (recordedStatus (D a.hook a.action.args)) w.clock
      w.store).rows, q'.id = x ∧ q'.status = recordedStatus (D a.hook a.action.args) := by
    obtain ⟨g, hrows, hg⟩ := Store.finish_rows x (recordedStatus (D a.hook a.action.args))
      w.clock w.store
    exact ⟨g q, hrows ▸ List.mem_map_of_mem hq, (hg q).1.trans hx, (hg q).2.2.2 hx hp⟩
  rw [process_of_recorded he] at h
  split_ifs at h
  · -- A recurring action may get one new row, unclaimed, after its own.
    rcases hs : (r.scheduleSuccessor a).run { w with store := (Store.finish x
      (recordedStatus (D a.hook a.action.args)) w.clock w.store) } with ⟨next, w₂⟩ | ⟨p, w₂⟩ <;>
      simp only [hs, EStateM.Result.ok.injEq, Except.ok.injEq, reduceCtorEq] at h
    obtain ⟨rfl, rfl⟩ := h
    rcases scheduleSuccessor_ok hpol hran (by exact hfr.writable) hs with rfl | ⟨t, rfl⟩
    · exact ⟨⟨a, _, hf, hpa, hproc, rfl, rfl, hrow⟩, rfl, hfr⟩
    · obtain ⟨q', hq', hid, hst⟩ := hrow
      exact ⟨⟨a, _, hf, hpa, hproc, rfl, rfl, q', List.mem_append_left _ hq', hid, hst⟩, rfl,
        hfr.append _ _ _⟩
  · simp only [EStateM.Result.ok.injEq, Except.ok.injEq] at h
    obtain ⟨rfl, rfl⟩ := h
    exact ⟨⟨a, _, hf, hpa, hproc, rfl, rfl, hrow⟩, rfl, hfr⟩

/-- **Claimed ids dispatched in order**, from world `w` to world `w'`: each in turn from the
world the one before it left, the time limit not having passed in between. -/
inductive DispatchesAll (r : Runner) (D : String → Args → Except HandlerError Unit)
    (passed : World → Bool) : World → List ActionId → World → Prop
  | nil (w : World) : DispatchesAll r D passed w [] w
  | cons {w w₁ w' : World} {x : ActionId} {xs : List ActionId} :
      r.Dispatches D x w w₁ → (xs ≠ [] → passed w₁ = false) →
      DispatchesAll r D passed w₁ xs w' → DispatchesAll r D passed w (x :: xs) w'

lemma get_run (w : World) : (Job.work (get : Work World)).run w = .ok (.ok w) w := rfl

/-- **The rows of the ids still to process stay pending** once the first is processed, the ids
being distinct. -/
lemma pending_rest {y : ActionId} {ys : List ActionId} {s s' : Store} (hnd : (y :: ys).Nodup)
    (hfr : Store.Frames [y] s s')
    (hpend : ∀ y' ∈ y :: ys, ∃ q ∈ s.rows, q.id = y' ∧ q.status = .pending) :
    ∀ y' ∈ ys, ∃ q ∈ s'.rows, q.id = y' ∧ q.status = .pending := by
  intro y' hy'
  obtain ⟨q', hq', hid', hp'⟩ := hpend y' (List.mem_cons_of_mem y hy')
  have hne : y' ≠ y := fun he => (List.nodup_cons.1 hnd).1 (he ▸ hy')
  exact ⟨q', hfr.kept q' hq' (by simpa [hid'] using hne), hid', hp'⟩

/-- **A batch dispatches a prefix of its ids, in order.** Processing distinct ids whose rows
are pending, on a well-formed writable table, and ending normally, processed the first `m` of
them, at least one if there were any, dispatching each in turn; it stopped short only where the
time limit had passed; and it left the table as processing those ids may. -/
lemma processAll_ok (hD : r.registry.AnswersBy D) (hpol : ∀ f a, r.policy f a = pure (P f a))
    {passed : World → Bool} :
    ∀ {xs : List ActionId} {k n : Nat} {w w' : World}, xs.Nodup → w.store.WellFormed →
      w.store.Writable → (∀ y ∈ xs, ∃ q ∈ w.store.rows, q.id = y ∧ q.status = .pending) →
      (r.processAll passed xs k).run w = .ok (.ok n) w' →
      ∃ m ≤ xs.length, (xs ≠ [] → 0 < m) ∧ n = k + m ∧
        r.DispatchesAll D passed w (xs.take m) w' ∧ (m < xs.length → passed w' = true) ∧
        w'.clock = w.clock ∧ Store.Frames (xs.take m) w.store w'.store
  | [], k, n, w, w', _, hwf, hw, _, h => by
    simp only [processAll, Job.pure_run, EStateM.Result.ok.injEq, Except.ok.injEq] at h
    obtain ⟨rfl, rfl⟩ := h
    exact ⟨0, le_refl _, fun h => absurd rfl h, rfl, .nil w, fun h => absurd h (Nat.lt_irrefl 0),
      rfl, Store.Frames.refl hwf hw⟩
  | y :: ys, k, n, w, w', hnd, hwf, hw, hpend, h => by
    unfold processAll at h
    obtain ⟨rep, w₁, hy, h⟩ := Job.bind_run_ok h
    obtain ⟨q, hq, hqid, hqp⟩ := hpend y List.mem_cons_self
    obtain ⟨hdisp, hclock, hfr⟩ := process_pending hD hpol hwf hw hq hqid hqp hy
    obtain ⟨w₂, w₃, hget, h⟩ := Job.bind_run_ok h
    rw [get_run] at hget
    cases hget
    by_cases hpass : passed w₁ = true
    · -- The time limit passed after the first id.
      simp only [hpass, if_true, Job.pure_run, EStateM.Result.ok.injEq, Except.ok.injEq] at h
      obtain ⟨rfl, rfl⟩ := h
      exact ⟨1, by simp, fun _ => Nat.one_pos, rfl, .cons hdisp (fun h => absurd rfl h) (.nil w₁),
        fun _ => hpass, hclock, hfr⟩
    · simp only [hpass, Bool.false_eq_true, if_false] at h
      obtain ⟨m, hm, -, rfl, hall, hcut, hclock', hfr'⟩ := processAll_ok hD hpol
        (List.nodup_cons.1 hnd).2 hfr.wellFormed hfr.writable (pending_rest hnd hfr hpend) h
      refine ⟨m + 1, by simpa using hm, fun _ => Nat.succ_pos m, by omega,
        .cons hdisp (fun _ => Bool.eq_false_iff.2 hpass) hall, fun hlt => hcut (by simpa using hlt),
        hclock'.trans hclock, hfr.trans hfr'⟩

/-- **Executing a claim under its monitor**: its ids processed in order; a panic releases the
claim, whatever the release comes to, and panics again. -/
lemma executeClaim_run {passed : World → Bool} {c : Claim} :
    (r.executeClaim passed c).run w = match (r.processAll passed c.actionIds 0).run w with
      | .ok v w₁ => .ok v w₁
      | .error p w₁ => match (Store.releaseClaim c.id).run w₁.store with
        | .ok _ s => .error p { w₁ with store := s }
        | .error _ s => .error p { w₁ with store := s } := by
  unfold executeClaim Work.onPanic
  change EStateM.run (tryCatch _ _) w = _
  rw [tryCatch_run, show EStateM.run (ExceptT.run (r.processAll passed c.actionIds 0)) w =
    (r.processAll passed c.actionIds 0).run w from rfl]
  rcases (r.processAll passed c.actionIds 0).run w with ⟨v, w₁⟩ | ⟨p, w₁⟩
  · rfl
  · dsimp only
    simp only [ExecutionMonitor.unwind, Work.now, EStateM.run_bind, EStateM.run_get,
      EStateM.run_pure, Work.store_run]
    rcases (Store.releaseClaim c.id).run w₁.store with ⟨n, s⟩ | ⟨e, s⟩ <;> rfl

/-- A claim executed to the end ran its ids to the end: the execution monitor acts only on a
panic. -/
lemma executeClaim_ok {passed : World → Bool} {c : Claim} {n : Nat}
    (h : (r.executeClaim passed c).run w = .ok (.ok n) w') :
    (r.processAll passed c.actionIds 0).run w = .ok (.ok n) w' := by
  rw [executeClaim_run] at h
  rcases hp : (r.processAll passed c.actionIds 0).run w with ⟨v, w₁⟩ | ⟨p, w₁⟩ <;>
    rw [hp] at h <;> dsimp only at h
  · exact h
  · -- a panic comes back as a panic, whatever the release comes to
    split at h <;> cases h

/-- **One batch as it ran**: the world it began in, the claim it staked, and how many of the
claim's ids it processed. -/
structure BatchRecord where
  start : World
  claim : Claim
  processed : Nat

/-- **A batch**, from its start to world `w'`: staking at the clock returned its claim; the first
`processed` ids of the claim, at least one, were dispatched in order, stopping short only where
the time limit had passed; and the claim was released. -/
def Batch (r : Runner) (D : String → Args → Except HandlerError Unit) (passed : World → Bool)
    (b : BatchRecord) (w' : World) : Prop :=
  ∃ s₁ w₂, (Store.stake r.config.batchSize none r.config.filter b.start.clock).run b.start.store =
      .ok b.claim s₁ ∧ 0 < b.processed ∧ b.processed ≤ b.claim.actionIds.length ∧
    r.DispatchesAll D passed { b.start with store := s₁ } (b.claim.actionIds.take b.processed) w₂ ∧
    (b.processed < b.claim.actionIds.length → passed w₂ = true) ∧
    ∃ m, (Store.releaseClaim b.claim.id).run w₂.store = .ok m w'.store ∧
      w' = { w₂ with store := w'.store }

/-- **What batches leave**, from world `w` to world `w'`, having processed the ids `done`: a
well-formed table whose claims were all issued, the clock as it was, on each row only a claim
that some row carried before, and every pending unclaimed row not among `done` still pending
and unclaimed. -/
structure Leaves (w w' : World) (done : List ActionId) : Prop where
  wellFormed : w'.store.WellFormed
  issued : w'.store.ClaimsIssued
  issuedLe : w.store.claimsIssued ≤ w'.store.claimsIssued
  clock : w'.clock = w.clock
  claims : ∀ q' ∈ w'.store.rows, ∀ c, q'.claim = some c → ∃ q ∈ w.store.rows, q.claim = some c
  waiting : ∀ q ∈ w.store.rows, q.status = .pending → q.claim = none → q.id ∉ done →
    ∃ q' ∈ w'.store.rows, q'.id = q.id ∧ q'.status = .pending ∧ q'.claim = none

namespace Leaves

variable {w₂ : World} {d₁ d₂ : List ActionId}

lemma refl (hwf : w.store.WellFormed) (hci : w.store.ClaimsIssued) : Leaves w w [] :=
  ⟨hwf, hci, le_rfl, rfl, fun q' hq' _ hc => ⟨q', hq', hc⟩,
    fun q hq hp hn _ => ⟨q, hq, rfl, hp, hn⟩⟩

lemma trans (h₁ : Leaves w w₁ d₁) (h₂ : Leaves w₁ w₂ d₂) : Leaves w w₂ (d₁ ++ d₂) where
  wellFormed := h₂.wellFormed
  issued := h₂.issued
  issuedLe := h₁.issuedLe.trans h₂.issuedLe
  clock := h₂.clock.trans h₁.clock
  claims q' hq' c hc := by
    obtain ⟨q₁, hq₁, hc₁⟩ := h₂.claims q' hq' c hc
    exact h₁.claims q₁ hq₁ c hc₁
  waiting q hq hp hn hd := by
    obtain ⟨q₁, hq₁, hid₁, hp₁, hn₁⟩ :=
      h₁.waiting q hq hp hn fun h => hd (List.mem_append_left _ h)
    obtain ⟨q₂, hq₂, hid₂, hp₂, hn₂⟩ :=
      h₂.waiting q₁ hq₁ hp₁ hn₁ (hid₁ ▸ fun h => hd (List.mem_append_right _ h))
    exact ⟨q₂, hq₂, hid₂.trans hid₁, hp₂, hn₂⟩

end Leaves

/-- **What one batch does.** On a well-formed table whose claims were all issued, a batch that
ends normally either staked a claim with no ids and stopped, or ran as `Batch` says; either way
it leaves the table as `Leaves` says, having processed the ids it dispatched. -/
lemma runBatch_ok (hD : r.registry.AnswersBy D) (hpol : ∀ f a, r.policy f a = pure (P f a))
    {passed : World → Bool} {n : Nat} (hwf : w.store.WellFormed) (hci : w.store.ClaimsIssued)
    (h : (r.runBatch passed).run w = .ok (.ok n) w') :
    (n = 0 ∧ (∃ c, (Store.stake r.config.batchSize none r.config.filter w.clock).run w.store =
        .ok c w'.store ∧ c.actionIds = [] ∧ w' = { w with store := w'.store }) ∧ Leaves w w' []) ∨
      ∃ c, r.Batch D passed ⟨w, c, n⟩ w' ∧ Leaves w w' (c.actionIds.take n) := by
  unfold runBatch at h
  obtain ⟨now, w₀, hnow, h⟩ := Job.bind_run_ok h
  rw [Job.now_run] at hnow
  cases hnow
  obtain ⟨c, w₁, hstake, h⟩ := Job.bind_run_ok h
  obtain ⟨hst, hw₁⟩ := Job.store_run_ok hstake
  obtain ⟨-, hnd, G, hs₁, hG⟩ := Store.stake_rows hwf hci hst
  obtain ⟨hwf₁, hci₁⟩ := Store.stake_wellFormed hwf hci hst
  have hrows₁ : w₁.store.rows = w.store.rows.map G := by rw [hs₁]
  -- A pending unclaimed row is still pending after the stake, and unclaimed unless returned.
  have hwait₁ : ∀ q ∈ w.store.rows, q.status = .pending → q.claim = none →
      G q ∈ w₁.store.rows ∧ (G q).id = q.id ∧ (G q).status = .pending ∧
        (q.id ∉ c.actionIds → (G q).claim = none) := by
    intro q hq hp hn
    obtain ⟨hid, hstat, -, hclaim⟩ := hG q hq
    refine ⟨hrows₁ ▸ List.mem_map_of_mem hq, hid, hstat.trans hp, fun hni => ?_⟩
    rw [if_neg hni] at hclaim
    exact hclaim.trans hn
  split_ifs at h with hemp
  · -- A claim with no ids ends the batch.
    simp only [Job.pure_run, EStateM.Result.ok.injEq, Except.ok.injEq] at h
    obtain ⟨rfl, rfl⟩ := h
    have hids : c.actionIds = [] := List.isEmpty_iff.1 hemp
    refine .inl ⟨rfl, ⟨c, hst, hids, hw₁⟩, hwf₁, hci₁, by rw [hs₁]; exact Nat.le_succ _,
      by rw [hw₁], fun q' hq' c' hc' => ?_,
      fun q hq hp hn _ => ?_⟩
    · rw [hrows₁] at hq'
      obtain ⟨q, hq, rfl⟩ := List.mem_map.1 hq'
      have hclaim := (hG q hq).2.2.2
      rw [hids, if_neg List.not_mem_nil] at hclaim
      exact ⟨q, hq, hclaim ▸ hc'⟩
    · obtain ⟨hm, hid, hp', hn'⟩ := hwait₁ q hq hp hn
      exact ⟨G q, hm, hid, hp', hn' (hids ▸ List.not_mem_nil)⟩
  -- The claim's rows are pending, so each id processed is dispatched.
  have hne : c.actionIds ≠ [] := fun he => hemp (by simp [he])
  have hw : w₁.store.Writable := by
    have hw₀ := Store.stake_writable hst hne
    rw [hs₁]
    exact ⟨hw₀.1, hw₀.2⟩
  have hpend := Store.stake_pending hwf hci hst
  obtain ⟨k, w₂, hexec, h⟩ := Job.bind_run_ok h
  obtain ⟨m, hm, hpos, hk, hall, hcut, hclock, hfr⟩ :=
    processAll_ok hD hpol hnd hwf₁ hw hpend (executeClaim_ok hexec)
  rw [Nat.zero_add] at hk
  subst hk
  obtain ⟨u, w₃, hrel, h⟩ := Job.bind_run_ok h
  obtain ⟨hrel', hw₃⟩ := Job.store_run_ok hrel
  simp only [Job.pure_run, EStateM.Result.ok.injEq, Except.ok.injEq] at h
  obtain ⟨rfl, rfl⟩ := h
  have hs₃ := Store.releaseClaim_ok hrel'
  have hrows₃ : w₃.store.rows = w₂.store.rows.map fun q =>
      if q.claim = some c.id then { q with claim := none } else q := by rw [hs₃]
  -- After the release, every claim on a row is one a row of `w` carried.
  have hclaims : ∀ q' ∈ w₃.store.rows, ∀ c', q'.claim = some c' →
      ∃ q ∈ w.store.rows, q.claim = some c' := by
    intro q₃ hq₃ c' hc'
    rw [hrows₃] at hq₃
    obtain ⟨q₂, hq₂, rfl⟩ := List.mem_map.1 hq₃
    by_cases hq₂c : q₂.claim = some c.id
    · simp [hq₂c] at hc'
    rw [if_neg hq₂c] at hc'
    rcases hfr.claims q₂ hq₂ with ⟨q₁, hq₁, -, hc₁⟩ | hnone
    · rw [hrows₁] at hq₁
      obtain ⟨q, hq, rfl⟩ := List.mem_map.1 hq₁
      have hclaim := (hG q hq).2.2.2
      split_ifs at hclaim
      · exact absurd (hc₁.trans hclaim.2) hq₂c
      · exact ⟨q, hq, hclaim ▸ hc₁ ▸ hc'⟩
    · rw [hnone] at hc'
      cases hc'
  have hissued : w₃.store.claimsIssued = w.store.claimsIssued + 1 := by
    rw [hs₃, hfr.claimsIssued, hs₁]
  refine .inr ⟨c, ⟨w₁.store, w₂, hst, hpos hne, hm, hw₁ ▸ hall, hcut, u, hrel', hw₃⟩,
    Store.WellFormed.map (fun q _ => by split <;> rfl) hfr.wellFormed hrows₃ (by rw [hs₃]),
    fun q₃ hq₃ c' hc' => ?_, hissued ▸ Nat.le_succ _, by rw [hw₃, hclock, hw₁], hclaims,
    fun q hq hp hn hd => ?_⟩
  · obtain ⟨q, hq, hc⟩ := hclaims q₃ hq₃ c' hc'
    rw [hissued]
    exact Nat.le_succ_of_le (hci q hq c' hc)
  · -- A waiting row not processed keeps its status, and the release clears the batch's claim.
    obtain ⟨hm₁, hid, hp₁, hn₁⟩ := hwait₁ q hq hp hn
    have hm₂ := hfr.kept (G q) hm₁ (hid ▸ hd)
    refine ⟨_, hrows₃ ▸ List.mem_map_of_mem hm₂, ?_, ?_, ?_⟩
    · split <;> exact hid
    · split <;> exact hp₁
    · split
      · rfl
      · have hclaim := (hG q hq).2.2.2
        split_ifs at hclaim with hin
        · exact absurd hclaim.2 ‹_›
        · exact hclaim.trans hn

/-- The ids a batch processed: the first `processed` of its claim. -/
def BatchRecord.done (b : BatchRecord) : List ActionId := b.claim.actionIds.take b.processed

/-- Whether fewer claims were outstanding in world `w` than the runner's share. -/
def MayStake (r : Runner) (w : World) : Prop :=
  ∃ m, Store.claimCount.run w.store = .ok m w.store ∧ m < max 1 r.config.concurrentBatches

/-- **Batches run one after another**, from world `w` to world `w'`: each staked its claim only
while fewer claims were outstanding than the runner's share, and after each but the last the
time limit had not passed. -/
inductive Runs (r : Runner) (D : String → Args → Except HandlerError Unit)
    (passed : World → Bool) : World → List BatchRecord → World → Prop
  | nil (w : World) : Runs r D passed w [] w
  | cons {w₁ w' : World} {b : BatchRecord} {bs : List BatchRecord} :
      r.MayStake b.start → r.Batch D passed b w₁ → (bs ≠ [] → passed w₁ = false) →
      Runs r D passed w₁ bs w' → Runs r D passed b.start (b :: bs) w'

/-- **A claimed row not reached is waiting again** once its batch is over: pending and
unclaimed. -/
lemma Leaves.unreached {c : Claim} {k : Nat} (hwf : w.store.WellFormed)
    (hci : w.store.ClaimsIssued)
    (hst : (Store.stake r.config.batchSize none r.config.filter w.clock).run w.store = .ok c s₁)
    (hlv : Leaves w w' (c.actionIds.take k)) {x : ActionId} (hx : x ∈ c.actionIds)
    (hnx : x ∉ c.actionIds.take k) :
    ∃ q ∈ w'.store.rows, q.id = x ∧ q.status = .pending ∧ q.claim = none := by
  obtain ⟨q, hq, rfl, hdue, -⟩ := Store.stake_returns_due hwf hci hst x hx
  simp only [Store.isDue, Bool.and_eq_true, beq_iff_eq, Option.isNone_iff_eq_none] at hdue
  exact hlv.waiting q hq hdue.1.1.1 hdue.1.1.2 hnx

/-- **A run, batch by batch.** On a well-formed table whose claims were all issued, a run that
ends normally went through batches one after another, each from a well-formed table whose
claims were all issued, and then stopped, perhaps after a stake that found nothing; it counts
the ids its batches processed; it leaves the table as `Leaves` says; and every id a batch
claimed but no batch processed has its row pending and unclaimed at the end. -/
lemma runBatches_ok (hD : r.registry.AnswersBy D) (hpol : ∀ f a, r.policy f a = pure (P f a))
    {passed : World → Bool} :
    ∀ {fuel done n : Nat} {w w' : World}, w.store.WellFormed → w.store.ClaimsIssued →
      (r.runBatches passed fuel done).run w = .ok (.ok n) w' →
      ∃ bs w₁, r.Runs D passed w bs w₁ ∧
        (w' = w₁ ∨ r.MayStake w₁ ∧ ∃ c, (Store.stake r.config.batchSize none r.config.filter
          w₁.clock).run w₁.store = .ok c w'.store ∧ c.actionIds = [] ∧
          w' = { w₁ with store := w'.store }) ∧
        n = done + (bs.map (·.processed)).sum ∧
        (∀ b ∈ bs, b.start.store.WellFormed ∧ b.start.store.ClaimsIssued ∧
          w.store.claimsIssued < b.claim.id.serial) ∧
        Leaves w w' (bs.flatMap BatchRecord.done) ∧
        ∀ b ∈ bs, ∀ x ∈ b.claim.actionIds, x ∉ bs.flatMap BatchRecord.done →
          ∃ q ∈ w'.store.rows, q.id = x ∧ q.status = .pending ∧ q.claim = none
  | 0, done, n, w, w', hwf, hci, h => by
    simp only [runBatches, Job.pure_run, EStateM.Result.ok.injEq, Except.ok.injEq] at h
    obtain ⟨rfl, rfl⟩ := h
    exact ⟨[], w, .nil w, .inl rfl, by simp, by simp, Leaves.refl hwf hci, by simp⟩
  | fuel + 1, done, n, w, w', hwf, hci, h => by
    unfold runBatches at h
    obtain ⟨m, w₀, hcount, h⟩ := Job.bind_run_ok h
    obtain ⟨hcnt, hw₀⟩ := Job.store_run_ok hcount
    obtain rfl : w = w₀ := by
      have hs : w₀.store = w.store := by
        simp only [Store.claimCount, EStateM.run_bind, EStateM.run_get, EStateM.run_pure,
          EStateM.Result.ok.injEq] at hcnt
        exact hcnt.2.symm
      rw [hw₀, hs]
    by_cases hgate : m ≥ max 1 r.config.concurrentBatches
    · -- The outstanding claims reached the runner's share.
      simp only [hgate, if_true, Job.pure_run, EStateM.Result.ok.injEq, Except.ok.injEq] at h
      obtain ⟨rfl, rfl⟩ := h
      exact ⟨[], w, .nil w, .inl rfl, by simp, by simp, Leaves.refl hwf hci, by simp⟩
    have hmay : r.MayStake w := ⟨m, hcnt, by omega⟩
    simp only [hgate, if_false] at h
    obtain ⟨k, w₂, hbatch, h⟩ := Job.bind_run_ok h
    rcases runBatch_ok hD hpol hwf hci hbatch with ⟨rfl, ⟨c, hst, hids, hw₂⟩, hlv⟩ | ⟨c, hb, hlv⟩
    · -- A stake that found nothing ends the run.
      simp only [beq_self_eq_true, if_true, Job.pure_run, EStateM.Result.ok.injEq,
        Except.ok.injEq] at h
      obtain ⟨rfl, rfl⟩ := h
      exact ⟨[], w, .nil w, .inr ⟨hmay, c, hst, hids, hw₂⟩, by simp, by simp, hlv, by simp⟩
    obtain ⟨s₁, -, hst, hk, -⟩ := id hb
    have hfresh : w.store.claimsIssued < c.id.serial := by
      rw [(Store.stake_rows hwf hci hst).1]
      exact Nat.lt_succ_self _
    have hk0 : (k == 0) = false := by simpa using Nat.pos_iff_ne_zero.1 hk
    simp only [hk0, Bool.false_eq_true, if_false] at h
    obtain ⟨w₃, w₄, hget, h⟩ := Job.bind_run_ok h
    rw [get_run] at hget
    cases hget
    -- A claimed row this batch did not reach is waiting again after it.
    have hwaiting := fun x hx hnx => Leaves.unreached hwf hci hst hlv (x := x) hx hnx
    by_cases hpass : passed w₂ = true
    · -- The time limit passed after the batch.
      simp only [hpass, if_true, Job.pure_run, EStateM.Result.ok.injEq, Except.ok.injEq] at h
      obtain ⟨rfl, rfl⟩ := h
      refine ⟨[⟨w, c, k⟩], w₂, .cons hmay hb (fun h => absurd rfl h) (.nil w₂), .inl rfl,
        by simp, by simp [hwf, hci, hfresh], by simpa [BatchRecord.done] using hlv, ?_⟩
      simp only [List.mem_singleton, List.flatMap_cons, List.flatMap_nil, List.append_nil,
        BatchRecord.done, forall_eq]
      exact hwaiting
    simp only [hpass, Bool.false_eq_true, if_false] at h
    obtain ⟨bs, w₁, hruns, hend, rfl, hstarts, hlv', hrest⟩ :=
      runBatches_ok hD hpol hlv.wellFormed hlv.issued h
    refine ⟨⟨w, c, k⟩ :: bs, w₁, .cons hmay hb (fun _ => Bool.eq_false_iff.2 hpass) hruns, hend,
      by simp [Nat.add_assoc], ?_, by simpa [BatchRecord.done] using hlv.trans hlv', ?_⟩
    · simp only [List.mem_cons, forall_eq_or_imp]
      refine ⟨⟨hwf, hci, hfresh⟩, fun b hb' => ?_⟩
      obtain ⟨hwfb, hcib, hlt⟩ := hstarts b hb'
      exact ⟨hwfb, hcib, lt_of_le_of_lt hlv.issuedLe hlt⟩
    · simp only [List.mem_cons, forall_eq_or_imp, List.flatMap_cons, List.mem_append, not_or]
      refine ⟨fun x hx hnx => ?_, fun b hb' x hx hnx => hrest b hb' x hx hnx.2⟩
      obtain ⟨q, hq, hid, hp, hn⟩ := hwaiting x hx hnx.1
      obtain ⟨q', hq', hid', hp', hn'⟩ := hlv'.waiting q hq hp hn (hid ▸ hnx.2)
      exact ⟨q', hq', hid'.trans hid, hp', hn'⟩

/-- Each batch of a run staked its claim at its start. -/
lemma Runs.stakes (h : r.Runs D passed w bs w') :
    ∀ b ∈ bs, ∃ s₁, (Store.stake r.config.batchSize none r.config.filter b.start.clock).run
      b.start.store = .ok b.claim s₁ := by
  induction h with
  | nil => simp
  | cons _ hb _ _ ih =>
    obtain ⟨s₁, -, hst, -⟩ := hb
    simp only [List.mem_cons, forall_eq_or_imp]
    exact ⟨⟨s₁, hst⟩, ih⟩

end Runner

end JobQueue
