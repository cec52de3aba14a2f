import JobQueue.Proofs.Attempts
import JobQueue.Proofs.Successor

/-!
# Unique saves and successors

A unique save checks that no pending or in-progress row has the action's hook, arguments and
group, and inserts only then, in one transaction that holds the write lock from the check to
the insert. A runner that has recorded the result of a recurring action saves its successor
with a plain insert, without that check: the suppression is best effort. Between the record
and the successor's save, another client's unique save of the same action finds no live row
and inserts, and the successor then makes a second live row of that key.

Duplicates arise in no other way. When every save a client asks for is unique, of any two
live rows of one key one was inserted as the successor of a recurring action.

**Main statements**

* `UniqueReachable.duplicates_are_successors` — in every state that clients whose own saves
  are all unique can reach, two live rows of one key include a successor.
* `successor_beside_unique_save` — a reachable state with two live rows of one key.
-/

namespace JobQueue

/-! ## Keys and live rows -/

namespace Row

/-- **The key a unique save compares**: hook, arguments in canonical text, group. -/
def key (r : Row) : String × String × String := (r.hook, r.argsKey, r.group)

/-- A row is live while it is pending or in progress. -/
def Live (r : Row) : Prop := r.status = .pending ∨ r.status = .inProgress

@[simp] lemma key_ofAction (id : ActionId) (a : Action) (due now : Instant) :
    (ofAction id a due now).key = (a.hook, a.args.canonical, a.group) := rfl

lemma Carries.key_eq {r r' : Row} (h : r.Carries r') : r'.key = r.key := by
  simp only [key, h.hook, h.argsKey, h.group]

/-- A live row was live before it was carried over: only pending leads to in progress, and
nothing leads back to either. -/
lemma Carries.live {r r' : Row} (h : r.Carries r') (hl : r'.Live) : r.Live := by
  rcases h.leads with hst | hst | ⟨hst, -⟩
  · unfold Live
    rw [hst]
    exact hl
  · exact .inl hst
  · exact .inr hst

end Row

namespace Store

/-- **What a unique save looks for**: a live row of the action's key. -/
lemma queued_iff (a : Action) (s : Store) :
    queued a s = true ↔ ∃ r ∈ s.rows, r.key = (a.hook, a.args.canonical, a.group) ∧ r.Live := by
  simp [queued, Row.key, Row.Live, Row.statusIn, and_assoc]

end Store

/-! ## The machine of unique saves -/

/-- **A statement a client may run when every save it asks for is unique**: an open
statement other than the plain insert, which only a runner saving a successor still runs. -/
def Stmt.OpenUnique (st : Stmt) : Prop := st.Open ∧ ∀ a due now, st ≠ .insert a due now

/-- **One step when every save a client asks for is unique**: a client takes a step of its
program, or runs an open statement that is not a plain insert. -/
inductive UniqueStep : System → System → Prop
  | move {σ : System} {t : Task} {e : Option Event} (i : Nat) (h : Move (σ.tasks i) σ.store t e) :
      UniqueStep σ (σ.take i t e)
  | write {σ : System} (i : Nat) (st : Stmt) (h : st.OpenUnique) :
      UniqueStep σ (σ.take i (σ.tasks i) (some (.write st)))

/-- The states of every interleaving from the table `s₀` in which every save a client asks for
is unique. -/
def UniqueReachable (s₀ : Store) : System → Prop := Relation.ReflTransGen UniqueStep (.init s₀)

lemma recordStmt_ne_insert (x : ActionId) (result : Except HandlerError Unit) (now : Instant)
    (a : Action) (due now' : Instant) : recordStmt x result now ≠ .insert a due now' := by
  cases result <;> simp [recordStmt]

/-- **The one plain insert of a client's program** saves the successor of a recurring action. -/
lemma Move.recurring_of_insert {t t' : Task} {s : Store} {st : Stmt}
    (h : Move t s t' (some (.write st))) {a : Action} {due now : Instant}
    (hst : st = .insert a due now) : a.isRecurring = true := by
  cases h with
  | successor due now hr h =>
    cases hst
    exact hr
  | recorded _ _ | unrecorded _ | recordFailed _ =>
    exact absurd hst (recordStmt_ne_insert _ _ _ _ _ _)
  | _ => cases hst

namespace System

/-- **Row `x` was saved as a successor**: the log holds a plain insert of a recurring action
that added row `x`, the next id of a writable table. -/
def Successor (σ : System) (x : ActionId) : Prop :=
  ∃ e ∈ σ.log, ∃ a due now, e.event = .write (.insert a due now) ∧ a.isRecurring = true ∧
    e.before.Writable ∧ x = ⟨e.before.lastId + 1⟩

lemma Successor.take {σ : System} {x : ActionId} (h : σ.Successor x) (i : Nat) (t : Task)
    (e : Option Event) : (σ.take i t e).Successor x := by
  obtain ⟨n, hn, rest⟩ := h
  exact ⟨n, mem_take_log.2 (.inl hn), rest⟩

/-- **Live rows of one key beyond one are successors**: of two different live rows of one
key, one was saved as a successor. -/
def DuplicatesAreSuccessors (σ : System) : Prop :=
  ∀ r₁ ∈ σ.store.rows, ∀ r₂ ∈ σ.store.rows, r₁.Live → r₂.Live → r₁.key = r₂.key →
    r₁.id ≠ r₂.id → σ.Successor r₁.id ∨ σ.Successor r₂.id

variable {σ : System} {i : Nat} {t : Task} {st : Stmt}

/-- A row that a write adds beside a live row of its key is a successor: a unique insert adds
none while one is live, so the write was a plain insert, and those save successors. -/
lemma successor_of_added (hins : ∀ a due now, st = .insert a due now → a.isRecurring = true)
    {r : Row} (hr : r ∈ σ.store.rows) (hl : r.Live) {a : Action} {due now : Instant}
    (hw : σ.store.Writable)
    (hst : st = .insert a due now ∨ st = .insertUnique a due now ∧ Store.queued a σ.store = false)
    (hkey : r.key = (Row.ofAction ⟨σ.store.lastId + 1⟩ a due now).key) :
    (σ.take i t (some (.write st))).Successor ⟨σ.store.lastId + 1⟩ := by
  rcases hst with rfl | ⟨rfl, hq⟩
  · exact ⟨_, mem_take_log.2 (.inr ⟨_, rfl, rfl⟩), a, due, now, rfl, hins a due now rfl, hw, rfl⟩
  · have hlive : Store.queued a σ.store = true := (Store.queued_iff a σ.store).2 ⟨r, hr, hkey, hl⟩
    rw [hq] at hlive
    exact absurd hlive Bool.false_ne_true

/-- A step that leaves the table keeps duplicates to successors: the log only grows. -/
lemma DuplicatesAreSuccessors.take_keep (hinv : σ.DuplicatesAreSuccessors) {e : Option Event}
    (hs : (σ.take i t e).store = σ.store) : (σ.take i t e).DuplicatesAreSuccessors := by
  intro r₁ h₁ r₂ h₂ hl₁ hl₂ hkey hne
  rw [hs] at h₁ h₂
  exact (hinv r₁ h₁ r₂ h₂ hl₁ hl₂ hkey hne).imp (·.take i t e) (·.take i t e)

/-- **A write keeps duplicates to successors** when its plain inserts save recurring
actions. -/
lemma DuplicatesAreSuccessors.write (hinv : σ.DuplicatesAreSuccessors)
    (hins : ∀ a due now, st = .insert a due now → a.isRecurring = true) :
    (σ.take i t (some (.write st))).DuplicatesAreSuccessors := by
  intro r₁' h₁ r₂' h₂ hl₁ hl₂ hkey hne
  -- Each row is carried over from the table before, or is the one row the write added.
  rcases Stmt.carries st σ.store r₁' h₁ with ⟨r₁, hr₁, hc₁⟩ | ⟨a₁, due₁, now₁, hw₁, rfl, hst₁⟩ <;>
    rcases Stmt.carries st σ.store r₂' h₂ with ⟨r₂, hr₂, hc₂⟩ | ⟨a₂, due₂, now₂, hw₂, rfl, hst₂⟩
  · -- Both carried over: the rows before were live, of one key, and different.
    have hkey' : r₁.key = r₂.key := by rw [← hc₁.key_eq, ← hc₂.key_eq]; exact hkey
    have hne' : r₁.id ≠ r₂.id := by rwa [hc₁.id, hc₂.id] at hne
    rw [hc₁.id, hc₂.id]
    exact (hinv r₁ hr₁ r₂ hr₂ (hc₁.live hl₁) (hc₂.live hl₂) hkey' hne').imp
      (·.take i t _) (·.take i t _)
  · exact .inr (successor_of_added hins hr₁ (hc₁.live hl₁) hw₂ hst₂ (hc₁.key_eq ▸ hkey))
  · exact .inl (successor_of_added hins hr₂ (hc₂.live hl₂) hw₁ hst₁ (hc₂.key_eq ▸ hkey.symm))
  · -- Both added: one write adds one row.
    exact absurd rfl hne

end System

/-- **Every unique step keeps duplicates to successors**: a client's own program inserts
without a check only successors, and the statements other clients run insert only with it. -/
lemma UniqueStep.duplicatesAreSuccessors {σ σ' : System} (h : UniqueStep σ σ')
    (hinv : σ.DuplicatesAreSuccessors) : σ'.DuplicatesAreSuccessors := by
  cases h with
  | @move t e i hm =>
    rcases e with _ | ev
    · exact hinv.take_keep rfl
    · cases ev with
      | write st => exact hinv.write fun a due now hst => Move.recurring_of_insert hm hst
      | dispatch x => exact hinv.take_keep rfl
      | processed x r => exact hinv.take_keep rfl
      | staked r => exact hinv.take_keep rfl
  | write i st hst => exact hinv.write fun a due now h => absurd h (hst.2 a due now)

/-- **Unique saves repeat a key only through successors**: from a table where no two live rows
share a key, in every interleaving of clients whose own saves are all unique with runners
processing, scheduling successors, staking and cleaning up, of two different live rows of one
key one was inserted as the successor of a recurring action. -/
theorem UniqueReachable.duplicates_are_successors {s₀ : Store}
    (h₀ : ∀ r₁ ∈ s₀.rows, ∀ r₂ ∈ s₀.rows, r₁.Live → r₂.Live → r₁.key = r₂.key → r₁.id = r₂.id)
    {σ : System} (h : UniqueReachable s₀ σ) : σ.DuplicatesAreSuccessors := by
  induction h with
  | refl => exact fun r₁ h₁ r₂ h₂ hl₁ hl₂ hkey hne => absurd (h₀ r₁ h₁ r₂ h₂ hl₁ hl₂ hkey) hne
  | tail _ step ih => exact step.duplicatesAreSuccessors ih

/-- The run of a successor saved beside a unique save: client 1 saves a recurring action
uniquely, and runner 0 reads it, starts it, dispatches it and records its success; client 1
then saves the action uniquely again and finds no live row of its key; runner 0 saves the
successor. It ends with two live rows of one key. -/
lemma unique_save_race :
    ∃ σ, UniqueReachable {} σ ∧ ∃ r₁ ∈ σ.store.rows, ∃ r₂ ∈ σ.store.rows,
      r₁.Live ∧ r₂.Live ∧ r₁.key = r₂.key ∧ r₁.id ≠ r₂.id := by
  let t : Instant := .ofSeconds 1704067200
  let a : Action :=
    { hook := "h", args := .empty, schedule := .interval t ⟨3600, by decide, by decide⟩ }
  -- The table after the first save, the start, the record and the second save.
  let s₁ := (Event.write (.insertUnique a t t)).apply {}
  let s₂ := (Event.write (.start ⟨1⟩ t)).apply s₁
  let s₃ := (Event.write (recordStmt ⟨1⟩ (.ok ()) t)).apply s₂
  let s₄ := (Event.write (.insertUnique a t t)).apply s₃
  let σ₁ := (System.init {}).take 1 .idle (some (.write (.insertUnique a t t)))
  have h₁ : UniqueStep (.init {}) σ₁ :=
    .write 1 (.insertUnique a t t) ⟨trivial, fun _ _ _ => by simp⟩
  -- Runner 0 reads the action pending and recurring, of the key it was saved under.
  let σ₂ := σ₁.take 0 (.fetch ⟨1⟩ t) none
  have h₂ : UniqueStep σ₁ σ₂ := .move 0 (.begin ⟨1⟩ t)
  obtain ⟨b, _, hfetch, hb⟩ := run_ok_of_check (m := Store.fetch ⟨1⟩) (s := s₁)
    (p := fun b => b.status == .pending && b.action.isRecurring && b.action.hook == a.hook &&
      b.action.args.canonical == a.args.canonical && b.action.group == a.group)
    (by decide +kernel)
  simp only [Bool.and_eq_true, beq_iff_eq] at hb
  obtain ⟨⟨⟨⟨hpending, hrec⟩, hhook⟩, hargs⟩, hgroup⟩ := hb
  let σ₃ := σ₂.take 0 (.start ⟨1⟩ b t) none
  have h₃ : UniqueStep σ₂ σ₃ := .move 0 (.pending hfetch hpending)
  -- It starts it, dispatches it and records its success.
  obtain ⟨n, _, hstart, hn⟩ := run_ok_of_check
    (m := Store.move ⟨1⟩ .inProgress [.pending] (Row.started t) t) (s := s₁) (p := (· == 1))
    (by decide +kernel)
  let σ₄ := σ₃.take 0 (.dispatch ⟨1⟩ b t) (some (.write (.start ⟨1⟩ t)))
  have h₄ : UniqueStep σ₃ σ₄ := .move 0 (.started hstart (by simp at hn; omega))
  let σ₅ := σ₄.take 0 (.record ⟨1⟩ b (.ok ()) t) (some (.dispatch ⟨1⟩))
  have h₅ : UniqueStep σ₄ σ₅ := .move 0 (.dispatch (.ok ()))
  obtain ⟨m, _, hrecord, hm⟩ := run_ok_of_check
    (m := Store.move ⟨1⟩ (recordedStatus (.ok ())) [.pending, .inProgress] (Row.attempted t) t)
    (s := s₂) (p := (· == 1)) (by decide +kernel)
  let σ₆ := σ₅.take 0 (.succeed ⟨1⟩ b (outcomeOf (.ok ())))
    (some (.write (recordStmt ⟨1⟩ (.ok ()) t)))
  have h₆ : UniqueStep σ₅ σ₆ := .move 0 (.recorded hrecord (by simp at hm; omega))
  -- Client 1 saves the action uniquely again: its only row is complete.
  let σ₇ := σ₆.take 1 .idle (some (.write (.insertUnique a t t)))
  have h₇ : UniqueStep σ₆ σ₇ := .write 1 (.insertUnique a t t) ⟨trivial, fun _ _ _ => by simp⟩
  have hs₄ : s₄ = s₃.append a t t := by
    show after (Stmt.insertUnique a t t).run s₃ = _
    rw [Stmt.after_insertUnique, if_pos (by decide +kernel)]
  -- Runner 0 saves the successor with a plain insert.
  have hw₄ : s₄.Writable := by decide +kernel
  have hsave :
      (Store.saveAt b.action t t).run s₄ = .ok ⟨s₄.lastId + 1⟩ (s₄.append b.action t t) := by
    rw [Store.saveAt_run hw₄, if_neg (by rw [hhook]; decide +kernel)]
  have h₈ := UniqueStep.move (σ := σ₇) 0 (.successor t t hrec hsave)
  refine ⟨_, .tail (.tail (.tail (.tail (.tail (.tail (.tail (.single h₁) h₂) h₃) h₄) h₅) h₆)
    h₇) h₈, ?_⟩
  have hfinal :
      after (Stmt.insert b.action t t).run s₄ = (s₃.append a t t).append b.action t t := by
    rw [Stmt.after_insert, if_pos hw₄, hs₄]
  show ∃ r₁ ∈ (after (Stmt.insert b.action t t).run s₄).rows,
    ∃ r₂ ∈ (after (Stmt.insert b.action t t).run s₄).rows, _
  rw [hfinal]
  refine ⟨Row.ofAction ⟨s₃.lastId + 1⟩ a t t, by simp [Store.append],
    Row.ofAction ⟨(s₃.append a t t).lastId + 1⟩ b.action t t, by simp [Store.append],
    .inl rfl, .inl rfl, ?_, by simp [Store.append, Row.ofAction]⟩
  simp only [Row.key_ofAction, hhook, hargs, hgroup]

/-- In the run that ends with two live rows of one key, one of them was saved as a
successor. -/
theorem duplicates_beside_unique_save_include_successor :
    ∃ σ, UniqueReachable {} σ ∧ ∃ r₁ ∈ σ.store.rows, ∃ r₂ ∈ σ.store.rows,
      r₁.Live ∧ r₂.Live ∧ r₁.key = r₂.key ∧ r₁.id ≠ r₂.id ∧
        (σ.Successor r₁.id ∨ σ.Successor r₂.id) := by
  obtain ⟨σ, hσ, r₁, h₁, r₂, h₂, hl₁, hl₂, hkey, hne⟩ := unique_save_race
  refine ⟨σ, hσ, r₁, h₁, r₂, h₂, hl₁, hl₂, hkey, hne, ?_⟩
  exact UniqueReachable.duplicates_are_successors (fun _ h => absurd h List.not_mem_nil) hσ
    r₁ h₁ r₂ h₂ hl₁ hl₂ hkey hne

/-- **A successor beside a unique save**: a reachable state with two live rows of one key. -/
theorem successor_beside_unique_save :
    ∃ σ, UniqueReachable {} σ ∧ ∃ r₁ ∈ σ.store.rows, ∃ r₂ ∈ σ.store.rows,
      r₁.Live ∧ r₂.Live ∧ r₁.key = r₂.key ∧ r₁.id ≠ r₂.id :=
  unique_save_race

end JobQueue
