import JobQueue.Proofs.Lifecycle
import JobQueue.Runner

/-!
# Clients interleaved over one table

Runners, stakers, the housekeeper and every other user of the queue share one table, and
nothing orders their statements but the database: each statement runs atomically, and between
two statements of one client any other client may run its own. This file models that as one
machine.

A client is a `Task`, the point its program has reached. Processing an action is the runner's
program cut at its statements: read the action, start it (one conditional write), read its
status if the start moved nothing, hand it to the dispatcher, record the result (a second
conditional write), read the status if that moved nothing, save a successor. Staking a claim
is issuing a claim id, the claim write, the read-back of the claim's rows, and one unclaim per
row found not yet due. Each step of a client runs the store's own function on the shared
table (`Move`). Besides these, any client may at any time run any statement that writes no
claim (`Stmt.Open`): saving, deleting, canceling, housekeeping, releasing claims, other
connections taking the lock, and whatever a handler does while it runs.

The machine keeps a ghost log: every write, dispatch and report, with the table before and
after it. `Linked` says that the log is one run of statements from the initial table to the
current one, and the lemmas below turn that into facts about any two entries of the log.

**Main statements**

* `Reachable.linked` — the log of every reachable state is a run of statements.
* `Reachable.induction` — an invariant that every step preserves holds of every reachable
  state.
* `Linked.reaches_of_sublist` — from an entry to any later one, the table follows by
  statements.
* `Linked.crossing` — a property of the table that holds after one entry and fails before a
  later one is broken by an entry in between.
-/

namespace JobQueue

/-! ## Clients -/

/-- What a step of a client shows the rest of the system. -/
inductive Event where
  /-- One statement, run on the shared table. -/
  | write (st : Stmt)
  /-- An action handed to the dispatcher. -/
  | dispatch (x : ActionId)
  /-- A processing of action `x` returned `r`. -/
  | processed (x : ActionId) (r : Except QueueError ProcessReport)
  /-- A stake returned `r`. -/
  | staked (r : Except QueueError Claim)

namespace Event

/-- The table after the event: a write runs its statement, nothing else writes. -/
def apply : Event → Store → Store
  | .write st, s => after st.run s
  | _, s => s

/-- Whether the event hands `x` to the dispatcher. -/
def dispatches (x : ActionId) : Event → Bool
  | .dispatch y => y == x
  | _ => false

/-- Every event takes the table forward by statements. -/
lemma reaches (e : Event) (s : Store) : Store.Reaches s (e.apply s) := by
  cases e with
  | write st => exact Store.Reaches.single st
  | _ => exact Relation.ReflTransGen.refl

end Event

/-- **An entry of the log**: which client did what, and the table before and after. -/
structure Entry where
  actor : Nat
  event : Event
  before : Store
  after : Store

/-- The status a handler's result is recorded as. -/
def recordedStatus : Except HandlerError Unit → Status
  | .ok () => .complete
  | .error _ => .failed

/-- The statement that records a handler's result. -/
def recordStmt (x : ActionId) (result : Except HandlerError Unit) (now : Instant) : Stmt :=
  match result with
  | .ok () => .complete x now
  | .error _ => .fail x now

/-- The outcome reported for a handler's result. -/
def outcomeOf : Except HandlerError Unit → Outcome
  | .ok () => .completed
  | .error e => .failed e

/-- **How far a client has got** in processing an action or staking a claim. -/
inductive Task where
  | idle
  /-- Processing `x` at clock reading `now`: about to read it. -/
  | fetch (x : ActionId) (now : Instant)
  /-- Read `x` pending as `a`: about to start it. -/
  | start (x : ActionId) (a : StoredAction) (now : Instant)
  /-- The start moved nothing: about to read the status. -/
  | checkStart (x : ActionId)
  /-- Started: about to dispatch. -/
  | dispatch (x : ActionId) (a : StoredAction) (now : Instant)
  /-- The handler returned `result`: about to record it. -/
  | record (x : ActionId) (a : StoredAction) (result : Except HandlerError Unit) (now : Instant)
  /-- The record moved nothing: about to read the status. -/
  | checkRecord (x : ActionId)
  /-- Recorded with `outcome`: about to save a successor, if any. -/
  | succeed (x : ActionId) (a : StoredAction) (outcome : Outcome)
  /-- Processing `x` is over with `r`: about to return it. -/
  | finished (x : ActionId) (r : Except QueueError ProcessReport)
  /-- Staking the fresh claim `c`: about to write it. -/
  | staking (c : ClaimId) (limit : Nat) (horizon : Instant) (f : ClaimFilter) (now : Instant)
  /-- Written: about to read back the rows of `c`. -/
  | reading (c : ClaimId) (horizon : Instant)
  /-- Sieving the rows read back: `kept` so far, `rest` to go. -/
  | sieving (c : ClaimId) (horizon : Instant) (kept : List ActionId)
      (rest : List (ActionId × Instant))
  /-- The stake is over with `r`: about to return it. -/
  | returning (r : Except QueueError Claim)

/-- **One step of a client's own program**: from task `t` on table `s` to task `t'`, showing
an event or not. Each step runs one function of the store on the table. -/
inductive Move : Task → Store → Task → Option Event → Prop
  | begin {s : Store} (x : ActionId) (now : Instant) : Move .idle s (.fetch x now) none
  | skip {s s' : Store} {x : ActionId} {now : Instant} {a : StoredAction}
      (h : (Store.fetch x).run s = .ok a s') (hs : a.status ≠ .pending) :
      Move (.fetch x now) s (.finished x (.ok { id := x, outcome := .skipped a.status })) none
  | pending {s s' : Store} {x : ActionId} {now : Instant} {a : StoredAction}
      (h : (Store.fetch x).run s = .ok a s') (hs : a.status = .pending) :
      Move (.fetch x now) s (.start x a now) none
  | unread {s s' : Store} {x : ActionId} {now : Instant} {e : QueueError}
      (h : (Store.fetch x).run s = .error e s') :
      Move (.fetch x now) s (.finished x (.error e)) none
  | started {s s' : Store} {x : ActionId} {a : StoredAction} {now : Instant} {n : Nat}
      (h : (Store.move x .inProgress [.pending] (Row.started now) now).run s = .ok n s')
      (hn : n ≠ 0) :
      Move (.start x a now) s (.dispatch x a now) (some (.write (.start x now)))
  | unstarted {s s' : Store} {x : ActionId} {a : StoredAction} {now : Instant}
      (h : (Store.move x .inProgress [.pending] (Row.started now) now).run s = .ok 0 s') :
      Move (.start x a now) s (.checkStart x) (some (.write (.start x now)))
  | startFailed {s s' : Store} {x : ActionId} {a : StoredAction} {now : Instant}
      {e : QueueError}
      (h : (Store.move x .inProgress [.pending] (Row.started now) now).run s = .error e s') :
      Move (.start x a now) s (.finished x (.error e)) (some (.write (.start x now)))
  | raced {s s' : Store} {x : ActionId} {st : Status} (h : (Store.status x).run s = .ok st s') :
      Move (.checkStart x) s (.finished x (.ok { id := x, outcome := .skipped st })) none
  | vanished {s s' : Store} {x : ActionId} {e : QueueError}
      (h : (Store.status x).run s = .error e s') :
      Move (.checkStart x) s (.finished x (.error e)) none
  | dispatch {s : Store} {x : ActionId} {a : StoredAction} {now : Instant}
      (result : Except HandlerError Unit) :
      Move (.dispatch x a now) s (.record x a result now) (some (.dispatch x))
  | recorded {s s' : Store} {x : ActionId} {a : StoredAction} {result : Except HandlerError Unit}
      {now : Instant} {n : Nat}
      (h : (Store.move x (recordedStatus result) [.pending, .inProgress] (Row.attempted now)
        now).run s = .ok n s') (hn : n ≠ 0) :
      Move (.record x a result now) s (.succeed x a (outcomeOf result))
        (some (.write (recordStmt x result now)))
  | unrecorded {s s' : Store} {x : ActionId} {a : StoredAction}
      {result : Except HandlerError Unit} {now : Instant}
      (h : (Store.move x (recordedStatus result) [.pending, .inProgress] (Row.attempted now)
        now).run s = .ok 0 s') :
      Move (.record x a result now) s (.checkRecord x) (some (.write (recordStmt x result now)))
  | recordFailed {s s' : Store} {x : ActionId} {a : StoredAction}
      {result : Except HandlerError Unit} {now : Instant} {e : QueueError}
      (h : (Store.move x (recordedStatus result) [.pending, .inProgress] (Row.attempted now)
        now).run s = .error e s') :
      Move (.record x a result now) s (.finished x (.error e))
        (some (.write (recordStmt x result now)))
  | interrupted {s s' : Store} {x : ActionId} {st : Status}
      (h : (Store.status x).run s = .ok st s') :
      Move (.checkRecord x) s (.finished x (.ok { id := x, outcome := .interrupted st })) none
  | lost {s s' : Store} {x : ActionId} {e : QueueError}
      (h : (Store.status x).run s = .error e s') :
      Move (.checkRecord x) s (.finished x (.error e)) none
  /-- No successor: the action does not recur, the policy stops it, it has no next time, or
  saving it failed. -/
  | succeed {s : Store} {x : ActionId} {a : StoredAction} {o : Outcome} :
      Move (.succeed x a o) s (.finished x (.ok { id := x, outcome := o })) none
  | successor {s s' : Store} {x : ActionId} {a : StoredAction} {o : Outcome} {y : ActionId}
      (due now : Instant) (hr : a.action.isRecurring = true)
      (h : (Store.saveAt a.action due now).run s = .ok y s') :
      Move (.succeed x a o) s (.finished x (.ok { id := x, outcome := o, successor := some y }))
        (some (.write (.insert a.action due now)))
  | report {s : Store} {x : ActionId} {r : Except QueueError ProcessReport} :
      Move (.finished x r) s .idle (some (.processed x r))
  /-- Issue a fresh claim id, with a limit of zero: the claim is empty. -/
  | issueEmpty {s s' : Store} {c : ClaimId} (h : Store.freshClaim.run s = .ok c s') :
      Move .idle s (.returning (.ok ⟨c, []⟩)) (some (.write .issue))
  /-- Issue a fresh claim id, to stake up to `limit` actions due by `before` (now if unset),
  cut to the whole second. -/
  | issue {s s' : Store} {c : ClaimId} (limit : Nat) (before : Option Instant) (f : ClaimFilter)
      (now : Instant) (hl : limit ≠ 0) (h : Store.freshClaim.run s = .ok c s') :
      Move .idle s (.staking c limit (before.getD now).truncSeconds f now) (some (.write .issue))
  | stake {s s' : Store} {c : ClaimId} {limit : Nat} {horizon : Instant} {f : ClaimFilter}
      {now : Instant} {n : Nat} (h : (Store.stakeWrite c limit horizon f now).run s = .ok n s') :
      Move (.staking c limit horizon f now) s (.reading c horizon)
        (some (.write (.stake c limit horizon f now)))
  | stakeFailed {s s' : Store} {c : ClaimId} {limit : Nat} {horizon : Instant} {f : ClaimFilter}
      {now : Instant} {e : QueueError}
      (h : (Store.stakeWrite c limit horizon f now).run s = .error e s') :
      Move (.staking c limit horizon f now) s (.returning (.error e))
        (some (.write (.stake c limit horizon f now)))
  | readBack {s s' : Store} {c : ClaimId} {horizon : Instant} {rows : List (ActionId × Instant)}
      (h : (Store.claimedRows c).run s = .ok rows s') :
      Move (.reading c horizon) s (.sieving c horizon [] rows) none
  | readFailed {s s' : Store} {c : ClaimId} {horizon : Instant} {e : QueueError}
      (h : (Store.claimedRows c).run s = .error e s') :
      Move (.reading c horizon) s (.returning (.error e)) none
  | keep {s : Store} {c : ClaimId} {horizon : Instant} {kept : List ActionId} {x : ActionId}
      {t : Instant} {rest : List (ActionId × Instant)} (ht : t ≤ horizon) :
      Move (.sieving c horizon kept ((x, t) :: rest)) s (.sieving c horizon (kept ++ [x]) rest)
        none
  | drop {s s' : Store} {c : ClaimId} {horizon : Instant} {kept : List ActionId} {x : ActionId}
      {t : Instant} {rest : List (ActionId × Instant)} (ht : ¬ t ≤ horizon)
      (h : (Store.unclaimFrom c x).run s = .ok () s') :
      Move (.sieving c horizon kept ((x, t) :: rest)) s (.sieving c horizon kept rest)
        (some (.write (.unclaimFrom c x)))
  | dropFailed {s s' : Store} {c : ClaimId} {horizon : Instant} {kept : List ActionId}
      {x : ActionId} {t : Instant} {rest : List (ActionId × Instant)} {e : QueueError}
      (ht : ¬ t ≤ horizon) (h : (Store.unclaimFrom c x).run s = .error e s') :
      Move (.sieving c horizon kept ((x, t) :: rest)) s (.returning (.error e))
        (some (.write (.unclaimFrom c x)))
  | sieved {s : Store} {c : ClaimId} {horizon : Instant} {kept : List ActionId} :
      Move (.sieving c horizon kept []) s (.returning (.ok ⟨c, kept⟩)) none
  | answer {s : Store} {r : Except QueueError Claim} :
      Move (.returning r) s .idle (some (.staked r))

/-- **A statement any client may run at any time**: all but the claim write and the unclaim
of a row found not yet due, which only the staker that issued the claim runs. -/
def Stmt.Open : Stmt → Prop
  | .stake .. | .unclaimFrom .. => False
  | _ => True

/-! ## The machine -/

/-- **The shared table, every client's task, and the ghost log.** -/
structure System where
  store : Store
  tasks : Nat → Task
  log : List Entry

namespace System

/-- The table `s` with every client idle and nothing logged. -/
def init (s : Store) : System := ⟨s, fun _ => .idle, []⟩

/-- Client `i` moves on to task `t`, showing an event or not. -/
def take (σ : System) (i : Nat) (t : Task) : Option Event → System
  | none => { σ with tasks := Function.update σ.tasks i t }
  | some e => { store := e.apply σ.store, tasks := Function.update σ.tasks i t,
                log := σ.log ++ [⟨i, e, σ.store, e.apply σ.store⟩] }

@[simp] lemma take_tasks (σ : System) (i : Nat) (t : Task) (e : Option Event) :
    (σ.take i t e).tasks = Function.update σ.tasks i t := by
  cases e <;> rfl

/-- After a step of task `i`, task `j` is the step's new task if `j` is `i`, and as it was
otherwise. -/
lemma take_tasks_cases (σ : System) (i : Nat) (t : Task) (e : Option Event) (j : Nat) :
    (j = i ∧ (σ.take i t e).tasks j = t) ∨ (j ≠ i ∧ (σ.take i t e).tasks j = σ.tasks j) := by
  by_cases hj : j = i
  · subst hj
    exact .inl ⟨rfl, by simp⟩
  · exact .inr ⟨hj, by simp [Function.update_of_ne hj]⟩

lemma take_log (σ : System) (i : Nat) (t : Task) (e : Option Event) :
    (σ.take i t e).log =
      σ.log ++ (e.map fun ev => (⟨i, ev, σ.store, ev.apply σ.store⟩ : Entry)).toList := by
  cases e <;> simp [take]

/-- The log after a step: the old entries, and the step's own if it showed an event. -/
lemma mem_take_log {σ : System} {i : Nat} {t : Task} {e : Option Event} {n : Entry} :
    n ∈ (σ.take i t e).log ↔
      n ∈ σ.log ∨ ∃ ev, e = some ev ∧ n = ⟨i, ev, σ.store, ev.apply σ.store⟩ := by
  rw [take_log]
  cases e <;> simp

lemma log_sublist_take (σ : System) (i : Nat) (t : Task) (e : Option Event) :
    σ.log.Sublist (σ.take i t e).log := by
  rw [take_log]
  exact List.sublist_append_left _ _

lemma take_store (σ : System) (i : Nat) (t : Task) (e : Option Event) :
    (σ.take i t e).store = match e with
      | none => σ.store
      | some ev => ev.apply σ.store := by
  cases e <;> rfl

/-- A step that shows no event leaves the table as it was. -/
lemma store_take_none (σ : System) (i : Nat) (t : Task) : (σ.take i t none).store = σ.store := rfl

/-- A step that shows an event leaves the table as the event takes it. -/
lemma store_take_some (σ : System) (i : Nat) (t : Task) (ev : Event) :
    (σ.take i t (some ev)).store = ev.apply σ.store := rfl

/-- An entry of the log stands before the entry of the next step that shows an event. -/
lemma sublist_take_of_mem {σ : System} {a : Entry} (ha : a ∈ σ.log) (i : Nat) (t : Task)
    (ev : Event) : [a, ⟨i, ev, σ.store, ev.apply σ.store⟩].Sublist (σ.take i t (some ev)).log :=
  (List.singleton_sublist.2 ha).append (List.Sublist.refl _)

/-- Two entries in order after a step: both old, or an old one and the step's own. -/
lemma pair_sublist_take {σ : System} {i : Nat} {t : Task} {e : Option Event} {a b : Entry}
    (h : [a, b].Sublist (σ.take i t e).log) :
    [a, b].Sublist σ.log ∨
      a ∈ σ.log ∧ ∃ ev, e = some ev ∧ b = ⟨i, ev, σ.store, ev.apply σ.store⟩ := by
  rw [take_log] at h
  rcases e with _ | ev
  · simpa using h
  · obtain ⟨l₁, l₂, hl, h₁, h₂⟩ := List.sublist_append_iff.1 h
    simp only [Option.map_some, Option.toList_some] at h₂
    rcases List.sublist_singleton.1 h₂ with rfl | rfl
    · rw [List.append_nil] at hl
      exact .inl (hl ▸ h₁)
    · -- The step's entry is the last one, so it is `b`, and `a` is old.
      obtain ⟨rfl, hb⟩ := List.append_inj' (show [a] ++ [b] = l₁ ++ [_] from hl) rfl
      obtain rfl := List.singleton_inj.1 hb
      exact .inr ⟨List.singleton_sublist.1 h₁, ev, rfl, rfl⟩

end System

/-- **One step of the system**: a client takes a step of its program, or runs an open
statement between two of them. -/
inductive Step : System → System → Prop
  | move {σ : System} {t : Task} {e : Option Event} (i : Nat) (h : Move (σ.tasks i) σ.store t e) :
      Step σ (σ.take i t e)
  | write {σ : System} (i : Nat) (st : Stmt) (h : st.Open) :
      Step σ (σ.take i (σ.tasks i) (some (.write st)))

/-- **What a step does to one client**: a move of its program, or an open statement run while
its task waits. -/
def Acts (t : Task) (s : Store) (t' : Task) (e : Option Event) : Prop :=
  Move t s t' e ∨ (t' = t ∧ ∃ st, st.Open ∧ e = some (.write st))

/-- Every step is one client acting. -/
lemma Step.acts {σ σ' : System} (h : Step σ σ') :
    ∃ i t e, Acts (σ.tasks i) σ.store t e ∧ σ' = σ.take i t e := by
  cases h with
  | move i h => exact ⟨i, _, _, .inl h, rfl⟩
  | write i st h => exact ⟨i, _, _, .inr ⟨rfl, st, h, rfl⟩, rfl⟩

/-- A step only appends to the log. -/
lemma Step.log_sublist {σ σ' : System} (h : Step σ σ') : σ.log.Sublist σ'.log := by
  obtain ⟨i, t, e, -, rfl⟩ := h.acts
  exact σ.log_sublist_take i t e

/-- So does a run of steps. -/
lemma log_sublist_of_steps {σ σ' : System} (h : Relation.ReflTransGen Step σ σ') :
    σ.log.Sublist σ'.log := by
  induction h with
  | refl => exact List.Sublist.refl _
  | tail _ hstep ih => exact ih.trans hstep.log_sublist

/-- The states of every interleaving that starts from the table `s₀`. -/
def Reachable (s₀ : Store) : System → Prop := Relation.ReflTransGen Step (.init s₀)

/-- **Invariants by induction over the run**: what holds initially and every step from a
reachable state preserves holds of every reachable state. -/
theorem Reachable.induction {s₀ : Store} {P : System → Prop} (h₀ : P (.init s₀))
    (hstep : ∀ {σ σ'}, Reachable s₀ σ → P σ → Step σ σ' → P σ') {σ : System}
    (h : Reachable s₀ σ) : P σ := by
  induction h with
  | refl => exact h₀
  | tail hreach step ih => exact hstep hreach ih step

/-! ## The log is a run of statements -/

/-- Two different elements of a list stand one before the other. -/
lemma pair_sublist_of_mem {α : Type} {a b : α} {l : List α} (ha : a ∈ l) (hb : b ∈ l)
    (hne : a ≠ b) : [a, b].Sublist l ∨ [b, a].Sublist l := by
  induction l with
  | nil => cases ha
  | cons c l ih =>
    rcases List.mem_cons.1 ha with rfl | ha'
    · have hb' := (List.mem_cons.1 hb).resolve_left (Ne.symm hne)
      exact .inl (List.cons_sublist_cons.2 (List.singleton_sublist.2 hb'))
    · rcases List.mem_cons.1 hb with rfl | hb'
      · exact .inr (List.cons_sublist_cons.2 (List.singleton_sublist.2 ha'))
      · exact (ih ha' hb').imp (·.cons c) (·.cons c)

/-- Two elements in order split a list around them. -/
lemma split_of_pair_sublist {α : Type} {a b : α} {l : List α} (h : [a, b].Sublist l) :
    ∃ l₁ l₂ l₃, l = l₁ ++ a :: (l₂ ++ b :: l₃) := by
  obtain ⟨r₁, r₂, rfl, h₁, h₂⟩ := List.cons_sublist_iff.1 h
  obtain ⟨l₁, m, rfl⟩ := List.append_of_mem h₁
  obtain ⟨n, l₃, rfl⟩ := List.append_of_mem (List.singleton_sublist.1 h₂)
  exact ⟨l₁, m ++ n, l₃, by simp⟩

/-- **The log `l` takes the table from `s` to `t`**: each entry starts where the one before
ended, and ends where its event takes it. -/
inductive Linked : Store → List Entry → Store → Prop
  | nil (s : Store) : Linked s [] s
  | cons {e : Entry} {l : List Entry} {t : Store} (he : e.after = e.event.apply e.before)
      (hl : Linked e.after l t) : Linked e.before (e :: l) t

namespace Linked

variable {s t : Store} {l : List Entry}

lemma snoc (h : Linked s l t) (i : Nat) (ev : Event) :
    Linked s (l ++ [⟨i, ev, t, ev.apply t⟩]) (ev.apply t) := by
  induction h with
  | nil s => exact Linked.cons (e := ⟨i, ev, s, ev.apply s⟩) rfl (.nil _)
  | cons he _ ih => exact .cons he ih

lemma split {l₁ l₂ : List Entry} (h : Linked s (l₁ ++ l₂) t) :
    ∃ m, Linked s l₁ m ∧ Linked m l₂ t := by
  induction l₁ generalizing s with
  | nil => exact ⟨s, .nil s, h⟩
  | cons e l₁ ih =>
    cases h with
    | cons he hl =>
      obtain ⟨m, h₁, h₂⟩ := ih hl
      exact ⟨m, .cons he h₁, h₂⟩

/-- A log takes the table forward by statements. -/
lemma reaches (h : Linked s l t) : Store.Reaches s t := by
  induction h with
  | nil s => exact Relation.ReflTransGen.refl
  | cons he _ ih => exact (he ▸ Event.reaches _ _).trans ih

/-- An entry of the log: reached from the start, ended where its event takes it, and going
on to the end. -/
lemma of_mem {e : Entry} (h : Linked s l t) (he : e ∈ l) :
    Store.Reaches s e.before ∧ e.after = e.event.apply e.before ∧ Store.Reaches e.after t := by
  obtain ⟨l₁, l₂, rfl⟩ := List.append_of_mem he
  obtain ⟨m, h₁, h₂⟩ := h.split
  cases h₂ with
  | cons he' hl => exact ⟨h₁.reaches, he', hl.reaches⟩

/-- A log entry starts where the log does, and what follows it starts where it ends. -/
lemma cons_inv {e : Entry} (h : Linked s (e :: l) t) :
    s = e.before ∧ e.after = e.event.apply e.before ∧ Linked e.after l t := by
  cases h with
  | cons he hl => exact ⟨rfl, he, hl⟩

/-- **From an entry to a later one the table follows by statements.** -/
lemma reaches_of_sublist {e₁ e₂ : Entry} (h : Linked s l t) (hs : [e₁, e₂].Sublist l) :
    Store.Reaches e₁.after e₂.before := by
  obtain ⟨r₁, r₂, rfl, h₁, h₂⟩ := List.cons_sublist_iff.1 hs
  obtain ⟨m, hr₁, hr₂⟩ := h.split
  exact (hr₁.of_mem h₁).2.2.trans (hr₂.of_mem (List.singleton_sublist.1 h₂)).1

/-- A property of the table that the log breaks is broken by one of its entries. -/
lemma broken (P : Store → Prop) (h : Linked s l t) (hs : P s) (ht : ¬ P t) :
    ∃ e ∈ l, P e.before ∧ ¬ P e.after := by
  induction h with
  | nil s => exact absurd hs ht
  | @cons e l t _ _ ih =>
    by_cases hp : P e.after
    · obtain ⟨e', he', h₁, h₂⟩ := ih hp ht
      exact ⟨e', List.mem_cons_of_mem e he', h₁, h₂⟩
    · exact ⟨e, List.mem_cons_self, hs, hp⟩

/-- **A property that holds after one entry and fails before a later one is broken by an
entry in between.** -/
lemma crossing {e₁ e₂ : Entry} (P : Store → Prop) (h : Linked s l t)
    (hs : [e₁, e₂].Sublist l) (h₁ : P e₁.after) (h₂ : ¬ P e₂.before) :
    ∃ e, [e₁, e, e₂].Sublist l ∧ P e.before ∧ ¬ P e.after := by
  obtain ⟨a, b, d, rfl⟩ := split_of_pair_sublist hs
  -- The entries strictly between the two take the table from one to the other.
  have hb : Linked e₁.after b e₂.before := by
    obtain ⟨m, -, hm⟩ := h.split
    obtain ⟨-, -, hl⟩ := hm.cons_inv
    obtain ⟨m', hb, hm'⟩ := hl.split
    obtain ⟨rfl, -, -⟩ := hm'.cons_inv
    exact hb
  obtain ⟨e, he, hbefore, hafter⟩ := broken P hb h₁ h₂
  refine ⟨e, List.sublist_append_of_sublist_right ?_, hbefore, hafter⟩
  exact List.cons_sublist_cons.2 (List.Sublist.append (List.singleton_sublist.2 he)
    (List.cons_sublist_cons.2 (List.nil_sublist d)))

end Linked

/-- **The log of every reachable state is a run of statements** from the initial table to the
current one. -/
theorem Reachable.linked {s₀ : Store} {σ : System} (h : Reachable s₀ σ) :
    Linked s₀ σ.log σ.store := by
  induction h with
  | refl => exact .nil s₀
  | tail _ step ih =>
    cases step with
    | move i hmove =>
      rename_i e
      cases e with
      | none => exact ih
      | some e => exact ih.snoc i e
    | write i st _ => exact ih.snoc i (.write st)

/-- Every table the log passes through is well formed. -/
theorem Linked.wellFormed {s t : Store} {l : List Entry} (h : Linked s l t) (hs : s.WellFormed) :
    t.WellFormed ∧ ∀ e ∈ l, e.before.WellFormed ∧ e.after.WellFormed := by
  refine ⟨h.reaches.wellFormed hs, fun e he => ?_⟩
  obtain ⟨h₁, h₂, -⟩ := h.of_mem he
  have hb := h₁.wellFormed hs
  exact ⟨hb, h₂ ▸ (Event.reaches _ _).wellFormed hb⟩

end JobQueue
