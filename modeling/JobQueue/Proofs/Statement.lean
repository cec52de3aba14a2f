import JobQueue.Housekeeping
import Mathlib.Logic.Relation
import Mathlib.Tactic.Lemma

/-!
# Atomic statements

The store keeps its table in a database, and the database runs every statement atomically
against every other connection: statements of different clients interleave, the parts of one
statement never do. This file names the statements. `Stmt` lists the writes of the store's
API with their arguments, and `Stmt.run` is the write itself: the very store operation the API
runs, so a fact proved of a statement is a fact about the API. Reads change nothing and are
left out. Two steps that are not SQL are in as well: issuing a claim id, and another connection
taking or dropping the write lock.

A statement that fails keeps what it wrote before failing, as every store operation does;
`after` is the store an operation leaves either way, and `Store.Reaches` relates two
stores joined by a sequence of statements.

**Run lemmas.** The primitives every write is made of (`beginWrite`, `rewrite`, `discard`,
`insert`) get one lemma each saying what they do to a store, and every statement one lemma
(`Stmt.after_*`) saying which store it leaves, in one of three shapes: rows rewritten in place
(`Store.remap`), rows deleted (`Store.cull`), or one row appended (`Store.append`). No later
proof unfolds them.
-/

namespace JobQueue

/-- **An atomic statement** of the store: one write, with its arguments. -/
inductive Stmt where
  /-- Insert a new pending action (saving one, or a successor). -/
  | insert (a : Action) (due now : Instant)
  /-- Insert unless an equal action is queued, in one transaction. -/
  | insertUnique (a : Action) (due now : Instant)
  | delete (id : ActionId)
  /-- The write of starting an action. -/
  | start (id : ActionId) (now : Instant)
  /-- The write of recording success. -/
  | complete (id : ActionId) (now : Instant)
  /-- The write of recording failure. -/
  | fail (id : ActionId) (now : Instant)
  /-- The write of canceling one action. -/
  | cancel (id : ActionId) (now : Instant)
  | cancelPending (hook : Option String) (args : Option Args) (group : Option String)
      (now : Instant)
  /-- Issue a fresh claim id. -/
  | issue
  /-- The claim write for claim `c`. -/
  | stake (c : ClaimId) (limit : Nat) (horizon : Instant) (f : ClaimFilter) (now : Instant)
  /-- Unclaim an action of claim `c` found not yet due. -/
  | unclaimFrom (c : ClaimId) (id : ActionId)
  | release (c : ClaimId)
  | unclaim (id : ActionId)
  | releaseStale (cutoff : Instant)
  | failStale (cutoff now : Instant)
  | deleteFinished (cutoff : Instant) (limit : Nat)
  | setLock (kind : String) (ttl : Nat) (now : Instant)
  | releaseLock (kind : String)
  /-- Another connection takes (`true`) or drops (`false`) the write lock. -/
  | exclusive (held : Bool)

namespace Stmt

/-- **The statement's write**, as the store's API runs it. -/
def run : Stmt → StoreM Unit
  | .insert a due now => do let _ ← Store.insert a due now
  | .insertUnique a due now => do let _ ← Store.insertUnique a due now
  | .delete id => Store.delete id
  | .start id now => do let _ ← Store.move id .inProgress [.pending] (Row.started now) now
  | .complete id now => do
    let _ ← Store.move id .complete [.pending, .inProgress] (Row.attempted now) now
  | .fail id now => do
    let _ ← Store.move id .failed [.pending, .inProgress] (Row.attempted now) now
  | .cancel id now => do let _ ← Store.move id .canceled [.pending, .inProgress] (fun r => r) now
  | .cancelPending hook args group now => do
    let _ ← Store.cancelPending hook args group now
  | .issue => do let _ ← Store.freshClaim
  | .stake c limit horizon f now => do let _ ← Store.stakeWrite c limit horizon f now
  | .unclaimFrom c id => Store.unclaimFrom c id
  | .release c => do let _ ← Store.releaseClaim c
  | .unclaim id => Store.unclaim id
  | .releaseStale cutoff => do let _ ← Store.releaseStaleClaims cutoff
  | .failStale cutoff now => do let _ ← Store.failStaleInProgress cutoff now
  | .deleteFinished cutoff limit => do let _ ← Store.deleteFinished cutoff limit
  | .setLock kind ttl now => do let _ ← Store.setLock kind ttl now
  | .releaseLock kind => Store.releaseLock kind
  | .exclusive held => modify fun s => { s with writeLocked := held }

end Stmt

/-! ## What a computation leaves -/

section After

variable {ε σ α β : Type}

/-- **The state a computation leaves**, whether it succeeds or fails: a failure keeps what was
written before it. -/
def after (m : EStateM ε σ α) (s : σ) : σ :=
  match m.run s with
  | .ok _ s' => s'
  | .error _ s' => s'

lemma after_of_ok {m : EStateM ε σ α} {s s' : σ} {a : α} (h : m.run s = .ok a s') :
    after m s = s' := by
  simp only [after, h]

lemma after_of_error {m : EStateM ε σ α} {s s' : σ} {e : ε} (h : m.run s = .error e s') :
    after m s = s' := by
  simp only [after, h]

lemma after_bind (m : EStateM ε σ α) (f : α → EStateM ε σ β) (s : σ) :
    after (m >>= f) s = match m.run s with
      | .ok a s' => after (f a) s'
      | .error _ s' => s' := by
  simp only [after, EStateM.run_bind]
  cases m.run s <;> rfl

lemma after_pure (a : α) (s : σ) : after (pure a : EStateM ε σ α) s = s := rfl

/-- A result thrown away changes nothing about the state left behind. -/
lemma after_map (g : α → β) (m : EStateM ε σ α) (s : σ) : after (g <$> m) s = after m s := by
  simp only [after, Functor.map, EStateM.map, EStateM.run]
  cases m s <;> rfl

lemma after_bind_pure (m : EStateM ε σ α) (b : β) (s : σ) :
    after (m >>= fun _ => pure b) s = after m s := by
  rw [after_bind]
  unfold after
  cases m.run s <;> rfl

/-- A handler runs on the state the failure left: nothing is rolled back. -/
lemma tryCatch_run (m : EStateM ε σ α) (h : ε → EStateM ε σ α) (s : σ) :
    (MonadExcept.tryCatch m h).run s = match m.run s with
      | .ok a s' => .ok a s'
      | .error e s' => (h e).run s' := by
  show EStateM.tryCatch m h s = _
  unfold EStateM.tryCatch EStateM.run
  cases m s <;> rfl

end After

namespace Store

/-- One statement takes `s` to `s'`. -/
def Step (s s' : Store) : Prop := ∃ st : Stmt, s' = after st.run s

/-- **A sequence of statements** takes `s` to `s'`. -/
def Reaches : Store → Store → Prop := Relation.ReflTransGen Step

/-- A count checked against zero: throwing or not, the store stays. -/
lemma after_unless_zero (n : Nat) (e : QueueError) (s : Store) :
    after (if n == 0 then throw e else pure () : StoreM Unit) s = s := by
  split <;> rfl

lemma Reaches.single {s : Store} (st : Stmt) : Reaches s (after st.run s) :=
  Relation.ReflTransGen.single ⟨st, rfl⟩

/-! ## The primitives -/

/-- A connection that may write now: not read-only, and no other connection holds the lock. -/
def Writable (s : Store) : Prop := s.readOnly = false ∧ s.writeLocked = false

instance (s : Store) : Decidable s.Writable := inferInstanceAs (Decidable (_ ∧ _))

lemma beginWrite_run (s : Store) :
    beginWrite.run s = if s.readOnly then .error readOnlyRefusal s
      else if s.writeLocked then .error lockedOut s else .ok () s := by
  cases h₁ : s.readOnly <;> cases h₂ : s.writeLocked <;>
    simp [beginWrite, h₁, h₂, EStateM.run_bind, EStateM.run_get, EStateM.run_throw]

lemma beginWrite_run_of_writable {s : Store} (h : s.Writable) : beginWrite.run s = .ok () s := by
  simp [beginWrite_run, h.1, h.2]

/-- Taking the write lock fails with a database error, leaving the store as it was, unless the
store is writable. -/
lemma beginWrite_run_of_not_writable {s : Store} (h : ¬ s.Writable) :
    ∃ d, beginWrite.run s = .error (.database d) s := by
  rw [beginWrite_run]
  unfold Writable at h
  cases h₁ : s.readOnly <;> cases h₂ : s.writeLocked <;> simp_all [readOnlyRefusal, lockedOut]

/-- A write that needs the lock: the rest of it runs on the same store, or nothing happens. -/
lemma after_beginWrite_bind {β : Type} (f : Unit → StoreM β) (s : Store) :
    after (beginWrite >>= f) s = if s.Writable then after (f ()) s else s := by
  rw [after_bind]
  by_cases h : s.Writable
  · simp only [beginWrite_run_of_writable h, if_pos h]
  · obtain ⟨d, hd⟩ := beginWrite_run_of_not_writable h
    simp only [hd, if_neg h]

lemma rewrite_run (p : Row → Bool) (f : Row → Row) (s : Store) :
    (rewrite p f).run s =
      .ok (s.rows.filter p).length { s with rows := s.rows.map fun r => if p r then f r else r } :=
  rfl

lemma discard_run (p : Row → Bool) (s : Store) :
    (discard p).run s = .ok (s.rows.filter p).length { s with rows := s.rows.filter fun r => !p r } :=
  rfl

lemma freshClaim_run (s : Store) :
    freshClaim.run s = .ok ⟨s.claimsIssued + 1⟩ { s with claimsIssued := s.claimsIssued + 1 } :=
  rfl

/-- Inserting on a writable store appends the new pending row with the next id. -/
lemma insert_run {s : Store} (a : Action) (due now : Instant) (h : s.Writable) :
    (insert a due now).run s = .ok ⟨s.lastId + 1⟩
      { s with rows := s.rows ++ [Row.ofAction ⟨s.lastId + 1⟩ a due now],
               lastId := s.lastId + 1 } := by
  simp only [insert, EStateM.run_bind, beginWrite_run_of_writable h]
  rfl

lemma mem_window {α : Type} {limit offset : Int} {xs : List α} {x : α}
    (h : x ∈ window limit offset xs) : x ∈ xs := by
  unfold window at h
  split at h
  · exact List.mem_of_mem_drop h
  · exact List.mem_of_mem_drop (List.mem_of_mem_take h)

/-! ## The three shapes of a write -/

/-- The store with the rows that satisfy `p` rewritten by `f`. -/
def remap (p : Row → Bool) (f : Row → Row) (s : Store) : Store :=
  { s with rows := s.rows.map fun r => if p r then f r else r }

/-- The store without the rows that satisfy `p`. -/
def cull (p : Row → Bool) (s : Store) : Store := { s with rows := s.rows.filter fun r => !p r }

/-- The store with a new row for `a`, due at `due`, under the next id. -/
def append (a : Action) (due now : Instant) (s : Store) : Store :=
  { s with rows := s.rows ++ [Row.ofAction ⟨s.lastId + 1⟩ a due now], lastId := s.lastId + 1 }

lemma after_insert (a : Action) (due now : Instant) (s : Store) :
    after (insert a due now) s = if s.Writable then append a due now s else s := by
  by_cases h : s.Writable
  · rw [if_pos h, after_of_ok (insert_run a due now h)]
    rfl
  · obtain ⟨d, hd⟩ := beginWrite_run_of_not_writable h
    rw [if_neg h]
    exact after_of_error (e := .database d) (by simp only [insert, EStateM.run_bind, hd])

/-- A write that leaves the table alone: the same rows, ids and claim count. -/
def Keeps (s s' : Store) : Prop :=
  s'.rows = s.rows ∧ s'.lastId = s.lastId ∧ s'.claimsIssued = s.claimsIssued

lemma Keeps.refl (s : Store) : Keeps s s := ⟨rfl, rfl, rfl⟩

lemma after_rewrite_bind {β : Type} (p : Row → Bool) (f : Row → Row) (k : Nat → StoreM β)
    (s : Store) : after (rewrite p f >>= k) s = after (k (s.rows.filter p).length) (remap p f s) := by
  rw [after_bind, rewrite_run]
  rfl

lemma after_discard_bind {β : Type} (p : Row → Bool) (k : Nat → StoreM β) (s : Store) :
    after (discard p >>= k) s = after (k (s.rows.filter p).length) (cull p s) := by
  rw [after_bind, discard_run]
  rfl

end Store

namespace Stmt

open Store

/-- The write of a move: the row with the id, if its status is one of `sources`, takes the
target and `extra`. -/
lemma after_move (id : ActionId) (target : Status) (sources : List Status) (extra : Row → Row)
    (now : Instant) (s : Store) :
    after (do let _ ← move id target sources extra now) s =
      if s.Writable then remap (fun r => r.id == id && r.statusIn sources)
        (fun r => extra { r with status := target, updatedAt := .ofInstant now }) s else s := by
  simp only [move, bind_assoc, after_beginWrite_bind, after_rewrite_bind]
  rfl

lemma after_insert (a : Action) (due now : Instant) (s : Store) :
    after (Stmt.insert a due now).run s = if s.Writable then append a due now s else s := by
  simp only [run, after_bind_pure, Store.after_insert]

lemma after_insertUnique (a : Action) (due now : Instant) (s : Store) :
    after (Stmt.insertUnique a due now).run s =
      if s.Writable ∧ queued a s = false then append a due now s else s := by
  simp only [run, after_bind_pure, Store.insertUnique, after_beginWrite_bind]
  by_cases h : s.Writable
  · cases hq : queued a s
    · simp only [after_bind, EStateM.run_get, hq, Bool.false_eq_true, ↓reduceIte, after_map,
        Store.after_insert, h, and_self]
    · simp only [after_bind, EStateM.run_get, hq, after_pure, if_true, h]
      simp
  · simp [h]

lemma after_delete (id : ActionId) (s : Store) :
    after (Stmt.delete id).run s = if s.Writable then cull (·.id == id) s else s := by
  simp only [run, Store.delete, after_beginWrite_bind, after_discard_bind, after_unless_zero]

lemma after_cancelPending (hook : Option String) (args : Option Args) (group : Option String)
    (now : Instant) (s : Store) :
    after (Stmt.cancelPending hook args group now).run s =
      if s.Writable then remap (fun r => r.status == .pending && hook.all (· == r.hook) &&
          args.all (·.canonical == r.argsKey) && group.all (· == r.group))
        (fun r => { r with status := .canceled, updatedAt := .ofInstant now }) s else s := by
  simp only [run, Store.cancelPending, bind_assoc, after_beginWrite_bind, after_rewrite_bind]
  rfl

lemma after_issue (s : Store) :
    after Stmt.issue.run s = { s with claimsIssued := s.claimsIssued + 1 } := rfl

lemma after_stake (c : ClaimId) (limit : Nat) (horizon : Instant) (f : ClaimFilter)
    (now : Instant) (s : Store) :
    after (Stmt.stake c limit horizon f now).run s =
      if s.Writable then remap (fun r =>
          (dueIds (signedWord limit) (.ofInstant horizon) f s).contains r.id &&
            r.claim.isNone && r.status == .pending)
        (fun r => { r with claim := some c, lastAttempt := some (.ofInstant now),
                           updatedAt := .ofInstant now }) s else s := by
  simp only [run, stakeWrite, bind_assoc, after_beginWrite_bind]
  split
  · simp only [after_bind, EStateM.run_get, rewrite_run]
    rfl
  · rfl

lemma after_unclaimFrom (c : ClaimId) (id : ActionId) (s : Store) :
    after (Stmt.unclaimFrom c id).run s =
      if s.Writable then remap (fun r => r.id == id && r.claim == some c)
        (fun r => { r with claim := none }) s else s := by
  simp only [run, Store.unclaimFrom, after_beginWrite_bind, after_rewrite_bind]
  rfl

lemma after_release (c : ClaimId) (s : Store) :
    after (Stmt.release c).run s =
      if s.Writable then remap (·.claim == some c) (fun r => { r with claim := none }) s else s := by
  simp only [run, releaseClaim, bind_assoc, after_beginWrite_bind, after_rewrite_bind]
  rfl

lemma after_unclaim (id : ActionId) (s : Store) :
    after (Stmt.unclaim id).run s =
      if s.Writable then remap (·.id == id) (fun r => { r with claim := none }) s else s := by
  simp only [run, Store.unclaim, after_beginWrite_bind, after_rewrite_bind, after_unless_zero]

lemma after_releaseStale (cutoff : Instant) (s : Store) :
    after (Stmt.releaseStale cutoff).run s =
      if s.Writable then remap (fun r => r.status == .pending && r.claim.isSome &&
          stampedBy (.ofInstant cutoff) r.lastAttempt)
        (fun r => { r with claim := none }) s else s := by
  simp only [run, releaseStaleClaims, bind_assoc, after_beginWrite_bind, after_rewrite_bind]
  rfl

lemma after_failStale (cutoff now : Instant) (s : Store) :
    after (Stmt.failStale cutoff now).run s =
      if s.Writable then remap (fun r => r.status == .inProgress &&
          stampedBy (.ofInstant cutoff) r.lastAttempt)
        (fun r => { r with status := .failed, claim := none, updatedAt := .ofInstant now }) s
      else s := by
  simp only [run, failStaleInProgress, bind_assoc, after_beginWrite_bind, after_rewrite_bind]
  rfl

/-- Deleting finished actions deletes the rows with some ids, each the id of a complete or
canceled row. -/
lemma after_deleteFinished (cutoff : Instant) (limit : Nat) (s : Store) :
    ∃ ids : List ActionId,
      (∀ id ∈ ids, ∃ r ∈ s.rows, r.id = id ∧ r.statusIn [.complete, .canceled]) ∧
      after (Stmt.deleteFinished cutoff limit).run s =
        if s.Writable then cull (fun r => ids.contains r.id) s else s := by
  let old := s.rows.filter fun r =>
    r.statusIn [.complete, .canceled] && decide (r.updatedAt ≤ .ofInstant cutoff)
  let byUpdate := old.mergeSort fun a b =>
    ((compare a.updatedAt.text b.updatedAt.text).then (compare a.id.val b.id.val)) != .gt
  refine ⟨(window (signedWord limit) 0 byUpdate).map (·.id), ?_, ?_⟩
  · intro id hid
    obtain ⟨r, hr, rfl⟩ := List.mem_map.1 hid
    have hold : r ∈ old := List.mem_mergeSort.1 (mem_window hr)
    simp only [old, List.mem_filter, Bool.and_eq_true] at hold
    exact ⟨r, hold.1, rfl, hold.2.1⟩
  · simp only [run, after_bind_pure, Store.deleteFinished, after_beginWrite_bind]
    split
    · simp only [after_bind, EStateM.run_get]
      rfl
    · rfl

lemma after_setLock (kind : String) (ttl : Nat) (now : Instant) (s : Store) :
    Keeps s (after (Stmt.setLock kind ttl now).run s) := by
  simp only [run, after_bind_pure, Store.setLock]
  split
  · exact .refl s
  · split
    · rw [after_beginWrite_bind]
      split
      · simp only [after_bind, EStateM.run_get]
        split
        · exact ⟨rfl, rfl, rfl⟩
        · split <;> exact ⟨rfl, rfl, rfl⟩
      · exact .refl s
    · exact .refl s

lemma after_releaseLock (kind : String) (s : Store) :
    Keeps s (after (Stmt.releaseLock kind).run s) := by
  simp only [run, Store.releaseLock, after_beginWrite_bind]
  split <;> exact ⟨rfl, rfl, rfl⟩

lemma after_exclusive (held : Bool) (s : Store) : Keeps s (after (Stmt.exclusive held).run s) :=
  ⟨rfl, rfl, rfl⟩

end Stmt

end JobQueue
