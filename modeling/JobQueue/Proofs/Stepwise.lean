import JobQueue.Proofs.Statement

/-!
# Operations act by statements

The table changes only through atomic statements (`Stmt`). This file shows it of every
operation of the store's API: whatever an operation does, and wherever it fails, the store it
leaves follows from the store it found by a sequence of statements (`Store.Reaches`). What is
proved of one statement then holds of every operation, and of every interleaving of operations
of several clients, since their statements interleave into one sequence.

`Stepwise m` says this of a computation `m` over any state that holds a store (`HasStore`):
the store itself for store operations, a runner's world for work. It is built the way programs
are: `pure`, `throw` and reads are stepwise, a statement is, and binds, branches, loops and
handlers of stepwise parts are.

**Main statements**

* `Stepwise.bind`, `Stepwise.ite`, `Stepwise.tryCatch`, `Stepwise.mapM` — the combinators.
* `Stepwise.stmt`, `Stepwise.of_stmt` — a statement, and an operation that is one.
* `Store.*_stepwise` — every operation of the store's API, reads included.
-/

namespace JobQueue

/-- **A state that holds the store.** -/
class HasStore (σ : Type) where
  store : σ → Store

instance : HasStore Store := ⟨fun s => s⟩

open HasStore in
/-- **A computation acts on the store only by statements**: from every state, the store it
leaves, whether it succeeds or fails, follows from the store it found by a sequence of
statements. -/
def Stepwise {ε σ α : Type} [HasStore σ] (m : EStateM ε σ α) : Prop :=
  ∀ s, Store.Reaches (store s) (store (after m s))

namespace Stepwise

section Combinators

variable {ε σ α β : Type} [HasStore σ]

/-- A computation that leaves the store alone. -/
lemma of_after {m : EStateM ε σ α} (h : ∀ s, HasStore.store (after m s) = HasStore.store s) :
    Stepwise m :=
  fun s => h s ▸ Relation.ReflTransGen.refl

lemma pure (a : α) : Stepwise (pure a : EStateM ε σ α) := of_after fun _ => rfl

lemma throw (e : ε) : Stepwise (throw e : EStateM ε σ α) := of_after fun _ => rfl

lemma get : Stepwise (get : EStateM ε σ σ) := of_after fun _ => rfl

lemma bind {m : EStateM ε σ α} {f : α → EStateM ε σ β} (hm : Stepwise m)
    (hf : ∀ a, Stepwise (f a)) : Stepwise (m >>= f) := by
  intro s
  rw [after_bind]
  cases h : m.run s with
  | ok a s' => exact (after_of_ok h ▸ hm s).trans (hf a s')
  | error e s' => exact after_of_error h ▸ hm s

lemma map {m : EStateM ε σ α} (g : α → β) (hm : Stepwise m) : Stepwise (g <$> m) :=
  fun s => after_map g m s ▸ hm s

lemma seqRight {m : EStateM ε σ α} {k : EStateM ε σ β} (hm : Stepwise m) (hk : Stepwise k) :
    Stepwise (m *> k) :=
  hm.bind fun _ => hk

/-- A handler of failures: the store the failure left is where the handler starts. -/
lemma tryCatch {m : EStateM ε σ α} {h : ε → EStateM ε σ α} (hm : Stepwise m)
    (hh : ∀ e, Stepwise (h e)) : Stepwise (MonadExcept.tryCatch m h) := by
  intro s
  cases hr : m.run s with
  | ok a s' =>
    rw [after_of_ok (by rw [tryCatch_run, hr])]
    exact after_of_ok hr ▸ hm s
  | error e s' =>
    have hafter : after (MonadExcept.tryCatch m h) s = after (h e) s' := by
      simp only [after, tryCatch_run, hr]
    exact hafter ▸ (after_of_error hr ▸ hm s).trans (hh e s')

lemma ite {c : Prop} [Decidable c] {a b : EStateM ε σ α} (ha : Stepwise a) (hb : Stepwise b) :
    Stepwise (if c then a else b) := by
  split
  · exact ha
  · exact hb

lemma mapM {γ : Type} {f : γ → EStateM ε σ α} (h : ∀ x, Stepwise (f x)) :
    ∀ xs : List γ, Stepwise (xs.mapM f)
  | [] => .pure _
  | x :: xs => by
    rw [List.mapM_cons]
    exact (h x).bind fun _ => (mapM h xs).bind fun _ => .pure _

end Combinators

/-- A statement acts by statements. -/
lemma stmt (st : Stmt) : Stepwise st.run := fun _ => Store.Reaches.single st

/-- An operation that leaves the store a statement leaves. -/
lemma of_stmt {α : Type} {m : StoreM α} (st : Stmt) (h : ∀ s, after m s = after st.run s) :
    Stepwise m :=
  fun s => h s ▸ stmt st s

end Stepwise

namespace Store

open Stepwise

lemma validate_stepwise (a : Action) : Stepwise (validate a) := .ite (.throw _) (.pure _)

lemma insert_stepwise (a : Action) (due now : Instant) : Stepwise (insert a due now) :=
  .of_stmt (.insert a due now) fun s => by simp only [Stmt.run, after_bind_pure]

lemma saveAt_stepwise (a : Action) (due now : Instant) : Stepwise (saveAt a due now) :=
  (validate_stepwise a).bind fun _ => insert_stepwise a due now

lemma save_stepwise {a : Action} {now : Instant} {m : StoreM ActionId} (h : save a now = .ok m) :
    Stepwise m := by
  unfold save at h
  cases hd : firstDue a now with
  | error f => simp [hd, Except.map] at h
  | ok due =>
    simp only [hd, Except.map, Except.ok.injEq] at h
    exact h ▸ saveAt_stepwise a due now

lemma insertUnique_stepwise (a : Action) (due now : Instant) :
    Stepwise (insertUnique a due now) :=
  .of_stmt (.insertUnique a due now) fun s => by simp only [Stmt.run, after_bind_pure]

lemma saveUnique_stepwise {a : Action} {now : Instant} {m : StoreM (Option ActionId)}
    (h : saveUnique a now = .ok m) : Stepwise m := by
  unfold saveUnique at h
  split at h
  · simp only [Except.ok.injEq] at h
    exact h ▸ (validate_stepwise a).seqRight (.pure _)
  · cases hd : firstDue a now with
    | error f => simp [hd, Except.map] at h
    | ok due =>
      simp only [hd, Except.map, Except.ok.injEq] at h
      exact h ▸ insertUnique_stepwise a due now

lemma delete_stepwise (id : ActionId) : Stepwise (delete id) := .stmt (.delete id)

lemma status_stepwise (id : ActionId) : Stepwise (status id) :=
  Stepwise.get.bind fun s => by
    split
    · exact .pure _
    · exact .throw _

lemma fetch_stepwise (id : ActionId) : Stepwise (fetch id) :=
  Stepwise.get.bind fun s => by
    split
    · split
      · exact .pure _
      · exact .throw _
    · exact .throw _

lemma claimOf_stepwise (id : ActionId) : Stepwise (claimOf id) :=
  Stepwise.get.bind fun s => by
    split
    · exact .pure _
    · exact .throw _

lemma date_stepwise (id : ActionId) : Stepwise (date id) :=
  (fetch_stepwise id).bind fun _ => .pure _

lemma query_stepwise (q : ActionQuery) : Stepwise (query q) := Stepwise.get.bind fun _ => .pure _

lemma count_stepwise (q : ActionQuery) : Stepwise (count q) := Stepwise.get.bind fun _ => .pure _

lemma find_stepwise (hook : String) (p : FindParams) : Stepwise (find hook p) :=
  (query_stepwise _).bind fun _ => .pure _

lemma statusCounts_stepwise : Stepwise statusCounts := Stepwise.get.bind fun _ => .pure _

lemma transition_stepwise {id : ActionId} {target : Status} {sources : List Status}
    {extra : Row → Row} {now : Instant} (h : Stepwise (move id target sources extra now)) :
    Stepwise (transition id target sources extra now) :=
  h.bind fun _ => .ite ((status_stepwise id).bind fun _ => .throw _) (.pure _)

lemma logExecution_stepwise (id : ActionId) (now : Instant) : Stepwise (logExecution id now) :=
  transition_stepwise (.of_stmt (.start id now) fun s => by simp only [Stmt.run, after_bind_pure])

lemma markComplete_stepwise (id : ActionId) (now : Instant) : Stepwise (markComplete id now) :=
  transition_stepwise (.of_stmt (.complete id now) fun s => by simp only [Stmt.run, after_bind_pure])

lemma markFailure_stepwise (id : ActionId) (now : Instant) : Stepwise (markFailure id now) :=
  transition_stepwise (.of_stmt (.fail id now) fun s => by simp only [Stmt.run, after_bind_pure])

lemma cancel_stepwise (id : ActionId) (now : Instant) : Stepwise (cancel id now) :=
  transition_stepwise (.of_stmt (.cancel id now) fun s => by simp only [Stmt.run, after_bind_pure])

lemma cancelPending_stepwise (hook : Option String) (args : Option Args) (group : Option String)
    (now : Instant) : Stepwise (cancelPending hook args group now) :=
  .of_stmt (.cancelPending hook args group now) fun s => by simp only [Stmt.run, after_bind_pure]

lemma unclaimFrom_stepwise (c : ClaimId) (id : ActionId) : Stepwise (unclaimFrom c id) :=
  .stmt (.unclaimFrom c id)

lemma keepDue_stepwise (c : ClaimId) (horizon : Instant) :
    ∀ rows, Stepwise (keepDue c horizon rows)
  | [] => .pure _
  | (id, _) :: rest =>
    .ite ((keepDue_stepwise c horizon rest).bind fun _ => .pure _)
      ((unclaimFrom_stepwise c id).bind fun _ => keepDue_stepwise c horizon rest)

lemma claimedRows_stepwise (c : ClaimId) : Stepwise (claimedRows c) :=
  -- Each row's read either returns its scheduled time or throws the conversion error.
  Stepwise.get.bind fun _ => .mapM (fun r => by
    split
    · exact .pure _
    · exact .throw _) _

lemma claimed_stepwise (c : ClaimId) (horizon : Instant) : Stepwise (claimed c horizon) :=
  (claimedRows_stepwise c).bind fun rows => keepDue_stepwise c horizon rows

lemma stakeWrite_stepwise (c : ClaimId) (limit : Nat) (horizon : Instant) (f : ClaimFilter)
    (now : Instant) : Stepwise (stakeWrite c limit horizon f now) :=
  .of_stmt (.stake c limit horizon f now) fun s => by simp only [Stmt.run, after_bind_pure]

lemma freshClaim_stepwise : Stepwise freshClaim :=
  .of_stmt .issue fun s => by simp only [Stmt.run, after_bind_pure]

lemma stake_stepwise (limit : Nat) (before : Option Instant) (f : ClaimFilter) (now : Instant) :
    Stepwise (stake limit before f now) :=
  freshClaim_stepwise.bind fun c =>
    .ite (.pure _) ((stakeWrite_stepwise c limit _ f now).bind fun _ =>
      (claimed_stepwise c _).bind fun _ => .pure _)

lemma findByClaim_stepwise (c : ClaimId) (now : Instant) : Stepwise (findByClaim c now) :=
  claimed_stepwise c _

lemma releaseClaim_stepwise (c : ClaimId) : Stepwise (releaseClaim c) :=
  .of_stmt (.release c) fun s => by simp only [Stmt.run, after_bind_pure]

lemma unclaim_stepwise (id : ActionId) : Stepwise (unclaim id) := .stmt (.unclaim id)

lemma claimCount_stepwise : Stepwise claimCount := Stepwise.get.bind fun _ => .pure _

lemma countDue_stepwise (before : Option Instant) (f : ClaimFilter) (now : Instant) :
    Stepwise (countDue before f now) := Stepwise.get.bind fun _ => .pure _

lemma releaseStaleClaims_stepwise (cutoff : Instant) : Stepwise (releaseStaleClaims cutoff) :=
  .of_stmt (.releaseStale cutoff) fun s => by simp only [Stmt.run, after_bind_pure]

lemma failStaleInProgress_stepwise (cutoff now : Instant) :
    Stepwise (failStaleInProgress cutoff now) :=
  .of_stmt (.failStale cutoff now) fun s => by simp only [Stmt.run, after_bind_pure]

lemma deleteFinished_stepwise (cutoff : Instant) (limit : Nat) :
    Stepwise (deleteFinished cutoff limit) :=
  .of_stmt (.deleteFinished cutoff limit) fun s => by simp only [Stmt.run, after_bind_pure]

lemma recentOutcomes_stepwise (hook : String) (limit : Nat) :
    Stepwise (recentOutcomes hook limit) := Stepwise.get.bind fun _ => .pure _

lemma pastDue_stepwise (cutoff : Instant) : Stepwise (pastDue cutoff) :=
  Stepwise.get.bind fun _ => by
    dsimp only
    split
    · exact .pure _
    · split
      · exact .pure _
      · exact .throw _

lemma setLock_stepwise (kind : String) (ttl : Nat) (now : Instant) :
    Stepwise (setLock kind ttl now) :=
  .of_stmt (.setLock kind ttl now) fun s => by simp only [Stmt.run, after_bind_pure]

lemma releaseLock_stepwise (kind : String) : Stepwise (releaseLock kind) := .stmt (.releaseLock kind)

lemma lockExpiry_stepwise (kind : String) : Stepwise (lockExpiry kind) :=
  Stepwise.get.bind fun _ => by
    split
    · exact .pure _
    · split
      · exact .pure _
      · exact .throw _

lemma isLocked_stepwise (kind : String) (now : Instant) : Stepwise (isLocked kind now) :=
  (lockExpiry_stepwise kind).bind fun _ => .pure _

lemma clean_stepwise (c : CleanupConfig) (now : Instant) : Stepwise (clean c now) :=
  (releaseStaleClaims_stepwise _).bind fun _ => (failStaleInProgress_stepwise _ now).bind fun _ =>
    (deleteFinished_stepwise _ _).bind fun _ => .pure _

lemma pastDueCheck_stepwise (m : MonitorConfig) (now : Instant) : Stepwise (pastDueCheck m now) :=
  (pastDue_stepwise _).bind fun _ => .pure _

lemma housekeep_stepwise (cfg : QueueConfig) (now : Instant) : Stepwise (housekeep cfg now) :=
  (setLock_stepwise _ _ now).bind fun _ => .ite (.pure _) ((clean_stepwise _ now).bind fun _ =>
    (pastDueCheck_stepwise _ now).bind fun _ => .pure _)

end Store

end JobQueue
