import JobQueue.Proofs.Statement
import Mathlib.Data.List.Nodup

/-!
# Statuses only move forward

An action's status has a direction. A pending action may start, complete, fail or be
canceled; one in progress may complete, fail or be canceled; a finished one keeps its status
until it is deleted. `Status.Leads a b` says that `b` may follow `a`: the reflexive closure of
those moves, which is already transitive, so a whole run of moves is one `Leads` step.

`Store.Evolves s s'` says the table moved forward from `s` to `s'`: ids once handed out stay
handed out, and every row of `s'` is either a row of `s` (same id) whose status led to its new
one, or carries an id that `s` never handed out. It is a preorder, and it is what forbids a
deleted row to come back: a row of `s'` with an old id must already be in `s`.

What one statement does is said once, in `Stmt.does`: it leaves the store alone, rewrites
rows in place (each by a `Stmt.Edit`: a claim write, a start, an unclaim or a finishing move),
deletes rows, appends the row of an action it inserts, counts a claim issued, or touches only
the locks. Every fact about one statement, here and in the files after this one, is a case
analysis over those kinds of write rather than over the statements.

**Main statements**

* `Stmt.does`, `Stmt.Does.rows` — what one statement does to the store, and to each row.
* `Stmt.evolves`, `Stmt.wellFormed` — every atomic statement moves the table forward and keeps
  it well formed (distinct ids, none above the last id handed out).
* `Store.Reaches.evolves`, `Store.Reaches.wellFormed` — hence every sequence of statements.
* `Store.transition_fails`, `Store.transition_refused` — a move that fails leaves the store as
  it was; refused as not allowed, it names the action's status.
-/

namespace JobQueue

namespace Status

/-- **Status `b` may follow status `a`**: they are equal, `a` is pending, or `a` is in
progress and `b` finished. -/
def Leads (a b : Status) : Prop := a = b ∨ a = .pending ∨ (a = .inProgress ∧ b.isFinished = true)

instance : DecidableRel Leads := fun _ _ => inferInstanceAs (Decidable (_ ∨ _))

lemma Leads.refl (a : Status) : Leads a a := Or.inl rfl

lemma Leads.trans {a b c : Status} (h₁ : Leads a b) (h₂ : Leads b c) : Leads a c := by
  cases a <;> cases b <;> cases c <;> simp_all [Leads, isFinished]

/-- Nothing but pending leads to pending. -/
lemma leads_pending {a : Status} : Leads a .pending ↔ a = .pending := by
  cases a <;> simp [Leads, isFinished]

lemma leads_of_mem_live {a b : Status} (ha : a ∈ [Status.pending, .inProgress])
    (hb : b.isFinished = true) : Leads a b := by
  simp only [List.mem_cons, List.not_mem_nil, or_false] at ha
  rcases ha with rfl | rfl
  · exact Or.inr (Or.inl rfl)
  · exact Or.inr (Or.inr ⟨rfl, hb⟩)

/-- A status that leads to pending or in progress was one of them. -/
lemma live_of_leads {a b : Status} (h : a.Leads b) (hb : b ∈ [Status.pending, .inProgress]) :
    a ∈ [Status.pending, .inProgress] := by
  rcases h with rfl | rfl | ⟨rfl, hfin⟩
  · exact hb
  · simp
  · simp

end Status

namespace Store

/-- **A well-formed table**: row ids are distinct, and none is above the last id handed out. -/
structure WellFormed (s : Store) : Prop where
  nodup : (s.rows.map (·.id)).Nodup
  le_lastId : ∀ r ∈ s.rows, r.id.val ≤ s.lastId

/-- **The table moved forward** from `s` to `s'`: no id handed out is taken back, and each row
of `s'` either continues a row of `s` with a status that may follow the old one, or has a
fresh id. -/
structure Evolves (s s' : Store) : Prop where
  lastId_le : s.lastId ≤ s'.lastId
  forward : ∀ r' ∈ s'.rows,
    (∃ r ∈ s.rows, r.id = r'.id ∧ r.status.Leads r'.status) ∨ s.lastId < r'.id.val

lemma Evolves.refl (s : Store) : Evolves s s :=
  ⟨Int.le_refl _, fun r' hr' => Or.inl ⟨r', hr', rfl, .refl _⟩⟩

lemma Evolves.trans {s₁ s₂ s₃ : Store} (h₁ : Evolves s₁ s₂) (h₂ : Evolves s₂ s₃) :
    Evolves s₁ s₃ := by
  refine ⟨Int.le_trans h₁.lastId_le h₂.lastId_le, fun r₃ hr₃ => ?_⟩
  rcases h₂.forward r₃ hr₃ with ⟨r₂, hr₂, hid₂, hl₂⟩ | hnew
  · rcases h₁.forward r₂ hr₂ with ⟨r₁, hr₁, hid₁, hl₁⟩ | hnew
    · exact Or.inl ⟨r₁, hr₁, hid₁.trans hid₂, hl₁.trans hl₂⟩
    · exact Or.inr (hid₂ ▸ hnew)
  · exact Or.inr (Int.lt_of_le_of_lt h₁.lastId_le hnew)

/-- In a well-formed table an id names at most one row. -/
lemma WellFormed.eq_of_id {s : Store} (hs : s.WellFormed) {r₁ r₂ : Row} (h₁ : r₁ ∈ s.rows)
    (h₂ : r₂ ∈ s.rows) (hid : r₁.id = r₂.id) : r₁ = r₂ :=
  List.inj_on_of_nodup_map hs.nodup h₁ h₂ hid

/-! ## The shapes of a write -/

section Shapes

variable {s s' : Store}

/-- A statement that leaves rows and the last id alone moves the table forward. -/
lemma Evolves.of_rows (hrows : s'.rows = s.rows) (hlast : s'.lastId = s.lastId) :
    Evolves s s' :=
  ⟨Int.le_of_eq hlast.symm, fun r' hr' => Or.inl ⟨r', hrows ▸ hr', rfl, .refl _⟩⟩

lemma WellFormed.of_rows (hrows : s'.rows = s.rows) (hlast : s'.lastId = s.lastId)
    (hs : s.WellFormed) : s'.WellFormed :=
  ⟨hrows ▸ hs.nodup, fun r hr => hlast ▸ hs.le_lastId r (hrows ▸ hr)⟩

/-- Rewriting rows in place moves the table forward when it keeps ids and moves statuses
forward. -/
lemma Evolves.remap {p : Row → Bool} {f : Row → Row}
    (h : ∀ r ∈ s.rows, p r = true → (f r).id = r.id ∧ r.status.Leads (f r).status) :
    Evolves s (remap p f s) := by
  refine ⟨Int.le_refl _, fun r' hr' => Or.inl ?_⟩
  obtain ⟨r, hr, rfl⟩ := List.mem_map.1 hr'
  by_cases hp : p r
  · obtain ⟨hid, hl⟩ := h r hr hp
    exact ⟨r, hr, by simp only [hp, if_true, hid], by simpa only [hp, if_true] using hl⟩
  · exact ⟨r, hr, by simp [hp], by simpa [hp] using Status.Leads.refl r.status⟩

lemma WellFormed.remap {p : Row → Bool} {f : Row → Row} (h : ∀ r ∈ s.rows, p r = true → (f r).id = r.id)
    (hs : s.WellFormed) : (remap p f s).WellFormed := by
  have hids : ((Store.remap p f s).rows.map (·.id)) = s.rows.map (·.id) := by
    simp only [Store.remap, List.map_map]
    refine List.map_congr_left fun r hr => ?_
    by_cases hp : p r
    · simp [hp, h r hr hp]
    · simp [hp]
  refine ⟨hids ▸ hs.nodup, fun r' hr' => ?_⟩
  obtain ⟨r, hr, rfl⟩ := List.mem_map.1 hr'
  by_cases hp : p r
  · simpa [Store.remap, hp, h r hr hp] using hs.le_lastId r hr
  · simpa [Store.remap, hp] using hs.le_lastId r hr

lemma Evolves.cull (p : Row → Bool) (s : Store) : Evolves s (cull p s) :=
  ⟨Int.le_refl _, fun r' hr' => Or.inl ⟨r', List.mem_of_mem_filter hr', rfl, .refl _⟩⟩

lemma WellFormed.cull (p : Row → Bool) (hs : s.WellFormed) : (Store.cull p s).WellFormed :=
  ⟨(List.Sublist.map _ List.filter_sublist).nodup hs.nodup,
    fun r hr => hs.le_lastId r (List.mem_of_mem_filter hr)⟩

lemma Evolves.append (a : Action) (due now : Instant) (s : Store) :
    Evolves s (append a due now s) := by
  refine ⟨by simp only [Store.append]; omega, fun r' hr' => ?_⟩
  rcases List.mem_append.1 hr' with hr' | hr'
  · exact Or.inl ⟨r', hr', rfl, .refl _⟩
  · rw [List.mem_singleton.1 hr']
    exact Or.inr (by simp only [Row.ofAction]; omega)

/-- The empty table is well formed. -/
lemma WellFormed.empty : WellFormed {} := ⟨List.nodup_nil, fun _ h => absurd h List.not_mem_nil⟩

lemma WellFormed.append (a : Action) (due now : Instant) (hs : s.WellFormed) :
    (Store.append a due now s).WellFormed := by
  refine ⟨?_, fun r hr => ?_⟩
  · simp only [Store.append, List.map_append, List.map_cons, List.map_nil]
    refine List.nodup_append.2 ⟨hs.nodup, List.nodup_singleton _, ?_⟩
    intro x hx y hy hxy
    obtain ⟨r, hr, rfl⟩ := List.mem_map.1 hx
    rw [List.mem_singleton.1 hy] at hxy
    have := hs.le_lastId r hr
    rw [hxy] at this
    simp only [Row.ofAction] at this
    omega
  · rcases List.mem_append.1 hr with hr | hr
    · have := hs.le_lastId r hr
      simp only [Store.append]
      omega
    · rw [List.mem_singleton.1 hr]
      simp only [Store.append, Row.ofAction]
      omega

/-- **What one statement can do to the table**: leave its rows and last id alone, rewrite rows
in place keeping their ids and moving their statuses forward, delete rows, or append a row
under the next id. -/
inductive Shape : Store → Store → Prop
  | keep {s s' : Store} : s'.rows = s.rows → s'.lastId = s.lastId → Shape s s'
  | remap {s : Store} (p : Row → Bool) (f : Row → Row) :
      (∀ r ∈ s.rows, p r = true → (f r).id = r.id ∧ r.status.Leads (f r).status) →
      Shape s (Store.remap p f s)
  | cull (p : Row → Bool) (s : Store) : Shape s (Store.cull p s)
  | append (a : Action) (due now : Instant) (s : Store) : Shape s (Store.append a due now s)

/-- Each row of a rewrite is a row of the old table, rewritten if it was selected. -/
lemma mem_remap {p : Row → Bool} {f : Row → Row} {r' : Row} (h : r' ∈ (remap p f s).rows) :
    ∃ r ∈ s.rows, r' = if p r then f r else r := by
  simp only [remap, List.mem_map] at h
  obtain ⟨r, hr, rfl⟩ := h
  exact ⟨r, hr, rfl⟩

lemma Shape.of_keeps (h : Keeps s s') : Shape s s' := .keep h.1 h.2.1

lemma Shape.evolves (h : Shape s s') : Evolves s s' := by
  cases h with
  | keep hrows hlast => exact .of_rows hrows hlast
  | remap p f hf => exact .remap hf
  | cull p s => exact .cull p s
  | append a due now s => exact .append a due now s

lemma Shape.wellFormed (h : Shape s s') (hs : s.WellFormed) : s'.WellFormed := by
  cases h with
  | keep hrows hlast => exact .of_rows hrows hlast hs
  | remap p f hf => exact hs.remap fun r hr hp => (hf r hr hp).1
  | cull p s => exact hs.cull p
  | append a due now s => exact hs.append a due now

end Shapes

end Store

/-! ## What one statement does -/

/-- **The statements that clear claims**: releasing a claim, unclaiming an action, releasing
stale claims, failing stale executions, and the unclaim of a row found not yet due. -/
def Stmt.Unclaims : Stmt → Prop
  | .release _ | .unclaim _ | .releaseStale _ | .failStale _ _ | .unclaimFrom _ _ => True
  | _ => False

/-- The rows a claim write of `limit` by `horizon` under filter `f` marks: those among the
first due ones that are still unclaimed and pending. -/
def Store.Staked (limit : Nat) (horizon : Instant) (f : ClaimFilter) (s : Store) (r : Row) : Bool :=
  (dueIds (signedWord limit) (.ofInstant horizon) f s).contains r.id && r.claim.isNone &&
    r.status == .pending

namespace Stmt

open Store

/-- **How one statement may rewrite a row in place**, on a writable table: a claim write marks
a row it selects with its claim, at its clock reading; a start starts the pending row with its
id, at its clock reading; a statement that clears claims drops one; a move finishes a live
row, keeping the action and its attempts, and drops its claim only if the statement clears
claims. -/
inductive Edit : Stmt → Store → Row → Row → Prop
  | stake {c : ClaimId} {limit : Nat} {horizon : Instant} {f : ClaimFilter} {now : Instant}
      {s : Store} {r : Row} (hm : Staked limit horizon f s r = true) :
      Edit (.stake c limit horizon f now) s r
        { r with claim := some c, lastAttempt := some (.ofInstant now), updatedAt := .ofInstant now }
  | start {now : Instant} {s : Store} {r : Row} (hp : r.status = .pending) :
      Edit (.start r.id now) s r
        (Row.started now { r with status := .inProgress, updatedAt := .ofInstant now })
  | unclaim {st : Stmt} {s : Store} {r : Row} (hst : st.Unclaims) :
      Edit st s r { r with claim := none }
  | finish {st : Stmt} {s : Store} {r r' : Row} (hid : r'.id = r.id) (hhook : r'.hook = r.hook)
      (hkey : r'.argsKey = r.argsKey) (hgroup : r'.group = r.group)
      (hlive : r.statusIn [.pending, .inProgress] = true) (hfin : r'.status.isFinished = true)
      (hat : r'.attempts = r.attempts)
      (hclaim : r'.claim = r.claim ∨ st.Unclaims ∧ r'.claim = none) : Edit st s r r'

/-- **What one statement does to the store**: it leaves the store as it was (a write refused
for want of the lock, or an insert of an action already queued); rewrites rows in place, each
by an edit of the statement; deletes rows; appends the row of an action it inserts; counts one
more claim issued; or touches nothing but the locks. -/
inductive Does (st : Stmt) (s : Store) : Store → Prop
  | refuse : Does st s s
  | rewrite (p : Row → Bool) (f : Row → Row) (hw : s.Writable)
      (hf : ∀ r, p r = true → st.Edit s r (f r)) : Does st s (remap p f s)
  | cull (p : Row → Bool) (hw : s.Writable) : Does st s (cull p s)
  | append {a : Action} {due now : Instant}
      (hst : st = .insert a due now ∨ st = .insertUnique a due now ∧ queued a s = false)
      (hw : s.Writable) : Does st s (append a due now s)
  | issue (hst : st = .issue) : Does st s { s with claimsIssued := s.claimsIssued + 1 }
  | locks {s' : Store}
      (hst : (∃ kind ttl now, st = .setLock kind ttl now) ∨ (∃ kind, st = .releaseLock kind) ∨
        ∃ held, st = .exclusive held)
      (hkeep : Keeps s s') : Does st s s'

/-- A write that needs the lock: done on a writable table, refused on any other. -/
lemma Does.ite {st : Stmt} {s s' : Store} (h : s.Writable → st.Does s s') :
    st.Does s (if s.Writable then s' else s) := by
  split
  · next hw => exact h hw
  · exact .refuse

/-- **Each statement does one of these.** The invariants below and in later files rest on this
case analysis over the statements, and split over `Does` and `Edit` only. -/
theorem does (st : Stmt) (s : Store) : st.Does s (after st.run s) := by
  cases st with
  | insert a due now =>
    rw [after_insert]
    exact .ite (.append (.inl rfl))
  | insertUnique a due now =>
    rw [after_insertUnique]
    split
    · next h => exact .append (.inr ⟨rfl, h.2⟩) h.1
    · exact .refuse
  | delete id =>
    rw [after_delete]
    exact .ite (.cull _)
  | start id now =>
    rw [run, after_move]
    refine .ite fun hw => .rewrite _ _ hw fun r hp => ?_
    simp only [Bool.and_eq_true, beq_iff_eq, Row.statusIn, List.contains_cons, List.contains_nil,
      Bool.or_false] at hp
    obtain ⟨rfl, hpend⟩ := hp
    exact .start hpend
  | complete id now =>
    rw [run, after_move]
    exact .ite fun hw => .rewrite _ _ hw fun r hp =>
      .finish rfl rfl rfl rfl (Bool.and_eq_true_iff.1 hp).2 rfl rfl (.inl rfl)
  | fail id now =>
    rw [run, after_move]
    exact .ite fun hw => .rewrite _ _ hw fun r hp =>
      .finish rfl rfl rfl rfl (Bool.and_eq_true_iff.1 hp).2 rfl rfl (.inl rfl)
  | cancel id now =>
    rw [run, after_move]
    exact .ite fun hw => .rewrite _ _ hw fun r hp =>
      .finish rfl rfl rfl rfl (Bool.and_eq_true_iff.1 hp).2 rfl rfl (.inl rfl)
  | cancelPending hook args group now =>
    rw [after_cancelPending]
    refine .ite fun hw => .rewrite _ _ hw fun r hp => ?_
    simp only [Bool.and_eq_true, beq_iff_eq] at hp
    exact .finish rfl rfl rfl rfl (by simp [Row.statusIn, hp.1.1.1]) rfl rfl (.inl rfl)
  | issue =>
    rw [after_issue]
    exact .issue rfl
  | stake c limit horizon f now =>
    rw [after_stake]
    exact .ite fun hw => .rewrite _ _ hw fun r hp => .stake hp
  | unclaimFrom c id =>
    rw [after_unclaimFrom]
    exact .ite fun hw => .rewrite _ _ hw fun r _ => .unclaim trivial
  | release c =>
    rw [after_release]
    exact .ite fun hw => .rewrite _ _ hw fun r _ => .unclaim trivial
  | unclaim id =>
    rw [after_unclaim]
    exact .ite fun hw => .rewrite _ _ hw fun r _ => .unclaim trivial
  | releaseStale cutoff =>
    rw [after_releaseStale]
    exact .ite fun hw => .rewrite _ _ hw fun r _ => .unclaim trivial
  | failStale cutoff now =>
    rw [after_failStale]
    refine .ite fun hw => .rewrite _ _ hw fun r hp => ?_
    simp only [Bool.and_eq_true, beq_iff_eq] at hp
    exact .finish rfl rfl rfl rfl (by simp [Row.statusIn, hp.1]) rfl rfl (.inr ⟨trivial, rfl⟩)
  | deleteFinished cutoff limit =>
    obtain ⟨ids, -, h⟩ := after_deleteFinished cutoff limit s
    rw [h]
    exact .ite (.cull _)
  | setLock kind ttl now => exact .locks (.inl ⟨kind, ttl, now, rfl⟩) (after_setLock kind ttl now s)
  | releaseLock kind => exact .locks (.inr (.inl ⟨kind, rfl⟩)) (after_releaseLock kind s)
  | exclusive held => exact .locks (.inr (.inr ⟨held, rfl⟩)) (after_exclusive held s)

section Rows

variable {st : Stmt} {s s' : Store}

/-- **Each row after a statement** is a row of the old table, kept or rewritten by an edit of
the statement on a writable table, or the row of an action the statement inserted into a
writable table, under the next id. -/
theorem Does.rows (h : st.Does s s') :
    ∀ r' ∈ s'.rows, (∃ r ∈ s.rows, r' = r ∨ s.Writable ∧ st.Edit s r r') ∨
      ∃ a due now, s.Writable ∧ r' = Row.ofAction ⟨s.lastId + 1⟩ a due now ∧
        (st = .insert a due now ∨ st = .insertUnique a due now ∧ queued a s = false) := by
  intro r' hr'
  cases h with
  | refuse => exact .inl ⟨r', hr', .inl rfl⟩
  | rewrite p f hw hf =>
    obtain ⟨r, hr, rfl⟩ := mem_remap hr'
    by_cases hp : p r
    · exact .inl ⟨r, hr, .inr ⟨hw, by simpa [hp] using hf r hp⟩⟩
    · exact .inl ⟨r, hr, .inl (by simp [hp])⟩
  | cull p hw => exact .inl ⟨r', (List.mem_filter.1 hr').1, .inl rfl⟩
  | @append a due now hst hw =>
    rcases List.mem_append.1 hr' with hr' | hr'
    · exact .inl ⟨r', hr', .inl rfl⟩
    · exact .inr ⟨a, due, now, hw, List.mem_singleton.1 hr', hst⟩
  | issue hst => exact .inl ⟨r', hr', .inl rfl⟩
  | locks hst hkeep => exact .inl ⟨r', hkeep.1 ▸ hr', .inl rfl⟩

/-- **A relation that every edit of a statement makes**, and that holds of each row and
itself, relates each row after the statement to a row before it, the rows it inserts apart. -/
theorem Does.related (h : st.Does s s') {R : Row → Row → Prop} (hR : ∀ r, R r r)
    (hE : ∀ r r', s.Writable → st.Edit s r r' → R r r') :
    ∀ r' ∈ s'.rows, (∃ r ∈ s.rows, R r r') ∨
      ∃ a due now, s.Writable ∧ r' = Row.ofAction ⟨s.lastId + 1⟩ a due now ∧
        (st = .insert a due now ∨ st = .insertUnique a due now ∧ queued a s = false) := by
  intro r' hr'
  rcases h.rows r' hr' with ⟨r, hr, rfl | ⟨hw, he⟩⟩ | hnew
  · exact .inl ⟨_, hr, hR _⟩
  · exact .inl ⟨r, hr, hE r r' hw he⟩
  · exact .inr hnew

/-- An edit keeps the row's id and moves its status forward. -/
lemma Edit.id_leads {r r' : Row} (h : st.Edit s r r') : r'.id = r.id ∧ r.status.Leads r'.status := by
  cases h with
  | stake _ => exact ⟨rfl, .refl _⟩
  | start hp => exact ⟨rfl, Or.inr (Or.inl hp)⟩
  | unclaim _ => exact ⟨rfl, .refl _⟩
  | finish hid _ _ _ hlive hfin =>
    exact ⟨hid, Status.leads_of_mem_live (by simpa [Row.statusIn] using hlive) hfin⟩

lemma Does.shape (h : st.Does s s') : Shape s s' := by
  cases h with
  | refuse => exact .keep rfl rfl
  | rewrite p f hw hf => exact .remap p f fun r _ hp => (hf r hp).id_leads
  | cull p hw => exact .cull p s
  | append hst hw => exact .append _ _ _ s
  | issue hst => exact .keep rfl rfl
  | locks hst hkeep => exact .of_keeps hkeep

end Rows

/-- **Each statement has one of the four shapes.** -/
theorem shape (st : Stmt) (s : Store) : Shape s (after st.run s) := (does st s).shape

/-- **Every statement moves the table forward.** -/
theorem evolves (st : Stmt) (s : Store) : Evolves s (after st.run s) := (shape st s).evolves

/-- **Every statement keeps the table well formed.** -/
theorem wellFormed (st : Stmt) {s : Store} (hs : s.WellFormed) : (after st.run s).WellFormed :=
  (shape st s).wellFormed hs

end Stmt

namespace Store

/-- **Any sequence of statements moves the table forward**, so any interleaving of the
clients' statements does. -/
theorem Reaches.evolves {s s' : Store} (h : Reaches s s') : Evolves s s' := by
  induction h with
  | refl => exact .refl s
  | tail _ step ih =>
    obtain ⟨st, rfl⟩ := step
    exact ih.trans (Stmt.evolves st _)

/-- **Any sequence of statements keeps the table well formed.** -/
theorem Reaches.wellFormed {s s' : Store} (h : Reaches s s') (hs : s.WellFormed) :
    s'.WellFormed := by
  induction h with
  | refl => exact hs
  | tail _ step ih =>
    obtain ⟨st, rfl⟩ := step
    exact Stmt.wellFormed st ih

/-! ## Refused moves -/

/-- Rewriting the rows that satisfy `p`, when none does, changes nothing. -/
lemma remap_of_none {p : Row → Bool} {f : Row → Row} {s : Store}
    (h : ∀ r ∈ s.rows, p r = false) : remap p f s = s := by
  have hrows : (s.rows.map fun r => if p r then f r else r) = s.rows := by
    conv_rhs => rw [← List.map_id s.rows]
    exact List.map_congr_left fun r hr => by simp [h r hr]
  simp only [remap, hrows]

lemma status_run (id : ActionId) (s : Store) :
    (status id).run s = match s.row? id with
      | some r => .ok r.status s
      | none => .error (.actionNotFound id.val) s := by
  simp only [status, EStateM.run_bind, EStateM.run_get]
  cases s.row? id <;> rfl

lemma move_run {s : Store} (hw : s.Writable) (id : ActionId) (target : Status)
    (sources : List Status) (extra : Row → Row) (now : Instant) :
    (move id target sources extra now).run s =
      .ok (s.rows.filter fun r => r.id == id && r.statusIn sources).length
        (remap (fun r => r.id == id && r.statusIn sources)
          (fun r => extra { r with status := target, updatedAt := .ofInstant now }) s) := by
  simp only [move, EStateM.run_bind, beginWrite_run_of_writable hw]
  rfl

/-- **A refused move writes nothing.** A move fails only when the store cannot be written,
with a database error, or when no row with the id has one of the source statuses: then the
error names the status of the row with the id, or says there is none. Either way the store is
left as it was. -/
theorem transition_fails {id : ActionId} {target : Status} {sources : List Status}
    {extra : Row → Row} {now : Instant} {s s' : Store} {e : QueueError}
    (h : (transition id target sources extra now).run s = .error e s') :
    s' = s ∧ ((¬ s.Writable ∧ ∃ d, e = .database d) ∨
      (s.Writable ∧ match s.row? id with
        | some r => r.statusIn sources = false ∧ e = .invalidTransition id.val r.status target
        | none => e = .actionNotFound id.val)) := by
  by_cases hw : s.Writable
  · simp only [transition, EStateM.run_bind, move_run hw] at h
    -- A move of at least one row succeeds, so the write matched no row.
    by_cases hz : (s.rows.filter fun r => r.id == id && r.statusIn sources).length = 0
    · have hnone : ∀ r ∈ s.rows, (r.id == id && r.statusIn sources) = false := by
        simpa [List.filter_eq_nil_iff] using hz
      rw [remap_of_none hnone] at h
      simp only [hz, beq_self_eq_true, if_true, EStateM.run_bind, status_run] at h
      cases hr : s.row? id with
      | none =>
        simp only [hr, EStateM.Result.error.injEq] at h
        exact ⟨h.2.symm, Or.inr ⟨hw, h.1.symm⟩⟩
      | some r =>
        simp only [hr, EStateM.run_throw, EStateM.Result.error.injEq] at h
        -- The row found is one the write passed over.
        have hfind : s.rows.find? (·.id == id) = some r := hr
        have hsrc : r.statusIn sources = false := by
          simpa [List.find?_some hfind] using hnone r (List.mem_of_find?_eq_some hfind)
        exact ⟨h.2.symm, Or.inr ⟨hw, hsrc, h.1.symm⟩⟩
    · simp [hz] at h
  · obtain ⟨d, hd⟩ := beginWrite_run_of_not_writable hw
    simp only [transition, move, EStateM.run_bind, hd, EStateM.Result.error.injEq] at h
    exact ⟨h.2.symm, Or.inl ⟨hw, d, h.1.symm⟩⟩

/-- **What a refusal says.** A failed move left the store as it was; if it was refused as not
allowed, the action has the status it names, and if refused for a missing action, there is
no row with the id. -/
theorem transition_refused {id : ActionId} {target : Status} {sources : List Status}
    {extra : Row → Row} {now : Instant} {s s' : Store} {e : QueueError}
    (h : (transition id target sources extra now).run s = .error e s') :
    s' = s ∧
      (∀ i source target', e = .invalidTransition i source target' →
        (s.row? id).map (·.status) = some source) ∧
      (∀ i, e = .actionNotFound i → s.row? id = none) := by
  obtain ⟨hs, hfail⟩ := transition_fails h
  refine ⟨hs, fun i source target' he => ?_, fun i he => ?_⟩
  · rcases hfail with ⟨-, d, rfl⟩ | ⟨-, hrow⟩
    · cases he
    · cases hr : s.row? id with
      | none =>
        rw [hr] at hrow
        rw [hrow] at he
        cases he
      | some r =>
        rw [hr] at hrow
        rw [hrow.2] at he
        cases he
        rfl
  · rcases hfail with ⟨-, d, rfl⟩ | ⟨-, hrow⟩
    · cases he
    · cases hr : s.row? id with
      | none => rfl
      | some r =>
        rw [hr] at hrow
        rw [hrow.2] at he
        cases he

end Store

end JobQueue
