import JobQueue.Proofs.Attempts
import JobQueue.Proofs.Successor

/-!
# Unscheduling cancels what it found pending, or what was started under it

`ActionQueue.unschedule` runs two statements. The first reads the first pending match of a hook,
with the arguments and the group where given: the earliest in listing order, stored scheduled
time and then id (`Store.find_pending_some`). The second cancels the id it read, with the
store's own cancel, which accepts an action in progress as well as a pending one. Between the
two any other client may run its statements, a runner's start among them.

Over any run of statements, from the table the read saw to the cancel: the cancel touches the
row of that id and no other, and when it changes the table it leaves the row canceled. The row
was pending then, or in progress because an entry between the read and the cancel started it
(`Linked.unschedule_cancels_pending_or_started`): only a start moves an action into progress
(`Stmt.start_of_inProgress`), and an action that was pending when read was not in progress
then. The second case happens: an action read pending and then started by a runner is canceled
while it runs (`unschedule_cancels_started_action`). Canceling every pending match
(`unscheduleAll`) is one statement and cancels pending rows only.

**Main statements**

* `Store.find_pending_some` — the read returns the first pending match in listing order.
* `Stmt.start_of_inProgress` — only a start of an action moves it into progress, and only from
  pending.
* `Linked.unschedule_cancels_pending_or_started` — what unscheduling cancels, over any run.
* `unschedule_cancels_started_action` — it can cancel an action a runner started under it.
-/

namespace JobQueue

namespace Store

variable {s : Store} {x : ActionId}

/-- **The pending matches of a hook**: its pending rows, with the arguments and the group where
given. -/
def pendingMatches (hook : String) (args : Option Args) (group : Option String) (s : Store) :
    List Row :=
  s.rows.filter fun r => hook == r.hook && args.all (·.canonical == r.argsKey) &&
    group.all (· == r.group) && r.status == .pending

/-- **Action `x` is in progress** in the table. -/
def InProgress (x : ActionId) (s : Store) : Prop :=
  ∃ r ∈ s.rows, r.id = x ∧ r.status = .inProgress

instance (x : ActionId) (s : Store) : Decidable (s.Pending x) :=
  inferInstanceAs (Decidable (∃ r ∈ s.rows, r.id = x ∧ r.status = .pending))

instance (x : ActionId) (s : Store) : Decidable (s.InProgress x) :=
  inferInstanceAs (Decidable (∃ r ∈ s.rows, r.id = x ∧ r.status = .inProgress))

/-- The first of a list, as a window of one. -/
lemma window_one {α : Type} (l : List α) : window (signedWord 1) (signedWord 0) l = l.take 1 :=
  rfl

/-- Looking for a pending action reads the first pending match in listing order. -/
lemma find_pending_run (hook : String) (args : Option Args) (group : Option String) (s : Store) :
    (find hook { args, status := some .pending, group }).run s =
      .ok ((sortBy timeOrder (pendingMatches hook args group s)).head?.map (·.id)) s := by
  -- The read's conditions are those of a pending match.
  have hadmits : s.rows.filter (ActionQuery.admits
      { hook := some hook, args := args, group := group, statuses := [.pending], limit := some 1 }) =
      pendingMatches hook args group s := by
    unfold pendingMatches
    congr 1
    funext r
    simp only [ActionQuery.admits, Option.all_some, List.isEmpty_cons, Bool.false_or,
      Option.all_none, Bool.and_true, List.contains_cons, List.contains_nil, Bool.or_false]
  simp only [find, query, selected, Option.getD_some, EStateM.run_bind, EStateM.run_get,
    beq_self_eq_true, if_true, hadmits, window_one, List.map_take, EStateM.run_pure,
    List.head?_take, List.head?_map]
  rfl

/-- **What looking for a pending action finds**: the first pending match in listing order,
stored scheduled time and then id. The read writes nothing. -/
theorem find_pending_some {hook : String} {args : Option Args} {group : Option String}
    {s' : Store} (h : (find hook { args, status := some .pending, group }).run s = .ok (some x) s') :
    s' = s ∧ ∃ r ∈ pendingMatches hook args group s, r.id = x ∧
      ∀ r' ∈ pendingMatches hook args group s, (timeOrder r r').isLE := by
  rw [find_pending_run, EStateM.Result.ok.injEq] at h
  obtain ⟨hx, rfl⟩ := h
  obtain ⟨r, hhead, rfl⟩ := Option.map_eq_some_iff.1 hx
  obtain ⟨rest, hsorted⟩ := List.head?_eq_some_iff.1 hhead
  have hmem : ∀ r', r' ∈ pendingMatches hook args group s ↔ r' ∈ r :: rest := fun r' => by
    rw [← hsorted, sortBy, List.mem_mergeSort]
  refine ⟨rfl, r, (hmem r).2 List.mem_cons_self, rfl, fun r' hr' => ?_⟩
  -- The first of the sorted matches comes no later than any of them.
  have hpair := sortBy_timeOrder_pairwise (pendingMatches hook args group s)
  rw [hsorted] at hpair
  rcases List.mem_cons.1 ((hmem r').1 hr') with rfl | hin
  · rw [@Std.ReflCmp.compare_self Row timeOrder _ r']
    rfl
  · exact List.rel_of_pairwise_cons hpair hin

end Store

namespace Stmt

open Store

variable {s : Store} {x : ActionId}

/-- **Only a start puts an action in progress**, and only a pending one. -/
theorem start_of_inProgress (st : Stmt) (hn : ¬ s.InProgress x)
    (h : (after st.run s).InProgress x) : (∃ now, st = .start x now) ∧ s.Pending x := by
  obtain ⟨r', hr', hid, hst⟩ := h
  rcases (does st s).rows r' hr' with ⟨r, hr, rfl | ⟨-, he⟩⟩ | ⟨a, due, now, -, rfl, -⟩
  · exact absurd ⟨_, hr, hid, hst⟩ hn
  · -- Of the edits only a start leaves in progress a row that was not.
    cases he with
    | stake _ => exact absurd ⟨r, hr, hid, hst⟩ hn
    | @start now _ _ hp =>
      subst hid
      exact ⟨⟨now, rfl⟩, r, hr, rfl, hp⟩
    | unclaim _ => exact absurd ⟨r, hr, hid, hst⟩ hn
    | finish _ _ _ _ _ hfin =>
      rw [hst] at hfin
      cases hfin
  · cases hst

/-- **The cancel of `x` touches the row of `x` only**: every other row stays as it was, in
its place. -/
lemma after_cancel_touches (x : ActionId) (now : Instant) (s : Store) :
    ∃ g : Row → Row, after (Stmt.cancel x now).run s =
      { s with rows := s.rows.map fun r => if r.id = x then g r else r } := by
  rw [run, after_move]
  split
  · refine ⟨fun r => if r.statusIn [.pending, .inProgress] then
      { r with status := .canceled, updatedAt := .ofInstant now } else r, ?_⟩
    simp only [remap]
    congr 1
    refine List.map_congr_left fun r _ => ?_
    by_cases hx : r.id = x <;> simp [hx]
  · exact ⟨id, by simp⟩

/-- **A cancel that changes the table** found the row of `x` pending or in progress, and
leaves it canceled. -/
lemma cancel_changed {now : Instant} (h : after (Stmt.cancel x now).run s ≠ s) :
    (∃ r ∈ s.rows, r.id = x ∧ r.statusIn [.pending, .inProgress] = true) ∧
      ∃ r ∈ (after (Stmt.cancel x now).run s).rows, r.id = x ∧ r.status = .canceled := by
  rw [run, after_move] at h ⊢
  split at h
  · rename_i hw
    rw [if_pos hw]
    -- A rewrite that matched no row would have left the table as it was.
    have hmatch : ∃ r ∈ s.rows, (r.id == x && r.statusIn [.pending, .inProgress]) = true := by
      by_contra hnone
      exact h (remap_of_none fun r hr => Bool.eq_false_iff.2 fun hp => hnone ⟨r, hr, hp⟩)
    obtain ⟨r, hr, hp⟩ := hmatch
    simp only [Bool.and_eq_true, beq_iff_eq] at hp
    refine ⟨⟨r, hr, hp⟩, { r with status := .canceled, updatedAt := .ofInstant now }, ?_, hp.1, rfl⟩
    refine List.mem_map.2 ⟨r, hr, ?_⟩
    simp [hp.1, hp.2]
  · exact absurd rfl h

end Stmt

/-- **An entry that puts `x` in progress starts it**: it is a write of the start of `x`, which
found `x` pending. -/
lemma Entry.starts_of_enters {e : Entry} (happ : e.after = e.event.apply e.before)
    (hn : ¬ e.before.InProgress x) (h : e.after.InProgress x) : e.Starts x := by
  cases hev : e.event with
  | write st =>
    rw [happ, hev, Event.apply] at h
    obtain ⟨⟨now, rfl⟩, hp⟩ := Stmt.start_of_inProgress st hn h
    obtain ⟨r, hr, hid, hst⟩ := h
    exact ⟨⟨now, hev⟩, hp, r, happ ▸ hev ▸ hr, hid, hst⟩
  | _ =>
    -- No other event writes.
    rw [happ, hev] at h
    exact absurd h hn

/-- **Unscheduling cancels what it found pending, or what was started under it.** Over any run
of statements from a well-formed table on which the read for the first pending match of a
hook found `x`, up to a cancel of `x`: the read chose the first pending match in listing order;
the cancel touches the row of `x` and no other; and when it changes the table, `x` is left
canceled, and it was pending at the cancel or an entry between the read and the cancel started
it. -/
theorem Linked.unschedule_cancels_pending_or_started {u u' v : Store} {l : List Entry}
    {e : Entry} {hook : String} {args : Option Args} {group : Option String} {x : ActionId}
    {now : Instant} (hu : u.WellFormed) (h : Linked u (l ++ [e]) v)
    (hfind : (Store.find hook { args, status := some .pending, group }).run u = .ok (some x) u')
    (hcancel : e.event = .write (.cancel x now)) :
    (∃ r ∈ Store.pendingMatches hook args group u, r.id = x ∧
      ∀ r' ∈ Store.pendingMatches hook args group u, (Store.timeOrder r r').isLE) ∧
    (∃ g : Row → Row,
      e.after = { e.before with rows := e.before.rows.map fun r => if r.id = x then g r else r }) ∧
    (e.after ≠ e.before → (∃ r ∈ e.after.rows, r.id = x ∧ r.status = .canceled) ∧
      (e.before.Pending x ∨ ∃ e' ∈ l, e'.Starts x)) := by
  obtain ⟨-, hchoice⟩ := Store.find_pending_some hfind
  -- The log is the entries between the read and the cancel, then the cancel.
  obtain ⟨m, hl, hlast⟩ := h.split
  obtain ⟨rfl, happ, -⟩ := hlast.cons_inv
  rw [hcancel, Event.apply] at happ
  refine ⟨hchoice, happ ▸ Stmt.after_cancel_touches x now e.before, fun hne => ?_⟩
  obtain ⟨⟨r, hr, hid, hsrc⟩, hcanceled⟩ := Stmt.cancel_changed (happ ▸ hne)
  refine ⟨happ ▸ hcanceled, ?_⟩
  simp only [Row.statusIn, List.contains_cons, List.contains_nil, Bool.or_false, Bool.or_eq_true,
    beq_iff_eq] at hsrc
  rcases hsrc with hp | hprog
  · exact .inl ⟨r, hr, hid, hp⟩
  -- In progress at the cancel, but pending, so not in progress, when read.
  obtain ⟨r₀, hr₀, hid₀, -⟩ := hchoice
  simp only [Store.pendingMatches, List.mem_filter, Bool.and_eq_true, beq_iff_eq] at hr₀
  have hread : ¬ u.InProgress x := by
    rintro ⟨r₁, hr₁, hid₁, hprog₁⟩
    have := hu.eq_of_id hr₀.1 hr₁ (hid₀.trans hid₁.symm)
    rw [this, hprog₁] at hr₀
    cases hr₀.2.2
  obtain ⟨e', he', hbefore, hafter⟩ :=
    hl.broken (fun s => ¬ s.InProgress x) hread (not_not.2 ⟨r, hr, hid, hprog⟩)
  exact .inr ⟨e', he', Entry.starts_of_enters (hl.of_mem he').2.1 hbefore (not_not.1 hafter)⟩

/-- An unschedule right after a save: the read finds the action, and the cancel, with nothing in
between, cancels it pending. -/
theorem unschedule_cancels_right_after_save :
    ∃ (u v : Store) (e : Entry), u.WellFormed ∧ Linked u ([] ++ [e]) v ∧
      (Store.find "h" { status := some .pending }).run u = .ok (some ⟨1⟩) u ∧
      e.event = .write (.cancel ⟨1⟩ (.ofSeconds 1704067200)) ∧
      (e.after ≠ e.before → (∃ r ∈ e.after.rows, r.id = ⟨1⟩ ∧ r.status = .canceled) ∧
        (e.before.Pending ⟨1⟩ ∨ ∃ e' ∈ ([] : List Entry), e'.Starts ⟨1⟩)) := by
  let t₀ : Instant := .ofSeconds 1704067200
  let a : Action := { hook := "h", args := .empty, schedule := .immediate }
  let u := (Event.write (.insert a t₀ t₀)).apply {}
  have hu : u.WellFormed := Stmt.wellFormed (.insert a t₀ t₀) Store.WellFormed.empty
  have hl := (Linked.nil u).snoc 1 (.write (.cancel ⟨1⟩ t₀))
  obtain ⟨found, u', hfind, hone⟩ := run_ok_of_check
    (m := Store.find "h" { status := some .pending }) (s := u) (p := (· == some ⟨1⟩))
    (by decide +kernel)
  obtain rfl : found = some ⟨1⟩ := by simpa using hone
  obtain rfl : u' = u := (Store.find_pending_some hfind).1
  exact ⟨u, _, _, hu, hl, hfind, rfl,
    (hl.unschedule_cancels_pending_or_started hu hfind rfl).2.2⟩

/-- **Unscheduling can cancel an action a runner started**: on a table with one action of hook
`h`, the read finds it pending, a runner starts it, and the cancel cancels it while it runs. -/
theorem unschedule_cancels_started_action :
    ∃ (u v : Store) (e₁ e₂ : Entry), Linked u [e₁, e₂] v ∧
      (Store.find "h" { status := some .pending }).run u = .ok (some ⟨1⟩) u ∧
      e₁.Starts ⟨1⟩ ∧ e₂.event = .write (.cancel ⟨1⟩ (.ofSeconds 1704067200)) ∧
      e₂.before.InProgress ⟨1⟩ ∧ ∃ r ∈ e₂.after.rows, r.id = ⟨1⟩ ∧ r.status = .canceled := by
  let t₀ : Instant := .ofSeconds 1704067200
  let a : Action := { hook := "h", args := .empty, schedule := .immediate }
  let u := (Event.write (.insert a t₀ t₀)).apply {}
  have hl := ((Linked.nil u).snoc 0 (.write (.start ⟨1⟩ t₀))).snoc 1 (.write (.cancel ⟨1⟩ t₀))
  rw [List.nil_append, List.singleton_append] at hl
  obtain ⟨found, u', hfind, hone⟩ := run_ok_of_check
    (m := Store.find "h" { status := some .pending }) (s := u) (p := (· == some ⟨1⟩))
    (by decide +kernel)
  obtain rfl : found = some ⟨1⟩ := by simpa using hone
  obtain rfl : u' = u := (Store.find_pending_some hfind).1
  have hstart := Entry.starts_of_pending (x := ⟨1⟩) 0 t₀ (s := u) (by decide +kernel)
    (by decide +kernel)
  exact ⟨u, _, _, _, hl, hfind, hstart, rfl, by decide +kernel, by decide +kernel⟩

end JobQueue
