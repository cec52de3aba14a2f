import JobQueue.Hooks
import Mathlib.Data.List.Induction

/-!
# The order of a registry's handlers

The registry keeps its handlers sorted by priority. It does not keep a separate record of
when each handler came: every registration appends the handler and sorts the whole list again
by priority, stably, and unregistering keeps the others in place. This file shows that, after
any sequence of calls, the list is what one would write down directly: the registrations still
in force, in the order they were made, stably sorted by priority. Dispatching a hook then runs
that hook's handlers in this order, each on the world the one before it left, and the first
failure ends the dispatch.

The ordering is described without the sort. `Handler.StablyOrdered regs out` says that `out`
is sorted by priority and holds, for each priority, the handlers of `regs` of that priority in
their order in `regs`. These two facts determine the list (`Handler.StablyOrdered.unique`), the
library's merge sort meets them (`Handler.stablyOrdered_mergeSort`), and both registering and
unregistering carry them along.

**Main statements**

* `Handler.StablyOrdered` — a list stably sorted by priority; `Handler.StablyOrdered.unique`.
* `RegistryCall.live` — the registrations that no later call takes back, in call order.
* `RunsInTurn` — handlers run one after another until the first failure.
* `Registry.replay_dispatches_in_order` — after any calls, the handlers are the live
  registrations stably sorted by priority; a hook's handlers are the live registrations for it,
  in that order; dispatching runs them in turn; and a hook has handlers exactly when a live
  registration is for it.
-/

namespace JobQueue

namespace Handler

/-- Lower priority first, as the registry sorts. -/
def byPriority (a b : Handler) : Bool := decide (a.priority ≤ b.priority)

/-- The handlers of one priority. -/
def atPriority (p : Int) (h : Handler) : Bool := h.priority == p

/-- **`out` is `regs` stably sorted by priority**: lower priority first, and the handlers of
each priority in the order they have in `regs`. -/
structure StablyOrdered (regs out : List Handler) : Prop where
  sorted : out.Pairwise fun a b => a.priority ≤ b.priority
  ties : ∀ p, out.filter (atPriority p) = regs.filter (atPriority p)

lemma byPriority_trans (a b c : Handler) :
    byPriority a b = true → byPriority b c = true → byPriority a c = true := by
  simp only [byPriority, decide_eq_true_eq]
  exact Int.le_trans

lemma byPriority_total (a b : Handler) : (byPriority a b || byPriority b a) = true := by
  simp only [byPriority, Bool.or_eq_true, decide_eq_true_eq]
  exact Int.le_total _ _

/-- The first handler of a list sorted by priority has the least priority in it. -/
lemma priority_le_of_mem {a x : Handler} {t : List Handler}
    (h : (a :: t).Pairwise fun a b => a.priority ≤ b.priority) (hx : x ∈ a :: t) :
    a.priority ≤ x.priority := by
  rcases List.mem_cons.1 hx with rfl | hx
  · exact Int.le_refl _
  · exact List.rel_of_pairwise_cons h hx

/-- **A list sorted by priority is determined by its handlers of each priority.** -/
lemma eq_of_sorted_of_ties {l₁ l₂ : List Handler}
    (h₁ : l₁.Pairwise fun a b => a.priority ≤ b.priority)
    (h₂ : l₂.Pairwise fun a b => a.priority ≤ b.priority)
    (h : ∀ p, l₁.filter (atPriority p) = l₂.filter (atPriority p)) : l₁ = l₂ := by
  induction l₁ generalizing l₂ with
  | nil =>
    cases l₂ with
    | nil => rfl
    | cons b u =>
      have := h b.priority
      simp [atPriority] at this
  | cons a t ih =>
    cases l₂ with
    | nil =>
      have := h a.priority
      simp [atPriority] at this
    | cons b u =>
      -- Each head is the other list's handler of least priority, so both heads share a
      -- priority, and the handlers of that priority start with them.
      have mem_of (x : Handler) (l l' : List Handler)
          (hl : l.filter (atPriority x.priority) = l'.filter (atPriority x.priority))
          (hx : x ∈ l) : x ∈ l' := by
        have : x ∈ l.filter (atPriority x.priority) := by simp [atPriority, hx]
        rw [hl] at this
        exact (List.mem_filter.1 this).1
      have hab : a.priority ≤ b.priority :=
        priority_le_of_mem h₁ (mem_of b _ _ (h b.priority).symm List.mem_cons_self)
      have hba : b.priority ≤ a.priority :=
        priority_le_of_mem h₂ (mem_of a _ _ (h a.priority) List.mem_cons_self)
      have hp : b.priority = a.priority := Int.le_antisymm hba hab
      have hhead := h a.priority
      simp only [List.filter_cons, atPriority, hp, beq_self_eq_true, if_true,
        List.cons.injEq] at hhead
      obtain ⟨rfl, -⟩ := hhead
      have htail : ∀ p, t.filter (atPriority p) = u.filter (atPriority p) := by
        intro p
        have hp' := h p
        cases hq : atPriority p a
        · simpa only [List.filter_cons, hq, Bool.false_eq_true, if_false] using hp'
        · simpa only [List.filter_cons, hq, if_true, List.cons.injEq, true_and] using hp'
      rw [ih h₁.of_cons h₂.of_cons htail]

/-- **Stable order by priority has one outcome.** -/
lemma StablyOrdered.unique {regs out out' : List Handler} (h : StablyOrdered regs out)
    (h' : StablyOrdered regs out') : out = out' :=
  eq_of_sorted_of_ties h.sorted h'.sorted fun p => (h.ties p).trans (h'.ties p).symm

/-- The order only depends on the handlers of each priority. -/
lemma StablyOrdered.of_ties {regs regs' out : List Handler} (h : StablyOrdered regs out)
    (hr : ∀ p, regs.filter (atPriority p) = regs'.filter (atPriority p)) :
    StablyOrdered regs' out :=
  ⟨h.sorted, fun p => (h.ties p).trans (hr p)⟩

/-- **The library's merge sort is stable**: it keeps the handlers of each priority in order. -/
lemma stablyOrdered_mergeSort (regs : List Handler) :
    StablyOrdered regs (regs.mergeSort byPriority) := by
  refine ⟨?_, fun p => ?_⟩
  · have := List.pairwise_mergeSort byPriority_trans byPriority_total regs
    simpa only [byPriority, decide_eq_true_eq] using this
  · -- The handlers of one priority are sorted already, so they stay a sublist of the sorted
    -- list; the sort keeps how many there are.
    have hsorted : (regs.filter (atPriority p)).Pairwise fun a b => byPriority a b = true := by
      refine List.Pairwise.imp_of_mem ?_ (List.pairwise_of_forall fun _ _ => trivial)
      intro a b ha hb _
      simp only [List.mem_filter, atPriority, beq_iff_eq] at ha hb
      simp [byPriority, ha.2, hb.2]
    have hsub := List.sublist_mergeSort byPriority_trans byPriority_total hsorted
      (List.filter_sublist (l := regs))
    have hsub' := hsub.filter (atPriority p)
    rw [List.filter_filter] at hsub'
    simp only [Bool.and_self] at hsub'
    have hlen := ((List.mergeSort_perm regs byPriority).filter (atPriority p)).length_eq
    exact (hsub'.eq_of_length hlen.symm).symm

/-- Stable order is stable order by the library's merge sort. -/
lemma stablyOrdered_iff {regs out : List Handler} :
    StablyOrdered regs out ↔ out = regs.mergeSort byPriority :=
  ⟨fun h => h.unique (stablyOrdered_mergeSort regs), fun h => h ▸ stablyOrdered_mergeSort regs⟩

/-- Keeping some handlers keeps the others stably ordered. -/
lemma StablyOrdered.filter {regs out : List Handler} (h : StablyOrdered regs out)
    (q : Handler → Bool) : StablyOrdered (regs.filter q) (out.filter q) := by
  refine ⟨h.sorted.filter q, fun p => ?_⟩
  have hswap (l : List Handler) :
      (l.filter q).filter (atPriority p) = (l.filter (atPriority p)).filter q := by
    simp only [List.filter_filter, Bool.and_comm]
  rw [hswap, hswap, h.ties p]

end Handler

/-! ## Registering and unregistering -/

namespace Registry

/-- Registering appends the handler to the stable order of what was there. -/
lemma register_stablyOrdered {r : Registry} {regs : List Handler}
    (hr : Handler.StablyOrdered regs r.handlers) (h : Handler) :
    Handler.StablyOrdered (regs ++ [h]) (r.register h).handlers := by
  refine (Handler.stablyOrdered_mergeSort (r.handlers ++ [h])).of_ties fun p => ?_
  rw [List.filter_append, List.filter_append, hr.ties p]

/-- Unregistering a name drops its handlers from the stable order. -/
lemma unregister_stablyOrdered {r : Registry} {regs : List Handler}
    (hr : Handler.StablyOrdered regs r.handlers) (name : String) :
    Handler.StablyOrdered (regs.filter (·.name != name)) (r.unregister name).handlers :=
  hr.filter _

end Registry

/-- **A call on a registry**: registering a handler, registering work for a hook under the
hook's own name (`Registry.on`), or unregistering a name. -/
inductive RegistryCall where
  | register (h : Handler)
  | on (hook : String) (run : Args → Work (Except HandlerError Unit))
  | unregister (name : String)

namespace RegistryCall

/-- Make the call. -/
def apply (r : Registry) : RegistryCall → Registry
  | .register h => r.register h
  | .on hook run => r.on hook run
  | .unregister name => r.unregister name

/-- The handler the call registers, if it registers one. -/
def registers : RegistryCall → Option Handler
  | .register h => some h
  | .on hook run => some { name := hook, hook, run }
  | .unregister _ => none

/-- Whether the call unregisters a name. -/
def removes (name : String) : RegistryCall → Bool
  | .unregister n => n == name
  | _ => false

/-- **The registrations in force after a sequence of calls**, in the order they were made:
each handler registered, unless a later call unregisters its name. -/
def live : List RegistryCall → List Handler
  | [] => []
  | c :: rest =>
    match c.registers with
    | some h => if rest.any (removes h.name) then live rest else h :: live rest
    | none => live rest

/-- A registration made last is in force, after all the earlier ones. -/
lemma live_append_registers {c : RegistryCall} {h : Handler} (hc : c.registers = some h) :
    ∀ cs : List RegistryCall, live (cs ++ [c]) = live cs ++ [h]
  | [] => by simp [live, hc]
  | c' :: cs => by
    have hrem : ∀ n, c.removes n = false := by
      intro n
      cases c <;> simp_all [registers, removes]
    have ih := live_append_registers hc cs
    cases hc' : c'.registers with
    | none => simp only [live, List.cons_append, hc', ih]
    | some h' =>
      simp only [live, List.cons_append, hc', List.any_append, List.any_cons, List.any_nil,
        hrem, Bool.or_false, ih]
      split <;> rfl

/-- Unregistering a name last takes back every registration under the name. -/
lemma live_append_unregister (name : String) :
    ∀ cs : List RegistryCall, live (cs ++ [.unregister name]) = (live cs).filter (·.name != name)
  | [] => rfl
  | c :: cs => by
    have ih := live_append_unregister name cs
    cases hc : c.registers with
    | none => simp only [live, List.cons_append, hc, ih]
    | some h =>
      simp only [live, List.cons_append, hc, List.any_append, List.any_cons, List.any_nil,
        removes, Bool.or_false, ih]
      by_cases hrest : cs.any (removes h.name) = true
      · simp [hrest]
      · by_cases hn : name = h.name
        · simp [hrest, hn]
        · simp [hrest, hn, Ne.symm hn]

end RegistryCall

namespace Registry

/-- **The registry after a sequence of calls**, starting from an empty one. -/
def replay (calls : List RegistryCall) : Registry := calls.foldl RegistryCall.apply {}

/-- The registry's handlers are the live registrations, stably sorted by priority. -/
lemma replay_stablyOrdered (calls : List RegistryCall) :
    Handler.StablyOrdered (RegistryCall.live calls) (replay calls).handlers := by
  induction calls using List.reverseRecOn with
  | nil => exact ⟨List.Pairwise.nil, fun _ => rfl⟩
  | append_singleton cs c ih =>
    simp only [replay, List.foldl_append, List.foldl_cons, List.foldl_nil] at ih ⊢
    cases c with
    | register h =>
      rw [RegistryCall.live_append_registers rfl]
      exact register_stablyOrdered ih h
    | on hook run =>
      rw [RegistryCall.live_append_registers rfl]
      exact register_stablyOrdered ih _
    | unregister name =>
      rw [RegistryCall.live_append_unregister]
      exact unregister_stablyOrdered ih name

end Registry

/-! ## Dispatching -/

/-- **How running handlers in turn ends.** Each handler runs on the world the one before it
left; the first that fails, with an error or a panic, ends the run with that failure and the
handlers after it never run; when none fails the run succeeds. -/
inductive RunsInTurn (args : Args) :
    List Handler → World → EStateM.Result Panic World (Except HandlerError Unit) → Prop
  | finish (w : World) : RunsInTurn args [] w (.ok (.ok ()) w)
  | next {h : Handler} {rest : List Handler} {w w' : World}
      {res : EStateM.Result Panic World (Except HandlerError Unit)}
      (hh : (h.run args).run w = .ok (.ok ()) w') (hrest : RunsInTurn args rest w' res) :
      RunsInTurn args (h :: rest) w res
  | fail {h : Handler} {rest : List Handler} {w w' : World} {e : HandlerError}
      (hh : (h.run args).run w = .ok (.error e) w') :
      RunsInTurn args (h :: rest) w (.ok (.error e) w')
  | panic {h : Handler} {rest : List Handler} {w w' : World} {p : Panic}
      (hh : (h.run args).run w = .error p w') :
      RunsInTurn args (h :: rest) w (.error p w')

namespace Registry

/-- Running a list of handlers in turn ends as `RunsInTurn` says. -/
lemma runAll_runsInTurn (args : Args) :
    ∀ (hs : List Handler) (w : World), RunsInTurn args hs w ((runAll args hs).run w)
  | [], w => .finish w
  | h :: rest, w => by
    simp only [runAll, EStateM.run_bind]
    rcases hh : (h.run args).run w with ⟨(e | ⟨⟩), w'⟩ | ⟨p, w'⟩
    · exact .fail hh
    · exact .next hh (runAll_runsInTurn args rest w')
    · exact .panic hh

/-- Whatever `RunsInTurn` allows is what running the handlers gives. -/
lemma runAll_of_runsInTurn {args : Args} {hs : List Handler} {w : World}
    {res : EStateM.Result Panic World (Except HandlerError Unit)}
    (h : RunsInTurn args hs w res) : (runAll args hs).run w = res := by
  induction h with
  | finish w => rfl
  | next hh _ ih => simp only [runAll, EStateM.run_bind, hh, ih]
  | fail hh => simp only [runAll, EStateM.run_bind, hh]; rfl
  | panic hh => simp only [runAll, EStateM.run_bind, hh]

/-- **Dispatch runs the hook's handlers in turn**, up to the first failure. -/
lemma dispatch_iff (r : Registry) (hook : String) (args : Args) (w : World)
    (res : EStateM.Result Panic World (Except HandlerError Unit)) :
    (r.dispatch hook args).run w = res ↔ RunsInTurn args (r.serving hook) w res :=
  ⟨fun h => h ▸ runAll_runsInTurn args _ w, runAll_of_runsInTurn⟩

/-- **After any sequence of calls the registry dispatches in order.** Its handlers are exactly
the live registrations stably sorted by priority; the handlers of a hook are the live
registrations for that hook, stably sorted by priority; dispatching the hook runs them in turn
until the first failure, which it returns, and succeeds when none fails or there are none; and
a hook has handlers exactly when a live registration is for it. -/
theorem replay_dispatches_in_order (calls : List RegistryCall) :
    (∀ out, (replay calls).handlers = out ↔
      Handler.StablyOrdered (RegistryCall.live calls) out) ∧
    (∀ hook, Handler.StablyOrdered ((RegistryCall.live calls).filter (·.hook == hook))
      ((replay calls).serving hook)) ∧
    (∀ hook args w res, ((replay calls).dispatch hook args).run w = res ↔
      RunsInTurn args ((replay calls).serving hook) w res) ∧
    ∀ hook, (replay calls).hasHandlers hook = true ↔
      ∃ h ∈ RegistryCall.live calls, h.hook = hook := by
  have hord := replay_stablyOrdered calls
  refine ⟨fun out => ⟨fun h => h ▸ hord, hord.unique⟩, fun hook => hord.filter _,
    dispatch_iff _, fun hook => ?_⟩
  -- The handlers are a rearrangement of the live registrations.
  have hperm : (replay calls).handlers.Perm (RegistryCall.live calls) :=
    (Handler.stablyOrdered_iff.1 hord) ▸ List.mergeSort_perm _ _
  simp only [hasHandlers, List.any_eq_true, beq_iff_eq, hperm.mem_iff]

end Registry

end JobQueue
