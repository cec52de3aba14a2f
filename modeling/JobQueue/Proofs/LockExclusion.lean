import JobQueue.Proofs.StoredTime
import JobQueue.Proofs.Dispatch

/-!
# A named lock has one holder at a time

A named lock is one entry per kind: the stored stamp of its expiry. Taking it is one statement,
which records a new expiry when no entry of the kind exists or the stored expiry is at or
before the stored text of now; releasing it deletes the entry. This file says what that gives
over any run of statements, from any number of connections.

A set that fails has written nothing: a time to live beyond the longest span of time, an
expiry past the calendar and a table that refuses the write all leave the store as it was
(`Store.setLock_error`). Only a set or a release of a kind changes the entry of that kind
(`Stmt.lockStamp?_of_other`). And the stored expiry is compared as text, which stands for the
instant on the years 0 to 9999 only: a lock taken at `t₁` for `ttl₁` seconds, with an expiry in
those years, is taken again with no release between only once the clock has reached the whole
second in which `t₁ + ttl₁` falls (`Linked.lock_taken_after_expiry`). The argument follows the
entry of the kind along the log: it keeps its stamp until a set replaces it, and each set that
does so ran no earlier, as text and so in time, than the stamp it replaced.

An expiry in the year 10000 is stored as `+10000-…`, which sorts before every four-digit year:
such a lock is taken again at once (`lock_retaken_before_expiry`).

**Main statements**

* `Store.setLock_ok`, `Store.setLock_error` — what taking a lock does, in every outcome.
* `Stmt.lockStamp?_of_other` — statements other than a set or release of a kind keep its
  entry.
* `Linked.lock_taken_after_expiry` — over any run of statements, a lock taken again without a
  release was taken no earlier than the whole second of the last expiry, for expiries in the
  years 0 to 9999; a failed set changes nothing, and kinds do not touch each other.
* `lock_retaken_before_expiry` — an expiry in the year 10000 does not hold the lock.
-/

namespace JobQueue

namespace Instant

/-- Truncating to the whole second keeps the order of instants. -/
lemma truncSeconds_mono {a b : Instant} (h : a ≤ b) : a.truncSeconds ≤ b.truncSeconds := by
  change a.truncSeconds.key ≤ b.truncSeconds.key
  change a.key ≤ b.key at h
  have ha := a.nanos_lt
  have hb := b.nanos_lt
  rw [truncSeconds_key, truncSeconds_key]
  unfold key at h
  unfold nanosPerSecond at *
  omega

lemma le_trans {a b c : Instant} (h₁ : a ≤ b) (h₂ : b ≤ c) : a ≤ c := Int.le_trans h₁ h₂

instance : @Trans Instant Instant Instant LE.le LE.le LE.le := ⟨le_trans⟩

end Instant

namespace Store

variable {kind k : String} {ttl : Nat} {now : Instant} {s s' : Store}

/-- **The store with the lock of `kind` recorded to lapse at `expires`**: the entry of the
kind replaced, or a new one added when there was none. -/
def recordLock (kind : String) (expires : Stamp) (s : Store) : Store :=
  match lockStamp? kind s with
  | none => { s with locks := s.locks ++ [⟨kind, expires⟩] }
  | some _ =>
    { s with locks := s.locks.map fun (l : NamedLock) => if l.kind == kind then ⟨kind, expires⟩ else l }

/-- Whether a recorded expiry lets the lock be taken at `now`: none is recorded, or it is at
or before now, as stored text. -/
def lapsed (old : Option Stamp) (now : Instant) : Bool :=
  old.all fun o => decide (o ≤ Stamp.ofInstant now)

@[simp] lemma lapsed_none (now : Instant) : lapsed none now = true := rfl

lemma lapsed_some (o : Stamp) (now : Instant) :
    lapsed (some o) now = decide (o ≤ Stamp.ofInstant now) := by
  rw [lapsed, Option.all_some]

/-- **Taking a lock, as an equation**: a time to live beyond the longest span of time or an
expiry past the calendar is refused, then the table must take the write; the lock is taken
exactly when the recorded expiry of its kind has lapsed. -/
lemma setLock_run (kind : String) (ttl : Nat) (now : Instant) (s : Store) :
    (setLock kind ttl now).run s =
      if ttl > 9223372036854775 then .error (.invalidAction
        "lock ttl out of range: Source duration value is out of range for the target type") s
      else match now.addSeconds? ttl with
        | none => .error (.invalidAction "lock ttl out of range") s
        | some expires =>
          if s.readOnly then .error readOnlyRefusal s
          else if s.writeLocked then .error lockedOut s
          else if lapsed (lockStamp? kind s) now then .ok true (recordLock kind (.ofInstant expires) s)
          else .ok false s := by
  unfold setLock
  by_cases hbig : ttl > 9223372036854775
  · simp only [hbig, if_true]
    rfl
  simp only [hbig, if_false]
  rcases now.addSeconds? ttl with _ | expires
  · rfl
  simp only [EStateM.run_bind, beginWrite_run]
  cases hro : s.readOnly
  · cases hwl : s.writeLocked
    · simp only [Bool.false_eq_true, if_false, EStateM.run_get]
      rcases hold : lockStamp? kind s with _ | old
      · simp only [hold, lapsed, Option.all_none, if_true, recordLock]
        rfl
      · by_cases hle : old ≤ Stamp.ofInstant now
        · simp only [hold, hle, if_true, lapsed, Option.all_some, decide_true, recordLock]
          rfl
        · simp [lapsed, hle]
    · simp
  · simp

/-- **Taking a lock, when it does not fail**: the time to live and the expiry fit, the table
takes the write, and the lock is taken exactly when the recorded expiry has lapsed; then the
new expiry is recorded, and otherwise nothing changes. -/
lemma setLock_ok {b : Bool} (h : (setLock kind ttl now).run s = .ok b s') :
    ∃ expires, now.addSeconds? ttl = some expires ∧ s.Writable ∧
      b = lapsed (lockStamp? kind s) now ∧
      s' = if b then recordLock kind (.ofInstant expires) s else s := by
  rw [setLock_run] at h
  by_cases hbig : ttl > 9223372036854775
  · rw [if_pos hbig] at h
    cases h
  rw [if_neg hbig] at h
  rcases hexp : now.addSeconds? ttl with _ | expires
  · rw [hexp] at h
    cases h
  rw [hexp] at h
  refine ⟨expires, rfl, ?_⟩
  by_cases hw : s.Writable
  · simp only [hw.1, hw.2, Bool.false_eq_true, if_false] at h
    refine ⟨hw, ?_⟩
    cases hl : lapsed (lockStamp? kind s) now
    · simp only [hl, Bool.false_eq_true, if_false, EStateM.Result.ok.injEq] at h
      obtain ⟨rfl, rfl⟩ := h
      simp
    · simp only [hl, if_true, EStateM.Result.ok.injEq] at h
      obtain ⟨rfl, rfl⟩ := h
      simp
  · unfold Writable at hw
    cases hro : s.readOnly <;> cases hwl : s.writeLocked <;> simp_all

/-- **A set that fails leaves the store as it was**: it fails before it writes. -/
lemma setLock_error {e : QueueError} (h : (setLock kind ttl now).run s = .error e s') :
    s' = s := by
  rw [setLock_run] at h
  by_cases hbig : ttl > 9223372036854775
  · rw [if_pos hbig] at h
    cases h
    rfl
  rw [if_neg hbig] at h
  rcases hexp : now.addSeconds? ttl with _ | expires
  · rw [hexp] at h
    cases h
    rfl
  rw [hexp] at h
  -- Only the refusals of the write are errors here, and they come before it.
  cases hro : s.readOnly <;> cases hwl : s.writeLocked <;>
    cases hl : lapsed (lockStamp? kind s) now <;> simp [hro, hwl, hl] at h <;> exact h.2.symm

/-- Rewriting the entries of `kind` leaves the first entry of any other kind as it was. -/
lemma find?_replace_other {kind k : String} (hk : k ≠ kind) (e : Stamp) (locks : List NamedLock) :
    (locks.map fun (l : NamedLock) => if l.kind == kind then ⟨kind, e⟩ else l).find?
        (·.kind == k) = locks.find? (·.kind == k) := by
  induction locks with
  | nil => rfl
  | cons l rest ih =>
    rw [List.map_cons, List.find?_cons, List.find?_cons, ih]
    by_cases hl : l.kind = kind
    · -- The entry becomes one of `kind`, which `k` passes over, as it passed over `l`.
      have hnew : ((if l.kind == kind then ⟨kind, e⟩ else l : NamedLock).kind == k) = false := by
        simp [hl, Ne.symm hk]
      have hold : (l.kind == k) = false := by simp [hl, Ne.symm hk]
      rw [hnew, hold]
    · have hsame : (if l.kind == kind then ⟨kind, e⟩ else l : NamedLock) = l := by simp [hl]
      rw [hsame]

/-- Rewriting the entries of `kind` makes the first of them the new one. -/
lemma find?_replace_self {kind : String} (e : Stamp) {locks : List NamedLock}
    (h : (locks.find? (·.kind == kind)).isSome) :
    ((locks.map fun (l : NamedLock) => if l.kind == kind then ⟨kind, e⟩ else l).find?
        (·.kind == kind)).map (·.expiresAt) = some e := by
  induction locks with
  | nil => cases h
  | cons l rest ih =>
    rw [List.map_cons, List.find?_cons]
    by_cases hl : l.kind = kind
    · have hnew : (if l.kind == kind then ⟨kind, e⟩ else l : NamedLock) = ⟨kind, e⟩ := by simp [hl]
      rw [hnew]
      simp
    · have hsame : (if l.kind == kind then ⟨kind, e⟩ else l : NamedLock) = l := by simp [hl]
      have hb : (l.kind == kind) = false := by simpa using hl
      rw [List.find?_cons, hb] at h
      rw [hsame, hb]
      exact ih h

/-- **Recording a lock sets the entry of its kind and no other.** -/
lemma lockStamp?_recordLock (kind k : String) (e : Stamp) (s : Store) :
    lockStamp? k (recordLock kind e s) = if k = kind then some e else lockStamp? k s := by
  unfold recordLock
  rcases hold : lockStamp? kind s with _ | old
  · -- No entry of the kind: the new one, at the end, is found only for its kind.
    have hnone : s.locks.find? (·.kind == kind) = none := by
      simpa [lockStamp?] using hold
    by_cases hk : k = kind
    · subst hk
      simp [lockStamp?, List.find?_append, hnone]
    · simp [lockStamp?, List.find?_append, hk, Ne.symm hk]
  · have hsome : (s.locks.find? (·.kind == kind)).isSome := by
      simp only [lockStamp?, Option.map_eq_some_iff] at hold
      obtain ⟨l, hl, -⟩ := hold
      simp [hl]
    by_cases hk : k = kind
    · subst hk
      simpa [lockStamp?] using find?_replace_self e hsome
    · simp only [lockStamp?, hk, if_false, find?_replace_other hk]

/-- Releasing a lock drops the entry of its kind and no other. -/
lemma lockStamp?_release_other {kind k : String} (hk : k ≠ kind) (s : Store) :
    lockStamp? k { s with locks := s.locks.filter (·.kind != kind) } = lockStamp? k s := by
  unfold lockStamp?
  congr 1
  induction s.locks with
  | nil => rfl
  | cons l rest ih =>
    rw [List.filter_cons]
    by_cases hl : l.kind = kind
    · have hdrop : (l.kind != kind) = false := by simp [hl]
      have hpass : (l.kind == k) = false := by simp [hl, Ne.symm hk]
      rw [hdrop, if_neg Bool.false_ne_true, ih, List.find?_cons, hpass]
    · have hkeep : (l.kind != kind) = true := by simp [hl]
      rw [hkeep, if_pos rfl, List.find?_cons, List.find?_cons, ih]

end Store

namespace Stmt

open Store

variable {kind : String} {s : Store}

/-- **Only a set or a release of a kind changes the entry of that kind**; sets and releases
of other kinds leave it alone. -/
theorem lockStamp?_of_other (st : Stmt) (s : Store) (hset : ∀ ttl now, st ≠ .setLock kind ttl now)
    (hrel : st ≠ .releaseLock kind) :
    lockStamp? kind (after st.run s) = lockStamp? kind s := by
  have hdoes := does st s
  generalize hs' : after st.run s = s' at hdoes ⊢
  -- Statements about rows keep the locks whole; the lock statements are read one by one.
  cases hdoes with
  | refuse => rfl
  | rewrite p f hw hf => rfl
  | cull p hw => rfl
  | append hst hw => rfl
  | issue hst => rfl
  | locks hst hkeep =>
    subst hs'
    rcases hst with ⟨k, ttl, now, rfl⟩ | ⟨k, rfl⟩ | ⟨held, rfl⟩
    · have hk : k ≠ kind := fun h => hset ttl now (h ▸ rfl)
      rw [run, after_bind_pure]
      rcases hr : (Store.setLock k ttl now).run s with ⟨b, s'⟩ | ⟨e, s'⟩
      · obtain ⟨expires, -, -, -, rfl⟩ := setLock_ok hr
        rw [after_of_ok hr]
        split
        · rw [lockStamp?_recordLock, if_neg (Ne.symm hk)]
        · rfl
      · rw [after_of_error hr, setLock_error hr]
    · have hk : k ≠ kind := fun h => hrel (h ▸ rfl)
      simp only [run, Store.releaseLock, after_beginWrite_bind]
      split
      · exact lockStamp?_release_other (Ne.symm hk) s
      · rfl
    · rfl

/-- **A statement that changes the entry of a kind** is a release of it, or a set of it that
took the lock. -/
lemma lockStamp?_changed (st : Stmt) (s : Store)
    (h : lockStamp? kind (after st.run s) ≠ lockStamp? kind s) :
    st = .releaseLock kind ∨
      ∃ ttl now s', st = .setLock kind ttl now ∧ (Store.setLock kind ttl now).run s = .ok true s' ∧
        after st.run s = s' := by
  by_cases hrel : st = .releaseLock kind
  · exact .inl hrel
  by_cases hset : ∃ ttl now, st = .setLock kind ttl now
  · obtain ⟨ttl, now, rfl⟩ := hset
    rw [run, after_bind_pure] at h ⊢
    rcases hr : (Store.setLock kind ttl now).run s with ⟨b, s'⟩ | ⟨e, s'⟩
    · rw [after_of_ok hr] at h ⊢
      obtain ⟨expires, -, -, -, rfl⟩ := setLock_ok hr
      cases b
      · exact absurd rfl h
      · exact .inr ⟨ttl, now, _, rfl, hr, rfl⟩
    · rw [after_of_error hr, setLock_error hr] at h
      exact absurd rfl h
  · exact absurd (lockStamp?_of_other st s (fun ttl now hst => hset ⟨ttl, now, hst⟩) hrel) h

end Stmt

/-! ## Along a run of statements -/

namespace Entry

/-- **Entry `e` takes the lock of `kind`** for `ttl` seconds at clock reading `now`: its set
of that lock succeeded. -/
def Takes (kind : String) (ttl : Nat) (now : Instant) (e : Entry) : Prop :=
  e.event = .write (.setLock kind ttl now) ∧ ∃ s', (Store.setLock kind ttl now).run e.before = .ok true s'

/-- Entry `e` asks for the lock of `kind` at clock reading `now`. -/
def SetsAt (kind : String) (now : Instant) (e : Entry) : Prop :=
  ∃ ttl, e.event = .write (.setLock kind ttl now)

/-- Entry `e` releases the lock of `kind`. -/
def Releases (kind : String) (e : Entry) : Prop := e.event = .write (.releaseLock kind)

end Entry

/-- The order of stamps is that of their texts, where `a ≤ b` means `b` does not sort first. -/
lemma Stamp.not_lt_of_le {a b : Stamp} (h : a ≤ b) : ¬ b < a := h

/-- A lock recorded to lapse at a storable instant is taken at a representable clock reading
only from the whole second of that instant on. -/
lemma Store.taken_after {kind : String} {ttl : Nat} {now expires : Instant} {s s' : Store}
    (hold : lockStamp? kind s = some (.ofInstant expires)) (hexp : expires.Storable)
    (hnow : now.Representable) (h : (setLock kind ttl now).run s = .ok true s') :
    expires.truncSeconds ≤ now.truncSeconds := by
  obtain ⟨-, -, -, hb, -⟩ := setLock_ok h
  have hle : Stamp.ofInstant expires ≤ Stamp.ofInstant now := by
    have hlapsed : lapsed (some (Stamp.ofInstant expires)) now = true := by
      rw [← hold]
      exact hb.symm
    rw [lapsed_some] at hlapsed
    exact of_decide_eq_true hlapsed
  -- A clock reading outside the years 0 to 9999 sorts first, so it cannot pass the stamp.
  have hs : now.Storable := by
    by_contra hns
    exact Stamp.not_lt_of_le hle (Stamp.ofInstant_lt_of_unstorable hnow hns hexp)
  exact (Stamp.ofInstant_le_iff hexp hs).1 hle

/-- The entry an entry leaves behind after taking a lock is the new expiry. -/
lemma Entry.Takes.records {kind : String} {ttl : Nat} {now : Instant} {e : Entry}
    (h : e.Takes kind ttl now) (hafter : e.after = e.event.apply e.before) :
    ∃ expires, now.addSeconds? ttl = some expires ∧
      Store.lockStamp? kind e.after = some (.ofInstant expires) := by
  obtain ⟨hev, s', hrun⟩ := h
  obtain ⟨expires, hexp, -, -, hs'⟩ := Store.setLock_ok hrun
  refine ⟨expires, hexp, ?_⟩
  rw [hafter, hev, Event.apply, Stmt.run, after_bind_pure, after_of_ok hrun, hs', if_pos rfl,
    Store.lockStamp?_recordLock, if_pos rfl]

/-- **Named locks keep their holders apart.** Over any run of statements, from any number of
connections: when the lock of `kind` is taken at `t₁` for `ttl₁` seconds, with its expiry
`t₁ + ttl₁` in the years 0 to 9999, and taken again at `t₂` with no release of the kind in
between, then `t₂` is no earlier than the whole second in which `t₁ + ttl₁` falls, provided the
clock readings of the sets are representable and no set in between ran later than `t₂`. A set
that fails leaves the store as it was, and only a set or a release of a kind touches the entry
of that kind. -/
theorem Linked.lock_taken_after_expiry {s t : Store} {l : List Entry} (h : Linked s l t)
    {e₁ e₂ : Entry} (hs : [e₁, e₂].Sublist l) {kind : String} {ttl₁ ttl₂ : Nat}
    {t₁ t₂ expires : Instant} (h₁ : e₁.Takes kind ttl₁ t₁) (h₂ : e₂.Takes kind ttl₂ t₂)
    (hexp : t₁.addSeconds? ttl₁ = some expires) (hstore : expires.Storable)
    (hrel : ∀ e, [e₁, e, e₂].Sublist l → ¬ e.Releases kind)
    (hclock : ∀ e now, [e₁, e, e₂].Sublist l → e.SetsAt kind now → now ≤ t₂)
    (hreadings : ∀ e ∈ l, ∀ now, e.SetsAt kind now → now.Representable) :
    expires.truncSeconds ≤ t₂.truncSeconds ∧
      (∀ ttl now (s s' : Store) err, (Store.setLock kind ttl now).run s = .error err s' →
        s' = s) ∧
      ∀ (st : Stmt) (s : Store), (∀ ttl now, st ≠ .setLock kind ttl now) →
        st ≠ .releaseLock kind → Store.lockStamp? kind (after st.run s) = Store.lockStamp? kind s := by
  refine ⟨?_, fun _ _ _ _ _ hr => Store.setLock_error hr, Stmt.lockStamp?_of_other⟩
  have hmem₂ : e₂ ∈ l := hs.subset (by simp)
  have hr₂ : t₂.Representable := hreadings e₂ hmem₂ t₂ ⟨ttl₂, h₂.1⟩
  obtain ⟨s₂, hrun₂⟩ := h₂.2
  -- The entry of the kind that the first set left behind.
  obtain ⟨expires', hexp', hleft⟩ :=
    h₁.records (h.of_mem (hs.subset (by simp))).2.1
  obtain rfl : expires' = expires := Option.some.inj (hexp'.symm.trans hexp)
  by_cases hkept : Store.lockStamp? kind e₂.before = some (.ofInstant expires')
  · exact Store.taken_after hkept hstore hr₂ hrun₂
  -- Otherwise an entry in between replaced it: a set of the kind that took the lock.
  obtain ⟨e, hsub, hbefore, hafter⟩ :=
    h.crossing (fun s => Store.lockStamp? kind s = some (.ofInstant expires')) hs hleft hkept
  have hmem : e ∈ l := hsub.subset (by simp)
  have happ := (h.of_mem hmem).2.1
  cases hev : e.event with
  | write st =>
    rw [happ, hev, Event.apply] at hafter
    rcases Stmt.lockStamp?_changed st e.before (by rwa [hbefore]) with hst | ⟨ttl, now, s', rfl, hrun, -⟩
    · exact (hrel e hsub (by rw [Entry.Releases, hev, hst])).elim
    · have hnow : now.Representable := hreadings e hmem now ⟨ttl, hev⟩
      calc expires'.truncSeconds ≤ now.truncSeconds := Store.taken_after hbefore hstore hnow hrun
        _ ≤ t₂.truncSeconds := Instant.truncSeconds_mono (hclock e now hsub ⟨ttl, hev⟩)
  | _ =>
    -- No other event writes.
    rw [happ, hev] at hafter
    exact (hafter hbefore).elim

/-- The lock of housekeeping, taken on an empty table at the first second of 2024 for an hour
and again half a minute after it lapsed. -/
theorem lock_taken_after_expiry_hourly :
    ∃ (e₁ e₂ : Entry) (t : Store), Linked {} [e₁, e₂] t ∧
      e₁.Takes cleanupLock 3600 (.ofSeconds 1704067200) ∧
      e₂.Takes cleanupLock 3600 (.ofSeconds 1704070830) ∧
      (Instant.ofSeconds 1704067200).addSeconds? 3600 = some (.ofSeconds 1704070800) ∧
      (Instant.ofSeconds 1704070800).Storable ∧
      (Instant.ofSeconds 1704070800).truncSeconds ≤ (Instant.ofSeconds 1704070830).truncSeconds := by
  let st₁ : Stmt := .setLock cleanupLock 3600 (.ofSeconds 1704067200)
  let st₂ : Stmt := .setLock cleanupLock 3600 (.ofSeconds 1704070830)
  have hl := ((Linked.nil ({} : Store)).snoc 0 (.write st₁)).snoc 1 (.write st₂)
  rw [List.nil_append, List.singleton_append] at hl
  obtain ⟨b₁, s₁, hrun₁, hb₁⟩ := run_ok_of_check
    (m := Store.setLock cleanupLock 3600 (.ofSeconds 1704067200)) (s := {}) (p := id)
    (by decide +kernel)
  obtain rfl : b₁ = true := hb₁
  obtain ⟨b₂, s₂, hrun₂, hb₂⟩ := run_ok_of_check
    (m := Store.setLock cleanupLock 3600 (.ofSeconds 1704070830)) (s := (Event.write st₁).apply {})
    (p := id) (by decide +kernel)
  obtain rfl : b₂ = true := hb₂
  have h₁ : Entry.Takes cleanupLock 3600 (.ofSeconds 1704067200)
      ⟨0, .write st₁, {}, (Event.write st₁).apply {}⟩ := ⟨rfl, s₁, hrun₁⟩
  have h₂ : Entry.Takes cleanupLock 3600 (.ofSeconds 1704070830)
      ⟨1, .write st₂, (Event.write st₁).apply {}, (Event.write st₂).apply ((Event.write st₁).apply {})⟩ :=
    ⟨rfl, s₂, hrun₂⟩
  have hexp : (Instant.ofSeconds 1704067200).addSeconds? 3600 = some (.ofSeconds 1704070800) := by
    decide +kernel
  refine ⟨_, _, _, hl, h₁, h₂, hexp, by decide +kernel,
    (hl.lock_taken_after_expiry (List.Sublist.refl _) h₁ h₂ hexp (by decide +kernel) ?_ ?_ ?_).1⟩
  · -- Nothing stands between the two entries of a log of two.
    intro e he
    exact absurd he.length_le (by simp)
  · intro e now he
    exact absurd he.length_le (by simp)
  · intro e he now ⟨ttl, hev⟩
    simp only [List.mem_cons, List.not_mem_nil, or_false] at he
    rcases he with rfl | rfl
    · obtain ⟨-, -, rfl⟩ := Stmt.setLock.inj (Event.write.inj hev :
        Stmt.setLock cleanupLock 3600 (.ofSeconds 1704067200) = _)
      decide +kernel
    · obtain ⟨-, -, rfl⟩ := Stmt.setLock.inj (Event.write.inj hev :
        Stmt.setLock cleanupLock 3600 (.ofSeconds 1704070830) = _)
      decide +kernel

/-- **An expiry in the year 10000 does not hold the lock**: taken at the first second of 2024
until the first second of the year 10000, the lock of housekeeping is taken again one second
later, since the stored expiry `+10000-…` sorts before `2024-…`. -/
theorem lock_retaken_before_expiry :
    ∃ s₁ s₂ : Store,
      (Store.setLock cleanupLock 251698233600 (.ofSeconds 1704067200)).run {} = .ok true s₁ ∧
      (Store.setLock cleanupLock 60 (.ofSeconds 1704067201)).run s₁ = .ok true s₂ ∧
      (Instant.ofSeconds 1704067200).addSeconds? 251698233600 = some (.ofSeconds 253402300800) ∧
      Instant.ofSeconds 1704067201 < .ofSeconds 253402300800 := by
  obtain ⟨b₁, s₁, h₁, hb₁⟩ := run_ok_of_check
    (m := Store.setLock cleanupLock 251698233600 (.ofSeconds 1704067200)) (s := {}) (p := id)
    (by decide +kernel)
  obtain rfl : b₁ = true := hb₁
  obtain rfl : after (Store.setLock cleanupLock 251698233600 (.ofSeconds 1704067200)).run {} = s₁ :=
    after_of_ok h₁
  obtain ⟨b₂, s₂, h₂, hb₂⟩ := run_ok_of_check
    (m := Store.setLock cleanupLock 60 (.ofSeconds 1704067201))
    (s := after (Store.setLock cleanupLock 251698233600 (.ofSeconds 1704067200)).run {}) (p := id)
    (by decide +kernel)
  obtain rfl : b₂ = true := hb₂
  exact ⟨_, s₂, h₁, h₂, by decide +kernel, by decide⟩

end JobQueue
