import JobQueue.Proofs.Staking
import JobQueue.Proofs.Successor
import JobQueue.Proofs.Unscheduling

/-!
# Listing queries select exactly what they describe

A listing query names conditions on the rows (hook, canonical arguments, group, statuses,
whether a claim is held, and a window of scheduled times), an order by scheduled time and id,
and a page of the result (an offset and a limit). The store answers it by comparing stored
times as text, sorting the matching rows, and handing limit and offset to the database as
signed machine words.

Within the years 0 to 9999 stored times compare as the instants they stand for, so on a table
whose rows are scheduled there, and for a query whose window lies there too, the answer is the
one the query describes: `count` is the number of matching rows, `query` the page of them in
listing order, and `find` the first of them, earliest for pending work and latest otherwise.
This needs the offset and limit to fit a signed machine word. From `2 ^ 63` on the database
reads them as negative, and a negative offset skips nothing (`offset_past_word_skips_nothing`).

**Main statements**

* `ActionQuery.Matches`, `Row.ListedBefore`, `ActionQuery.page` — what a query asks for.
* `Store.selected_eq` — the store's answer is the page of the sorted matching rows.
* `Store.listing_exact` — counts, pages and single finds are exactly the described rows.
* `Store.offset_past_word_skips_nothing` — an offset of `2 ^ 64 - 1` skips no row.
-/

namespace JobQueue

namespace Instant

variable {a t : Instant}

/-- A whole second is at or before an instant exactly when it is at or before that instant's
own second. -/
lemma truncSeconds_le_iff : a.truncSeconds ≤ t.truncSeconds ↔ a.truncSeconds ≤ t := by
  change a.truncSeconds.key ≤ t.truncSeconds.key ↔ a.truncSeconds.key ≤ t.key
  have hn := t.nanos_lt
  rw [truncSeconds_key, truncSeconds_key]
  unfold key nanosPerSecond at *
  omega

/-- An instant is before a whole second exactly when its own second is. -/
lemma truncSeconds_lt_iff : t.truncSeconds < a.truncSeconds ↔ t < a.truncSeconds := by
  change t.truncSeconds.key < a.truncSeconds.key ↔ t.key < a.truncSeconds.key
  have hn := t.nanos_lt
  rw [truncSeconds_key, truncSeconds_key]
  unfold key nanosPerSecond at *
  omega

end Instant

/-- An optional value passes a test of equality with `y` exactly when every value it holds is
`y`'s match. -/
lemma all_beq_iff {α β : Type} [BEq β] [LawfulBEq β] (o : Option α) (f : α → β) (y : β) :
    o.all (fun a => f a == y) = true ↔ ∀ a ∈ o, y = f a := by
  cases o with
  | none => simp
  | some a =>
    simp only [Option.all_some, beq_iff_eq, Option.mem_def, Option.some.injEq, forall_eq']
    exact eq_comm

/-! ## What a query asks for -/

namespace ActionQuery

variable (τ : Row → Instant)

/-- **A row matches a query**, each row `r` scheduled at `τ r`, when it meets every condition the
query sets: the hook, the canonical arguments and the group are the query's; the status is one
of the query's, if it names any; the row holds a claim exactly when the query asks for claimed
rows; and its scheduled time, to the second, is at or before `scheduledBefore` and after
`scheduledAfter`. -/
def Matches (q : ActionQuery) (r : Row) : Prop :=
  (∀ h ∈ q.hook, r.hook = h) ∧ (∀ a ∈ q.args, r.argsKey = a.canonical) ∧
    (∀ g ∈ q.group, r.group = g) ∧ (q.statuses ≠ [] → r.status ∈ q.statuses) ∧
    (∀ c ∈ q.claimed, r.claim.isSome = c) ∧
    (∀ t ∈ q.scheduledBefore, (τ r).truncSeconds ≤ t) ∧
    (∀ t ∈ q.scheduledAfter, t < (τ r).truncSeconds)

instance (q : ActionQuery) (r : Row) : Decidable (q.Matches τ r) :=
  inferInstanceAs (Decidable (_ ∧ _ ∧ _ ∧ _ ∧ _ ∧ _ ∧ _))

/-- The rows in the query's direction: as listed, or reversed for a descending query. -/
def arrange (q : ActionQuery) (l : List Row) : List Row :=
  match q.order with
  | .asc => l
  | .desc => l.reverse

/-- **The page a query asks for**: in its direction, past the first `offset` rows, at most
`limit` of them. -/
def page (q : ActionQuery) (l : List Row) : List Row :=
  let rest := (q.arrange l).drop q.offset
  match q.limit with
  | some n => rest.take n
  | none => rest

/-- **A query the database reads as written**: its offset and limit fit a signed machine word,
and its window of scheduled times lies in the years 0 to 9999. -/
structure InRange (q : ActionQuery) : Prop where
  offset : q.offset < 2 ^ 63
  limit : ∀ n ∈ q.limit, n < 2 ^ 63
  before : ∀ t ∈ q.scheduledBefore, t.Storable
  after : ∀ t ∈ q.scheduledAfter, t.Storable

end ActionQuery

/-- **Listing order**, each row `r` scheduled at `τ r`: earlier scheduled time to the second
first, then smaller id. -/
def Row.ListedBefore (τ : Row → Instant) (r₁ r₂ : Row) : Prop :=
  (τ r₁).truncSeconds < (τ r₂).truncSeconds ∨
    (τ r₁).truncSeconds = (τ r₂).truncSeconds ∧ r₁.id.val < r₂.id.val

/-- Listing order is strict: no two rows each come before the other. -/
lemma Row.ListedBefore.asymm {τ : Row → Instant} {a b : Row} (h : Row.ListedBefore τ a b) :
    ¬ Row.ListedBefore τ b a := by
  rintro (h' | ⟨h', hid'⟩) <;> rcases h with h | ⟨h, hid⟩
  · exact Int.lt_irrefl _ (Int.lt_trans h h')
  · rw [h] at h'
    exact Int.lt_irrefl _ h'
  · rw [h'] at h
    exact Int.lt_irrefl _ h
  · omega

/-- The query behind `Store.find`: the hook, the arguments and group if given, the one status
(pending if none is given), ascending for pending work and descending otherwise, one row. -/
def FindParams.query (p : FindParams) (hook : String) : ActionQuery :=
  { hook := some hook, args := p.args, group := p.group, statuses := [p.status.getD .pending],
    order := if p.status.getD .pending == .pending then .asc else .desc, limit := some 1 }

namespace Store

variable {s : Store} {τ : Row → Instant} {q : ActionQuery}

/-- The rows of a table that match a query. -/
def matching (τ : Row → Instant) (q : ActionQuery) (s : Store) : List Row :=
  s.rows.filter fun r => decide (q.Matches τ r)

/-! ## The store's answer -/

/-- **The store's conditions are the query's** for a row scheduled at a storable instant, when
the query's window is storable. -/
lemma admits_iff {r : Row} (hr : (τ r).Storable ∧ r.scheduledAt = .ofInstant (τ r))
    (hb : ∀ t ∈ q.scheduledBefore, t.Storable) (ha : ∀ t ∈ q.scheduledAfter, t.Storable) :
    q.admits r = true ↔ q.Matches τ r := by
  -- Stored times compare as the instants to the second.
  have hbefore : (q.scheduledBefore.all fun t => decide (r.scheduledAt ≤ Stamp.ofInstant t)) =
      true ↔ ∀ t ∈ q.scheduledBefore, (τ r).truncSeconds ≤ t := by
    cases hq : q.scheduledBefore with
    | none => simp
    | some t =>
      have ht := hb t (by simp [hq])
      simp only [Option.all_some, decide_eq_true_eq, Option.mem_def, Option.some.injEq,
        forall_eq', hr.2, Stamp.ofInstant_le_iff hr.1 ht, Instant.truncSeconds_le_iff]
  have hafter : (q.scheduledAfter.all fun t => decide (Stamp.ofInstant t < r.scheduledAt)) =
      true ↔ ∀ t ∈ q.scheduledAfter, t < (τ r).truncSeconds := by
    cases hq : q.scheduledAfter with
    | none => simp
    | some t =>
      have ht := ha t (by simp [hq])
      have hlt : Stamp.ofInstant t < Stamp.ofInstant (τ r) ↔
          t.truncSeconds < (τ r).truncSeconds := by
        change t.stamp < (τ r).stamp ↔ _
        exact Instant.stamp_lt_iff ht hr.1
      simp only [Option.all_some, decide_eq_true_eq, Option.mem_def, Option.some.injEq,
        forall_eq', hr.2, hlt, Instant.truncSeconds_lt_iff]
  have hstatus : (q.statuses.isEmpty || q.statuses.contains r.status) = true ↔
      (q.statuses ≠ [] → r.status ∈ q.statuses) := by
    cases q.statuses <;> simp
  simp only [ActionQuery.admits, Bool.and_eq_true, all_beq_iff, hbefore, hafter, hstatus,
    ActionQuery.Matches, and_assoc]

/-- The conditions of a query in range pick the matching rows of a table whose rows are
scheduled at storable instants. -/
lemma filter_admits (hτ : s.Scheduled τ) (hq : q.InRange) :
    s.rows.filter q.admits = s.matching τ q :=
  List.filter_congr fun r hr => by
    rw [Bool.eq_iff_iff, decide_eq_true_iff]
    exact admits_iff (hτ r hr) hq.before hq.after

/-- Listing order ties only rows with one id. -/
lemma timeOrder_eq_id {r₁ r₂ : Row} (h : timeOrder r₁ r₂ = .eq) : r₁.id = r₂.id := by
  simp only [timeOrder, Ordering.then_eq_eq] at h
  have hv : r₁.id.val = r₂.id.val := Std.LawfulEqCmp.compare_eq_iff_eq.1 h.2
  cases h₁ : r₁.id
  cases h₂ : r₂.id
  simp_all

/-- For rows scheduled at storable instants, the store's listing order puts a row first exactly
when it is listed first. -/
lemma timeOrder_eq_lt {r₁ r₂ : Row} (h₁ : (τ r₁).Storable ∧ r₁.scheduledAt = .ofInstant (τ r₁))
    (h₂ : (τ r₂).Storable ∧ r₂.scheduledAt = .ofInstant (τ r₂)) :
    timeOrder r₁ r₂ = .lt ↔ Row.ListedBefore τ r₁ r₂ := by
  have hlt : compare r₁.scheduledAt.text r₂.scheduledAt.text = .lt ↔
      (τ r₁).truncSeconds < (τ r₂).truncSeconds := by
    rw [compare_text_eq_lt, h₁.2, h₂.2, Stamp.text_ofInstant, Stamp.text_ofInstant]
    exact Instant.stamp_lt_iff h₁.1 h₂.1
  have heq : compare r₁.scheduledAt.text r₂.scheduledAt.text = .eq ↔
      (τ r₁).truncSeconds = (τ r₂).truncSeconds := by
    rw [Std.LawfulEqCmp.compare_eq_iff_eq, h₁.2, h₂.2, Stamp.text_ofInstant,
      Stamp.text_ofInstant]
    exact Instant.stamp_eq_iff h₁.1 h₂.1
  have hi : compare r₁.id.val r₂.id.val = .lt ↔ r₁.id.val < r₂.id.val := Std.compare_eq_lt
  rw [timeOrder, Ordering.then_eq_lt, hlt, heq, hi, Row.ListedBefore]

/-- **Sorted by the store, rows of a table scheduled at storable instants are in listing
order.** -/
lemma sortBy_listedBefore (hs : s.WellFormed) (hτ : s.Scheduled τ) {rows : List Row}
    (hsub : rows.Sublist s.rows) : (sortBy timeOrder rows).Pairwise (Row.ListedBefore τ) := by
  have hperm := List.mergeSort_perm rows fun a b => timeOrder a b != .gt
  have hmem : ∀ r ∈ sortBy timeOrder rows, r ∈ s.rows := fun r hr =>
    hsub.subset (hperm.subset hr)
  have hnodup : (sortBy timeOrder rows).Nodup :=
    hperm.nodup_iff.2 ((List.Nodup.of_map _ hs.nodup).sublist hsub)
  refine List.Pairwise.imp_of_mem (fun {a b} ha hb hab => ?_)
    ((sortBy_timeOrder_pairwise rows).and hnodup)
  obtain ⟨hle, hne⟩ := hab
  -- A tie in listing order would be one row twice.
  have hlt : timeOrder a b = .lt := by
    cases h : timeOrder a b
    · rfl
    · exact absurd (hs.eq_of_id (hmem a ha) (hmem b hb) (timeOrder_eq_id h)) hne
    · simp [h] at hle
  exact (timeOrder_eq_lt (hτ a (hmem a ha)) (hτ b (hmem b hb))).1 hlt

/-- A count below `2 ^ 63` is read as written. -/
lemma signedWord_of_lt {n : Nat} (h : n < 2 ^ 63) : signedWord n = n := by
  unfold signedWord
  rw [if_pos (by omega)]

/-- **The store's answer is the page of the rows it admits, sorted**, for an offset and a limit
below `2 ^ 63`. -/
lemma selected_eq (ho : q.offset < 2 ^ 63) (hl : ∀ n ∈ q.limit, n < 2 ^ 63) :
    selected q s = q.page (sortBy timeOrder (s.rows.filter q.admits)) := by
  unfold selected ActionQuery.page ActionQuery.arrange
  -- The two orders are split alike on both sides; a limit in range is never negative.
  cases hlim : q.limit with
  | none => cases q.order <;> simp [window, signedWord_of_lt ho]
  | some n =>
    have hn : ¬ (n : Int) < 0 := by omega
    cases q.order <;> simp [window, signedWord_of_lt ho, signedWord_of_lt (hl n hlim), hn]

/-- **A listing query in range** counts the matching rows and returns the ids of its page of
them in listing order. -/
lemma listing_run (hs : s.WellFormed) (hτ : s.Scheduled τ) (hq : q.InRange) :
    (count q).run s = .ok (s.matching τ q).length s ∧
      ∃ l, l.Perm (s.matching τ q) ∧ l.Pairwise (Row.ListedBefore τ) ∧
        (query q).run s = .ok ((q.page l).map (·.id)) s := by
  have hmatch := filter_admits hτ hq
  refine ⟨?_, sortBy timeOrder (s.matching τ q), List.mergeSort_perm _ _,
    sortBy_listedBefore hs hτ List.filter_sublist, ?_⟩
  · change EStateM.Result.ok (s.rows.filter q.admits).length s = _
    rw [hmatch]
  · change EStateM.Result.ok ((selected q s).map (·.id)) s = _
    rw [selected_eq hq.offset hq.limit, hmatch]

/-- The query behind a find is in range: no window of times, no offset, one row. -/
lemma FindParams.query_inRange (p : FindParams) (hook : String) : (p.query hook).InRange :=
  ⟨by simp [FindParams.query], by simp [FindParams.query], by simp [FindParams.query],
    by simp [FindParams.query]⟩

/-- A find reads the first id of its query. -/
lemma find_run {hook : String} {p : FindParams} {ids : List ActionId}
    (h : (query (p.query hook)).run s = .ok ids s) : (find hook p).run s = .ok ids.head? s := by
  change (query (p.query hook) >>= fun ids => pure ids.head?).run s = _
  rw [EStateM.run_bind, h]
  rfl

/-- **Listing queries are exact** on a table whose rows are scheduled at instants of the years 0
to 9999, `τ r` for row `r`. For every query whose offset and limit fit a signed machine word
and whose window of times lies in those years, `count` is the number of rows matching the
query, and `query` returns the ids of the query's page of those rows in listing order
(scheduled time, then id, reversed for a descending query). `find` returns the first row of
its query in that order, so the earliest scheduled match for pending work and the latest
otherwise. -/
theorem listing_exact (hs : s.WellFormed) (hτ : s.Scheduled τ) :
    (∀ q : ActionQuery, q.InRange →
      (count q).run s = .ok (s.matching τ q).length s ∧
        ∃ l, l.Perm (s.matching τ q) ∧ l.Pairwise (Row.ListedBefore τ) ∧
          (query q).run s = .ok ((q.page l).map (·.id)) s) ∧
    ∀ (hook : String) (p : FindParams), ∃ l, l.Perm (s.matching τ (p.query hook)) ∧
      l.Pairwise (Row.ListedBefore τ) ∧
      (find hook p).run s = .ok (((p.query hook).arrange l).head?.map (·.id)) s := by
  refine ⟨fun q hq => listing_run hs hτ hq, fun hook p => ?_⟩
  obtain ⟨-, l, hperm, hsorted, hquery⟩ := listing_run hs hτ (FindParams.query_inRange p hook)
  refine ⟨l, hperm, hsorted, ?_⟩
  rw [find_run hquery]
  -- The find's page is the first row of the arranged listing.
  simp [ActionQuery.page, FindParams.query, List.head?_take]

/-- The `mail` actions of `fourDue` due by noon of the first day of 2024, latest first, past the
first: the page is the action due at midnight, of two that match. -/
theorem listing_exact_fourDue_page :
    (count { hook := some "mail", scheduledBefore := some (.ofSeconds 1704110400),
             order := .desc, offset := 1, limit := some 1 }).run fourDue = .ok 2 fourDue ∧
      (query { hook := some "mail", scheduledBefore := some (.ofSeconds 1704110400),
               order := .desc, offset := 1, limit := some 1 }).run fourDue = .ok [⟨1⟩] fourDue := by
  let q : ActionQuery :=
    { hook := some "mail", scheduledBefore := some (.ofSeconds 1704110400), order := .desc,
      offset := 1, limit := some 1 }
  have hq : q.InRange := ⟨by decide, by simp [q], by simp [q]; decide, by simp [q]⟩
  let r₁ := Row.ofAction ⟨1⟩ ⟨"mail", .empty, .immediate, "", 10⟩ (.ofSeconds 1704067200)
    (.ofSeconds 1704067200)
  let r₂ := Row.ofAction ⟨2⟩ ⟨"mail", .empty, .immediate, "", 5⟩ (.ofSeconds 1704070800)
    (.ofSeconds 1704067200)
  let r₃ := Row.ofAction ⟨3⟩ ⟨"report", .empty, .immediate, "", 0⟩ (.ofSeconds 1704069000)
    (.ofSeconds 1704067200)
  let r₄ := Row.ofAction ⟨4⟩ ⟨"mail", .empty, .immediate, "", 5⟩ (.ofSeconds 1704153600)
    (.ofSeconds 1704067200)
  have hrows : fourDue.rows = [r₁, r₂, r₃, r₄] := fourDue_rows
  obtain ⟨hcount, l, hperm, hsorted, hquery⟩ :=
    (listing_exact fourDue_wellFormed fourDue_scheduled).1 q hq
  -- The `mail` actions due by noon, in table order, which is their listing order.
  have hmatching : fourDue.matching fourDueAt q = [r₁, r₂] := by
    rw [matching, hrows]
    simp only [List.filter_cons, List.filter_nil]
    rw [if_pos (by decide), if_pos (by decide), if_neg (by decide), if_neg (by decide)]
  have hl : l = [r₁, r₂] := by
    rw [hmatching] at hperm
    refine hperm.eq_of_pairwise (fun _ _ _ _ hab hba => absurd hba hab.asymm) hsorted ?_
    exact List.pairwise_pair.2 (by unfold Row.ListedBefore; decide)
  refine ⟨by rw [hcount, hmatching]; rfl, ?_⟩
  rw [hquery, hl]
  rfl

/-- **An offset past a signed machine word skips nothing.** The database reads an offset of
`2 ^ 64 - 1` as `-1`, which skips no row: a query for the actions of hook `h` past the first
`2 ^ 64 - 1` of them returns the one action of a table that holds one, where the page the query
describes is empty. -/
theorem offset_past_word_skips_nothing :
    (query { hook := some "h", offset := 18446744073709551615 }).run
        (({} : Store).append ⟨"h", .empty, .immediate, "", 10⟩ (.ofSeconds 1704067200)
          (.ofSeconds 1704067200)) =
      .ok [⟨1⟩] (({} : Store).append ⟨"h", .empty, .immediate, "", 10⟩ (.ofSeconds 1704067200)
          (.ofSeconds 1704067200)) ∧
    ∀ l : List Row, l.Perm ((({} : Store).append ⟨"h", .empty, .immediate, "", 10⟩
        (.ofSeconds 1704067200) (.ofSeconds 1704067200)).matching (fun _ => .ofSeconds 1704067200)
          { hook := some "h", offset := 18446744073709551615 }) →
      ((({ hook := some "h", offset := 18446744073709551615 } : ActionQuery).page l).map
        (·.id)) = [] := by
  refine ⟨?_, fun l hl => ?_⟩
  · -- The one row is admitted, and the offset, read as `-1`, drops none of it.
    change EStateM.Result.ok ((selected _ _).map (·.id)) _ = _
    simp [selected, window, signedWord, append, Row.ofAction, ActionQuery.admits, sortBy]
  · have hlen : l.length ≤ 1 := by
      rw [hl.length_eq]
      exact List.length_filter_le _ _
    simp only [ActionQuery.page, ActionQuery.arrange, List.map_eq_nil_iff]
    exact List.drop_eq_nil_of_le (by omega)

end Store

end JobQueue
