import JobQueue.Proofs.Staking
import JobQueue.Proofs.ClaimExclusivity

/-!
# What a stake and a release do to the rows

A runner's batch stakes a claim, works through the ids the stake returned, and releases the
claim. This file says what the two claim writes do to each row, for any well-formed table
whose claims were all issued, whatever its rows hold: nothing here asks that a stored time can
be read back.

A stake issues the next claim id `c`, marks the rows it chooses with `c`, reads the rows
carrying `c` back in claim order, and unclaims those not yet due. Since `c` was on no row
before, the rows carrying it are exactly the marked ones. So every row keeps its id, status and
attempts; a row whose id the stake returned was unclaimed and now carries `c`; every other row
keeps its claim, a row read back too late losing `c` again (`Store.stake_rows`). Each id
returned names a row that was pending, unclaimed and through the filter, whose stored time is
at most the horizon as text and reads back as an instant at most the horizon
(`Store.stake_returns_due`). A release clears its claim from every row carrying it and touches
nothing else (`Store.releaseClaim_ok`).

**Main statements**

* `Store.stake_rows` — what a stake does to each row, and that the ids it returns are distinct.
* `Store.stake_returns_due` — every id a stake returns names a row that was due.
* `Store.releaseClaim_ok` — a release clears its claim.
-/

namespace JobQueue

/-- **A row through a stake** of claim `c` that returned the ids `ids`: the same id, status and
attempts; claimed by `c`, having been unclaimed, if its id was returned; its claim as before
otherwise. -/
def Row.Staking (c : ClaimId) (ids : List ActionId) (q q' : Row) : Prop :=
  q'.id = q.id ∧ q'.status = q.status ∧ q'.attempts = q.attempts ∧
    if q.id ∈ ids then q.claim = none ∧ q'.claim = some c else q'.claim = q.claim

/-- The row with claim `c` cleared, when its id is among `ids` and it carries `c`. -/
def Row.releasedFrom (c : ClaimId) (ids : List ActionId) (q : Row) : Row :=
  if q.id ∈ ids ∧ q.claim = some c then { q with claim := none } else q

/-- A run of `x >>= f` that succeeded ran `x` to a value and then `f` of it. -/
lemma run_bind_ok {ε σ α β : Type} {x : EStateM ε σ α} {f : α → EStateM ε σ β} {s s' : σ}
    {b : β} (h : (x >>= f).run s = .ok b s') :
    ∃ a s₁, x.run s = .ok a s₁ ∧ (f a).run s₁ = .ok b s' := by
  rw [EStateM.run_bind] at h
  rcases hx : x.run s with ⟨a, s₁⟩ | ⟨e, s₁⟩ <;> rw [hx] at h
  · exact ⟨a, s₁, rfl, h⟩
  · cases h

/-- A `mapM` whose steps only read returns values related one for one to its elements. -/
lemma mapM_run_forall₂ {ε σ α β : Type} {g : α → EStateM ε σ β} {R : α → β → Prop}
    (hg : ∀ a s b s', (g a).run s = .ok b s' → s' = s ∧ R a b) :
    ∀ (xs : List α) {s s' : σ} {ys : List β}, (xs.mapM g).run s = .ok ys s' →
      s' = s ∧ List.Forall₂ R xs ys
  | [], s, s', ys, h => by
    simp only [List.mapM_nil, EStateM.run_pure, EStateM.Result.ok.injEq] at h
    obtain ⟨rfl, rfl⟩ := h
    exact ⟨rfl, .nil⟩
  | x :: xs, s, s', ys, h => by
    rw [List.mapM_cons] at h
    obtain ⟨b, s₁, hx, h₁⟩ := run_bind_ok h
    obtain ⟨bs, s₂, hxs, h₂⟩ := run_bind_ok h₁
    obtain ⟨rfl, hb⟩ := hg x s b s₁ hx
    obtain ⟨rfl, hbs⟩ := mapM_run_forall₂ hg xs hxs
    simp only [EStateM.run_pure, EStateM.Result.ok.injEq] at h₂
    obtain ⟨rfl, rfl⟩ := h₂
    exact ⟨rfl, .cons hb hbs⟩

namespace Store

variable {s s' : Store}

/-! ## Rows by id -/

/-- In a well-formed table the lookup of a row's id finds that row. -/
lemma WellFormed.row?_eq (hs : s.WellFormed) {q : Row} (hq : q ∈ s.rows) :
    s.row? q.id = some q := by
  have hsome : (s.rows.find? (·.id == q.id)).isSome := List.find?_isSome.2 ⟨q, hq, by simp⟩
  obtain ⟨q', hq'⟩ := Option.isSome_iff_exists.1 hsome
  have hid : q'.id = q.id := by simpa using List.find?_some hq'
  unfold row?
  rw [hq', hs.eq_of_id (List.mem_of_find?_eq_some hq') hq hid]

lemma mem_of_row? {y : ActionId} {q : Row} (h : s.row? y = some q) : q ∈ s.rows ∧ q.id = y :=
  ⟨List.mem_of_find?_eq_some h, by simpa using List.find?_some h⟩

/-- A table whose rows are mapped keeping their ids stays well formed. -/
lemma WellFormed.map {g : Row → Row} (hg : ∀ q ∈ s.rows, (g q).id = q.id) (hs : s.WellFormed)
    (h : s'.rows = s.rows.map g) (hlast : s'.lastId = s.lastId) : s'.WellFormed := by
  have hids : s'.rows.map (·.id) = s.rows.map (·.id) := by
    rw [h, List.map_map]
    exact List.map_congr_left fun q hq => hg q hq
  refine ⟨hids ▸ hs.nodup, fun q' hq' => ?_⟩
  rw [h] at hq'
  obtain ⟨q, hq, rfl⟩ := List.mem_map.1 hq'
  rw [hg q hq, hlast]
  exact hs.le_lastId q hq

/-! ## The claim write and the read-back -/

/-- **The claim write** of claim `c` by `horizon`: the table with the rows it chooses marked. -/
def written (c : ClaimId) (limit : Nat) (horizon : Instant) (f : ClaimFilter) (now : Instant)
    (s : Store) : Store :=
  remap (Staked limit horizon f s) (Row.stakedBy c now) s

lemma stakeWrite_run_of_writable (c : ClaimId) (limit : Nat) (horizon : Instant)
    (f : ClaimFilter) (now : Instant) (hw : s.Writable) :
    ∃ k, (stakeWrite c limit horizon f now).run s = .ok k (written c limit horizon f now s) := by
  simp only [stakeWrite, EStateM.run_bind, beginWrite_run_of_writable hw, EStateM.run_get,
    rewrite_run]
  exact ⟨_, rfl⟩

/-- **The read-back of a claim** changes nothing and reads each row carrying the claim, in
claim order, to its id and its scheduled time. -/
lemma claimedRows_ok {c : ClaimId} {ps : List (ActionId × Instant)}
    (h : (claimedRows c).run s = .ok ps s') :
    s' = s ∧ List.Forall₂ (fun q p => q.id = p.1 ∧ Row.time 1 q.scheduledAt = .ok p.2)
      (sortBy claimOrder (s.rows.filter (·.claim == some c))) ps := by
  simp only [claimedRows, EStateM.run_bind, EStateM.run_get] at h
  refine mapM_run_forall₂ (fun q s b s' hb => ?_) _ h
  split at hb
  · simp only [EStateM.run_pure, EStateM.Result.ok.injEq] at hb
    obtain ⟨rfl, rfl⟩ := hb
    exact ⟨rfl, rfl, ‹_›⟩
  · cases hb

/-- **Keeping the due ids** returns the ids read back due by the horizon, in order, and unclaims
the others. -/
lemma keepDue_ok {c : ClaimId} {h : Instant} :
    ∀ (ps : List (ActionId × Instant)) {s s' : Store} {ids : List ActionId}, s.Writable →
      (keepDue c h ps).run s = .ok ids s' →
      ids = (ps.filter fun p => decide (p.2 ≤ h)).map (·.1) ∧
        s' = { s with rows :=
          (s.rows.map (Row.releasedFrom c ((ps.filter fun p => !decide (p.2 ≤ h)).map (·.1)))) }
  | [], s, s', ids, _, hk => by
    simp only [keepDue, EStateM.run_pure, EStateM.Result.ok.injEq] at hk
    obtain ⟨rfl, rfl⟩ := hk
    refine ⟨rfl, ?_⟩
    simp only [List.filter_nil, List.map_nil]
    rw [show Row.releasedFrom c [] = id from funext fun q => by simp [Row.releasedFrom],
      List.map_id]
  | (x, t) :: ps, s, s', ids, hw, hk => by
    by_cases ht : t ≤ h
    · simp only [keepDue, if_pos ht] at hk
      obtain ⟨rest, s₁, hrest, hk⟩ := run_bind_ok hk
      simp only [EStateM.run_pure, EStateM.Result.ok.injEq] at hk
      obtain ⟨rfl, rfl⟩ := hk
      obtain ⟨rfl, rfl⟩ := keepDue_ok ps hw hrest
      simp [ht]
    · simp only [keepDue, if_neg ht] at hk
      obtain ⟨u, s₁, hun, hk⟩ := run_bind_ok hk
      -- The late id loses the claim, and the rest is kept or unclaimed in the same way.
      have hs₁ : s₁ = { s with rows := (s.rows.map fun q =>
          if q.id == x && q.claim == some c then { q with claim := none } else q) } := by
        simp only [unclaimFrom, EStateM.run_bind, beginWrite_run_of_writable hw,
          rewrite_run, EStateM.run_pure, EStateM.Result.ok.injEq] at hun
        exact hun.2.symm
      obtain ⟨rfl, rfl⟩ := keepDue_ok ps (by subst hs₁; exact hw) hk
      subst hs₁
      have hlate : (((x, t) :: ps).filter fun p => !decide (p.2 ≤ h)).map (·.1) =
          x :: (ps.filter fun p => !decide (p.2 ≤ h)).map (·.1) := by simp [ht]
      refine ⟨by simp [ht], ?_⟩
      rw [hlate, List.map_map]
      congr 1
      refine List.map_congr_left fun q _ => ?_
      simp only [Function.comp_apply, Bool.and_eq_true, beq_iff_eq]
      by_cases hx : q.id = x ∧ q.claim = some c
      · simp [Row.releasedFrom, hx]
      · -- Off the late id, one more late id changes nothing.
        have hcond : (q.id ∈ x :: (ps.filter fun p => !decide (p.2 ≤ h)).map (·.1) ∧
            q.claim = some c) ↔
            (q.id ∈ (ps.filter fun p => !decide (p.2 ≤ h)).map (·.1) ∧ q.claim = some c) := by
          constructor
          · rintro ⟨hm, hc⟩
            exact ⟨(List.mem_cons.1 hm).resolve_left fun hq => hx ⟨hq, hc⟩, hc⟩
          · rintro ⟨hm, hc⟩
            exact ⟨List.mem_cons_of_mem _ hm, hc⟩
        simp only [Row.releasedFrom, if_neg hx, hcond]

/-! ## The stake -/

/-- **A stake that went through**: it issued the next claim id, and either had a limit of zero
and wrote nothing, or wrote its claim on a writable table, read back the rows carrying it, kept
those due by the horizon and unclaimed the rest. -/
lemma stake_inv {limit : Nat} {before : Option Instant} {f : ClaimFilter} {now : Instant}
    {c : Claim} (h : (stake limit before f now).run s = .ok c s') :
    c.id = ⟨s.claimsIssued + 1⟩ ∧
      (limit = 0 ∧ c.actionIds = [] ∧ s' = { s with claimsIssued := s.claimsIssued + 1 } ∨
        s.Writable ∧ ∃ ps : List (ActionId × Instant),
          List.Forall₂ (fun q p => q.id = p.1 ∧ Row.time 1 q.scheduledAt = .ok p.2)
          (sortBy claimOrder ((written c.id limit (before.getD now).truncSeconds f now
            { s with claimsIssued := s.claimsIssued + 1 }).rows.filter (·.claim == some c.id))) ps ∧
          c.actionIds =
            (ps.filter fun p => decide (p.2 ≤ (before.getD now).truncSeconds)).map (·.1) ∧
          s' = { written c.id limit (before.getD now).truncSeconds f now
            { s with claimsIssued := s.claimsIssued + 1 } with rows :=
              ((written c.id limit (before.getD now).truncSeconds f now
                { s with claimsIssued := s.claimsIssued + 1 }).rows.map
                (Row.releasedFrom c.id ((ps.filter fun p =>
                  !decide (p.2 ≤ (before.getD now).truncSeconds)).map (·.1)))) }) := by
  simp only [stake, EStateM.run_bind, freshClaim_run] at h
  by_cases hz : limit = 0
  · subst hz
    simp only [beq_self_eq_true, if_true, EStateM.run_pure, EStateM.Result.ok.injEq] at h
    obtain ⟨rfl, rfl⟩ := h
    exact ⟨rfl, .inl ⟨rfl, rfl, rfl⟩⟩
  simp only [beq_iff_eq, hz, if_false] at h
  -- The claim write needs the write lock; without it the stake fails.
  by_cases hw : s.Writable
  · have hw₀ : ({ s with claimsIssued := s.claimsIssued + 1 } : Store).Writable := hw
    obtain ⟨k, hk⟩ := stakeWrite_run_of_writable ⟨s.claimsIssued + 1⟩ limit
      (before.getD now).truncSeconds f now hw₀
    obtain ⟨k', s₁, hsw, h⟩ := run_bind_ok h
    rw [hk] at hsw
    cases hsw
    obtain ⟨ids, s₂, hcl, h⟩ := run_bind_ok h
    simp only [EStateM.run_pure, EStateM.Result.ok.injEq] at h
    obtain ⟨rfl, rfl⟩ := h
    -- The read-back changes nothing; keeping the due ids unclaims the late ones.
    obtain ⟨ps, s₃, hps, hkeep⟩ := run_bind_ok hcl
    obtain ⟨rfl, hF⟩ := claimedRows_ok hps
    obtain ⟨rfl, rfl⟩ := keepDue_ok ps (by exact hw) hkeep
    exact ⟨rfl, .inr ⟨hw, ps, hF, rfl, rfl⟩⟩
  · obtain ⟨d, hd⟩ :=
      beginWrite_run_of_not_writable (s := { s with claimsIssued := s.claimsIssued + 1 }) hw
    obtain ⟨k', s₁, hsw, -⟩ := run_bind_ok h
    obtain ⟨u, s₂, hb, -⟩ := run_bind_ok hsw
    rw [hd] at hb
    cases hb

/-- The ids of pairs related one for one to rows are the rows' ids. -/
lemma forall₂_ids {Q : Row → ActionId × Instant → Prop} {L : List Row}
    {ps : List (ActionId × Instant)} (h : List.Forall₂ (fun q p => q.id = p.1 ∧ Q q p) L ps) :
    ps.map (·.1) = L.map (·.id) := by
  induction h with
  | nil => rfl
  | cons hqp _ ih => simp [hqp.1, ih]

/-- Each pair related one for one to rows comes from one of them. -/
lemma forall₂_of_mem {R : Row → ActionId × Instant → Prop} {L : List Row}
    {ps : List (ActionId × Instant)} (h : List.Forall₂ R L ps) {p : ActionId × Instant}
    (hp : p ∈ ps) : ∃ q ∈ L, R q p := by
  induction h with
  | nil => exact absurd hp List.not_mem_nil
  | @cons q p' L ps hqp _ ih =>
    rcases List.mem_cons.1 hp with rfl | hp
    · exact ⟨q, List.mem_cons_self, hqp⟩
    · obtain ⟨q', hq', hr⟩ := ih hp
      exact ⟨q', List.mem_cons_of_mem q hq', hr⟩

/-- Among pairs with distinct ids, a filter keeps the id of a pair exactly when it keeps the
pair. -/
lemma mem_filter_ids {ps : List (ActionId × Instant)} (hnd : (ps.map (·.1)).Nodup)
    {p : ActionId × Instant} (hp : p ∈ ps) (P : ActionId × Instant → Bool) :
    p.1 ∈ (ps.filter P).map (·.1) ↔ P p = true := by
  constructor
  · intro hm
    obtain ⟨p', hp', hid⟩ := List.mem_map.1 hm
    obtain ⟨hp'', hP⟩ := List.mem_filter.1 hp'
    rwa [← List.inj_on_of_nodup_map hnd hp'' hp hid]
  · intro hP
    exact List.mem_map_of_mem (List.mem_filter.2 ⟨hp, hP⟩)

/-- A claim id one past those issued is on no row. -/
lemma claim_ne_next (hci : s.ClaimsIssued) {q : Row} (hq : q ∈ s.rows) :
    q.claim ≠ some ⟨s.claimsIssued + 1⟩ := fun hc => by
  have := hci q hq _ hc
  dsimp only at this
  omega

section Stake

variable {limit : Nat} {before : Option Instant} {f : ClaimFilter} {now : Instant} {c : Claim}

/-- The claim write maps each row: a chosen one is marked, the others stay. -/
lemma written_rows (c : ClaimId) (h : Instant) :
    (written c limit h f now s).rows =
      s.rows.map fun q => if Staked limit h f s q then q.stakedBy c now else q := rfl

/-- **The rows the claim write marks carry the new claim**: on a table whose claims were all
issued, a row of the claim write carries the next claim id exactly when it was chosen. -/
lemma written_claim_iff (hci : s.ClaimsIssued) (h : Instant) {q : Row} (hq : q ∈ s.rows) :
    (if Staked limit h f { s with claimsIssued := s.claimsIssued + 1 } q then
        q.stakedBy ⟨s.claimsIssued + 1⟩ now else q).claim = some ⟨s.claimsIssued + 1⟩ ↔
      Staked limit h f { s with claimsIssued := s.claimsIssued + 1 } q = true := by
  by_cases hst : Staked limit h f { s with claimsIssued := s.claimsIssued + 1 } q
  · simp [hst, Row.stakedBy]
  · simp only [hst, Bool.false_eq_true, if_false, iff_false]
    exact claim_ne_next hci hq

/-- **What a stake does to the rows.** On a well-formed table whose claims were all issued, a
stake that went through issued the next claim id and returned distinct ids; it changed only
the rows and the count of claims, mapping each row as `Row.Staking` says. -/
theorem stake_rows (hs : s.WellFormed) (hci : s.ClaimsIssued)
    (h : (stake limit before f now).run s = .ok c s') :
    c.id = ⟨s.claimsIssued + 1⟩ ∧ c.actionIds.Nodup ∧
      ∃ G : Row → Row, s' = { s with rows := s.rows.map G, claimsIssued := s.claimsIssued + 1 } ∧
        ∀ q ∈ s.rows, Row.Staking c.id c.actionIds q (G q) := by
  obtain ⟨hc, ⟨-, hids, rfl⟩ | ⟨-, ps, hF, hids, rfl⟩⟩ := stake_inv h
  · -- A limit of zero returns nothing and marks nothing.
    refine ⟨hc, by simp [hids], id, by simp, fun q _ => ?_⟩
    simp [Row.Staking, hids]
  obtain ⟨cid, ids⟩ := c
  dsimp only at hc hids hF ⊢
  subst hc hids
  set H := (before.getD now).truncSeconds
  set C : ClaimId := ⟨s.claimsIssued + 1⟩
  set s₀ : Store := { s with claimsIssued := s.claimsIssued + 1 }
  set W := written C limit H f now s₀ with hWdef
  set L := sortBy claimOrder (W.rows.filter (·.claim == some C))
  have hs₀ : s₀.WellFormed := @WellFormed.of_rows s _ rfl rfl hs
  have hW : W.WellFormed := WellFormed.map (g := fun q => if Staked limit H f s₀ q then
    q.stakedBy C now else q) (fun q _ => by split <;> rfl) hs₀ rfl rfl
  -- The read-back pairs carry the ids of the marked rows, each once.
  have hfst : ps.map (·.1) = L.map (·.id) := forall₂_ids hF
  have hnd : (ps.map (·.1)).Nodup := by
    rw [hfst]
    exact ((List.mergeSort_perm _ _).map _).nodup_iff.2
      ((List.filter_sublist.map _).nodup hW.nodup)
  have hmark : ∀ q ∈ s.rows, q.id ∈ ps.map (·.1) ↔ Staked limit H f s₀ q = true := by
    intro q hq
    rw [hfst, ← written_claim_iff hci H hq]
    constructor
    · intro hm
      obtain ⟨l, hl, hid⟩ := List.mem_map.1 hm
      obtain ⟨hlW, hlc⟩ := List.mem_filter.1 (List.mem_mergeSort.1 hl)
      have hgq : (if Staked limit H f s₀ q then q.stakedBy C now else q) ∈ W.rows :=
        List.mem_map_of_mem hq
      have := hW.eq_of_id hlW hgq (by rw [hid]; split <;> rfl)
      rw [← this]
      simpa using hlc
    · intro hgc
      refine List.mem_map.2 ⟨_, List.mem_mergeSort.2 (List.mem_filter.2
        ⟨List.mem_map_of_mem hq, by simpa using hgc⟩), by split <;> rfl⟩
  refine ⟨rfl, (List.filter_sublist.map _).nodup hnd,
    fun q => Row.releasedFrom C ((ps.filter fun p => !decide (p.2 ≤ H)).map (·.1))
      (if Staked limit H f s₀ q then q.stakedBy C now else q), ?_, fun q hq => ?_⟩
  · rw [hWdef, written_rows, List.map_map]
    rfl
  -- Each row keeps its id, status and attempts; its claim depends on whether it was returned.
  have hkeep : ∀ r : Row, (Row.releasedFrom C ((ps.filter fun p => !decide (p.2 ≤ H)).map
      (·.1)) r).id = r.id ∧ (Row.releasedFrom C ((ps.filter fun p => !decide (p.2 ≤ H)).map
      (·.1)) r).status = r.status ∧ (Row.releasedFrom C ((ps.filter fun p =>
      !decide (p.2 ≤ H)).map (·.1)) r).attempts = r.attempts := by
    intro r
    unfold Row.releasedFrom
    split <;> exact ⟨rfl, rfl, rfl⟩
  obtain ⟨h1, h2, h3⟩ := hkeep (if Staked limit H f s₀ q then q.stakedBy C now else q)
  have hst_id : (if Staked limit H f s₀ q then q.stakedBy C now else q).id = q.id ∧
      (if Staked limit H f s₀ q then q.stakedBy C now else q).status = q.status ∧
      (if Staked limit H f s₀ q then q.stakedBy C now else q).attempts = q.attempts := by
    split <;> exact ⟨rfl, rfl, rfl⟩
  refine ⟨h1.trans hst_id.1, h2.trans hst_id.2.1, h3.trans hst_id.2.2, ?_⟩
  dsimp only
  by_cases hst : Staked limit H f s₀ q = true
  · -- A marked row was read back: returned if due, unclaimed again if late.
    have hq₀ : q.claim = none := by
      simp only [Staked, Bool.and_eq_true, Option.isNone_iff_eq_none] at hst
      exact hst.1.2
    obtain ⟨p, hp, hpid⟩ := List.mem_map.1 ((hmark q hq).2 hst)
    have hret : q.id ∈ (ps.filter fun p => decide (p.2 ≤ H)).map (·.1) ↔ p.2 ≤ H := by
      rw [← hpid, mem_filter_ids hnd hp]
      simp
    have hlate : q.id ∈ (ps.filter fun p => !decide (p.2 ≤ H)).map (·.1) ↔ ¬ p.2 ≤ H := by
      rw [← hpid, mem_filter_ids hnd hp]
      simp
    by_cases hdue : p.2 ≤ H
    · have hnl := mt hlate.1 (not_not.2 hdue)
      simp [hret.2 hdue, hnl, hq₀, Row.releasedFrom, hst, Row.stakedBy]
    · simp [mt hret.1 hdue, hlate.2 hdue, hq₀, Row.releasedFrom, hst, Row.stakedBy]
  · -- A row not marked was not read back, and keeps its claim.
    have hnm : q.id ∉ ps.map (·.1) := fun hm => hst ((hmark q hq).1 hm)
    have hnr : q.id ∉ (ps.filter fun p => decide (p.2 ≤ H)).map (·.1) :=
      fun hm => hnm ((List.filter_sublist.map _).subset hm)
    have hnl : q.id ∉ (ps.filter fun p => !decide (p.2 ≤ H)).map (·.1) :=
      fun hm => hnm ((List.filter_sublist.map _).subset hm)
    simp [hnr, hnl, hst, Row.releasedFrom]

/-- A stake that returned an id wrote its claim, so the table took writes. -/
lemma stake_writable (h : (stake limit before f now).run s = .ok c s') (hne : c.actionIds ≠ []) :
    s.Writable := by
  obtain ⟨-, ⟨-, hids, -⟩ | ⟨hw, -⟩⟩ := stake_inv h
  · exact absurd hids hne
  · exact hw

/-- **A stake keeps the table well formed with its claims issued.** -/
lemma stake_wellFormed (hs : s.WellFormed) (hci : s.ClaimsIssued)
    (h : (stake limit before f now).run s = .ok c s') : s'.WellFormed ∧ s'.ClaimsIssued := by
  obtain ⟨hc, -, G, rfl, hG⟩ := stake_rows hs hci h
  refine ⟨WellFormed.map (fun q hq => (hG q hq).1) hs rfl rfl, fun q' hq' c' hc' => ?_⟩
  obtain ⟨q, hq, rfl⟩ := List.mem_map.1 hq'
  obtain ⟨-, -, -, hclaim⟩ := hG q hq
  dsimp only
  split_ifs at hclaim with hid
  · rw [hclaim.2, hc] at hc'
    cases hc'
    exact le_refl _
  · rw [hclaim] at hc'
    exact Nat.le_succ_of_le (hci q hq c' hc')

/-- **A stake returns only due rows.** On a well-formed table whose claims were all issued,
every id a stake returns names a row that was due for it: pending, unclaimed, let through by
the filter and stored no later than the horizon. Its stored time also reads back as an instant
no later than the horizon. -/
theorem stake_returns_due (hs : s.WellFormed) (hci : s.ClaimsIssued)
    (h : (stake limit before f now).run s = .ok c s') :
    ∀ x ∈ c.actionIds, ∃ q ∈ s.rows, q.id = x ∧
      isDue (.ofInstant (before.getD now).truncSeconds) f q = true ∧
      ∃ t, Row.time 1 q.scheduledAt = .ok t ∧ t ≤ (before.getD now).truncSeconds := by
  obtain ⟨hc, ⟨-, hids, rfl⟩ | ⟨-, ps, hF, hids, rfl⟩⟩ := stake_inv h
  · simp [hids]
  obtain ⟨cid, ids⟩ := c
  dsimp only at hc hids hF ⊢
  subst hc hids
  intro x hx
  obtain ⟨p, hp, rfl⟩ := List.mem_map.1 hx
  obtain ⟨hp, hdue⟩ := List.mem_filter.1 hp
  obtain ⟨l, hl, hid, ht⟩ := forall₂_of_mem hF hp
  obtain ⟨hlW, hlc⟩ := List.mem_filter.1 (List.mem_mergeSort.1 hl)
  rw [written_rows] at hlW
  obtain ⟨q, hq, rfl⟩ := List.mem_map.1 hlW
  -- The row read back carries the new claim, so the claim write marked it.
  have hst := (written_claim_iff hci _ hq).1 (by simpa using hlc)
  simp only [hst, if_true, Row.stakedBy] at hid ht
  exact ⟨q, hq, hid, isDue_of_staked (@WellFormed.of_rows s _ rfl rfl hs) hq hst, p.2, ht,
    by simpa using hdue⟩

end Stake

/-! ## The release -/

/-- **A release that went through** cleared its claim from every row carrying it and changed
nothing else. -/
lemma releaseClaim_ok {c : ClaimId} {n : Nat} (h : (releaseClaim c).run s = .ok n s') :
    s' = { s with rows := s.rows.map fun q =>
      if q.claim = some c then { q with claim := none } else q } := by
  by_cases hw : s.Writable
  · simp only [releaseClaim, EStateM.run_bind, beginWrite_run_of_writable hw, rewrite_run,
      EStateM.Result.ok.injEq] at h
    rw [← h.2]
    simp
  · obtain ⟨d, hd⟩ := beginWrite_run_of_not_writable hw
    obtain ⟨u, s₁, hb, -⟩ := run_bind_ok h
    rw [hd] at hb
    cases hb

end Store

end JobQueue
