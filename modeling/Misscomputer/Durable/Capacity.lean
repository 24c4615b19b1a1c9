import Misscomputer.Durable.LeaseRefinement

set_option relaxedAutoImplicit false
set_option autoImplicit false

/-!
# Capacity safety of the lease store

Capacity is checked in `Hold` only. The other operations move rows between counted and uncounted
states, and time itself uncounts expired holds. The sum stays within the budget because no row
move counts a row that was not counted, because a commit replaces a counted hold by a lease of the
same resources, and because a hold counted at a later time is counted at every earlier one.

## Main definitions

* `Durable.occupancyAt` — the capacity held and in use at a time.

## Main results

* `Durable.occupancyAt_antitone` — as time passes the sum can only fall.
* `Durable.LeaseStore.Step.occupancyAt_le` — what one transaction does to the sum.
* `Durable.run_within_budget` — the sum is within the budget after every run whose decision times
  do not go back, at every later time.
-/

namespace Misscomputer.Durable

open Sandbox Protocol

variable {w : Wire} {budget : Capacity} {now t : ℤ} {s s' : LeaseStore}

/-- The capacity consumed at time `t`: held holds that expire after `t`, plus the leases in
pending, running or cleanup. -/
def occupancyAt (s : LeaseStore) (t : ℤ) : Capacity :=
  (sandboxOccupancyTx s t).1.plus (sandboxOccupancyTx s t).2

lemma occupancyAt_eq (s : LeaseStore) (t : ℤ) :
    occupancyAt s t = Table.sumWhere (HoldRow.holdsAt t) HoldRow.capacity s.holds +
      Table.sumWhere LeaseRow.occupies LeaseRow.capacity s.leases := rfl

/-! ## Rows of sound tables have nonnegative capacities -/

lemma LeaseStore.Sound.hold_capacity (hs : s.Sound) : ∀ h ∈ s.holds, 0 ≤ h.capacity := by
  intro h hh
  have hm := hs.hold_matches h hh
  rw [hm.capacity]
  exact Capacity.ofResources_nonneg hm.resources

lemma LeaseStore.Sound.lease_capacity (hs : s.Sound) : ∀ l ∈ s.leases, 0 ≤ l.capacity := by
  intro l hl
  obtain ⟨h, hh, hc⟩ := hs.lease_commits l hl
  rw [← hc.capacity]
  exact hs.hold_capacity h hh

lemma held_nonneg (hs : s.Sound) (t : ℤ) : 0 ≤ (sandboxOccupancyTx s t).1 :=
  Table.sumWhere_nonneg _ _ hs.hold_capacity

lemma active_nonneg (hs : s.Sound) (t : ℤ) : 0 ≤ (sandboxOccupancyTx s t).2 :=
  Table.sumWhere_nonneg _ _ hs.lease_capacity

lemma occupancyAt_nonneg (hs : s.Sound) (t : ℤ) : 0 ≤ occupancyAt s t :=
  add_nonneg (held_nonneg hs t) (active_nonneg hs t)

/-! ## One transaction -/

/-- A hold that is counted at `t` is counted at every earlier time. -/
lemma HoldRow.holdsAt_of_le {h : HoldRow} {t t' : ℤ} (htt : t ≤ t') (hh : h.holdsAt t' = true) :
    h.holdsAt t = true := by
  simp only [HoldRow.holdsAt, Bool.and_eq_true, decide_eq_true_eq] at *
  exact ⟨hh.1, by omega⟩

/-- **As time passes the sum can only fall.** -/
lemma occupancyAt_antitone (hs : s.Sound) {t t' : ℤ} (htt : t ≤ t') :
    occupancyAt s t' ≤ occupancyAt s t := by
  rw [occupancyAt_eq, occupancyAt_eq]
  exact add_le_add
    (Table.sumWhere_le_of_imp _ _ hs.hold_capacity fun h _ hh => h.holdsAt_of_le htt hh) le_rfl

/-- Rows that evolve in place do not raise the sum, at any time. -/
lemma occupancyAt_evolve_le (hs : s.Sound) {f : HoldRow → HoldRow} {g : LeaseRow → LeaseRow}
    {fences : List FenceRow} (holds : ∀ h ∈ s.holds, h.Evolves (f h))
    (leases : ∀ l ∈ s.leases, l.Evolves (g l)) (t : ℤ) :
    occupancyAt ⟨s.holds.map f, s.leases.map g, fences⟩ t ≤ occupancyAt s t := by
  rw [occupancyAt_eq, occupancyAt_eq]
  refine add_le_add (Table.sumWhere_map_le _ _ f hs.hold_capacity fun h hh hc => ?_)
    (Table.sumWhere_map_le _ _ g hs.lease_capacity fun l hl hc => ?_)
  · have hheld : (f h).status = .held := by
      simp only [HoldRow.holdsAt, Bool.and_eq_true, decide_eq_true_eq] at hc
      exact hc.1
    rw [(holds h hh).held hheld] at hc ⊢
    exact ⟨hc, rfl⟩
  · exact ⟨(leases l hl).occupies hc, (leases l hl).capacity⟩

/-- A commit at `now` does not raise the sum at any time at which the committed hold is live. -/
lemma occupancyAt_commit_le (hs : s.Sound) {h : HoldRow} {row : LeaseRow} (mem : h ∈ s.holds)
    (live : h.holdsAt t = true)
    (commits : row.Commits { h with status := .committed, updatedAtNs := now }) :
    occupancyAt
        { s with holds := s.holds.map (commitMark h now), leases := s.leases ++ [row] } t ≤
      occupancyAt s t := by
  have hheld : h.status = .held := by
    simp only [HoldRow.holdsAt, Bool.and_eq_true, decide_eq_true_eq] at live
    exact live.1
  have hcap : row.capacity = h.capacity := commits.capacity.symm
  have hholds := Table.sumWhere_map_add_le (HoldRow.holdsAt t) HoldRow.capacity (commitMark h now)
    (q := HoldRow.holdsAt t) hs.hold_capacity
    (by
      intro h' _ hc
      unfold commitMark at hc ⊢
      split at hc
      · simp [HoldRow.holdsAt] at hc
      · rename_i hcond
        rw [if_neg hcond]
        exact ⟨hc, rfl⟩)
    mem live (by simp [commitMark, hheld, HoldRow.holdsAt])
  have hrow : Table.sumWhere LeaseRow.occupies LeaseRow.capacity [row] ≤ h.capacity := by
    rw [Table.sumWhere_cons, Table.sumWhere_nil, add_zero, hcap]
    split
    · exact le_rfl
    · exact hs.hold_capacity h mem
  rw [occupancyAt_eq, occupancyAt_eq, Table.sumWhere_append]
  calc Table.sumWhere (HoldRow.holdsAt t) HoldRow.capacity (s.holds.map (commitMark h now)) +
        (Table.sumWhere LeaseRow.occupies LeaseRow.capacity s.leases +
          Table.sumWhere LeaseRow.occupies LeaseRow.capacity [row])
      ≤ Table.sumWhere (HoldRow.holdsAt t) HoldRow.capacity (s.holds.map (commitMark h now)) +
        (Table.sumWhere LeaseRow.occupies LeaseRow.capacity s.leases + h.capacity) :=
        add_le_add le_rfl (add_le_add le_rfl hrow)
    _ = (Table.sumWhere (HoldRow.holdsAt t) HoldRow.capacity (s.holds.map (commitMark h now)) +
          h.capacity) + Table.sumWhere LeaseRow.occupies LeaseRow.capacity s.leases := by
        rw [add_assoc, add_comm h.capacity]
    _ ≤ _ := add_le_add hholds le_rfl

/-- An inserted hold raises the sum by its capacity at most. -/
lemma occupancyAt_hold_le {row : HoldRow} (hrow : 0 ≤ row.capacity) (t : ℤ) :
    occupancyAt { s with holds := s.holds ++ [row] } t ≤ occupancyAt s t + row.capacity := by
  rw [occupancyAt_eq, occupancyAt_eq, Table.sumWhere_append, add_right_comm]
  refine add_le_add le_rfl ?_
  rw [Table.sumWhere_cons, Table.sumWhere_nil, add_zero]
  split
  · exact le_rfl
  · exact hrow

/-- **What one transaction does to the sum at its decision time**: it stays below what it was or,
after an inserted hold, below the budget. -/
lemma LeaseStore.Step.occupancyAt_le (hstep : s.Step budget now s') (hs : s.Sound) :
    occupancyAt s' now ≤ occupancyAt s now ∨ occupancyAt s' now ≤ budget := by
  cases hstep with
  | evolve f g fs holds leases fences unheld unlive =>
    exact .inl (occupancyAt_evolve_le hs holds leases now)
  | hold row fresh unfenced row_matches held fits =>
    have hcap : 0 ≤ row.capacity := by
      rw [row_matches.capacity]
      exact Capacity.ofResources_nonneg row_matches.resources
    exact .inr ((occupancyAt_hold_le hcap now).trans ((Capacity.within_iff _ _).mp fits).2)
  | commit h row mem live fresh unfenced row_matches pending commits =>
    exact .inl (occupancyAt_commit_le hs mem live commits)

/-! ## Runs -/

/-- One call keeps the sum within the budget, at its decision time. -/
lemma serve_within {ops : LeaseOp} (hs : s.Sound) (h : occupancyAt s ops.now ≤ budget) :
    occupancyAt (serve w budget s ops).1 ops.now ≤ budget := by
  rcases (serve_step hs ops).occupancyAt_le hs with hle | hle
  · exact hle.trans h
  · exact hle

/-- The induction over a run: from sound tables within the budget at `now`, calls whose decision
times do not go back leave sound tables within the budget at every time from the last one on. -/
lemma run_occupancyAt_le {ops : List LeaseOp} (hs : s.Sound) (h : occupancyAt s now ≤ budget)
    (hmono : (ops.map LeaseOp.now).Pairwise (· ≤ ·)) (hnow : ∀ op ∈ ops, now ≤ op.now)
    (hle : now ≤ t) (ht : ∀ op ∈ ops, op.now ≤ t) :
    occupancyAt (Machine.run (serve w budget) s ops) t ≤ budget := by
  induction ops generalizing s now with
  | nil => exact (occupancyAt_antitone hs hle).trans h
  | cons op ops ih =>
    rw [Machine.run_cons]
    rw [List.map_cons, List.pairwise_cons] at hmono
    have hop : occupancyAt s op.now ≤ budget :=
      (occupancyAt_antitone hs (hnow op List.mem_cons_self)).trans h
    refine ih (serve_sound hs op) (serve_within hs hop) hmono.2 (fun op' hop' => ?_)
      (ht op List.mem_cons_self) (fun op' hop' => ht op' (List.mem_cons_of_mem _ hop'))
    exact hmono.1 _ (List.mem_map_of_mem hop')

/-- `CommitLease` at `now` leaves, at every time from `now` on, at most what was counted at `now`.

**Proof sketch.** The call is a step whatever the budget, so also for a budget into which no hold
fits. The step then does not insert a hold, and the sum at `now` does not rise. -/
lemma commitLease_occupancyAt_le (hs : s.Sound) (lease : SandboxLeaseV1) (hle : now ≤ t) :
    occupancyAt (Machine.next (serve w budget) s (.commitLease lease now)) t ≤
      occupancyAt s now := by
  have hsound : (serve w budget s (.commitLease lease now)).1.Sound := serve_sound hs _
  have hstep : s.Step ⟨-1, -1, -1, -1⟩ now (serve w budget s (.commitLease lease now)).1 :=
    settle_step hs fun a s' h => commitLease_step hs h
  refine (occupancyAt_antitone hsound hle).trans ?_
  rcases hstep.occupancyAt_le hs with hle | hneg
  · exact hle
  · have := (occupancyAt_nonneg hsound now).trans hneg
    simp [Capacity.le_def, Capacity.zero_def] at this

/-- **Capacity safety.** After every run of lease operations from the empty tables, with one budget
and decision times that do not go back, the capacity consumed at any time from the last decision on
is within the budget; and a `CommitLease`, which checks no capacity, never raises it: what is counted
from its decision time on is at most what was counted at that time before.

**Proof sketch.** The empty tables are within the budget and every call keeps the sum within it at
its decision time (`serve_within`); between two calls the sum can only fall
(`occupancyAt_antitone`). -/
theorem run_within_budget (w : Wire) (budget : Capacity) (hbudget : Capacity.zero.within budget = true)
    (ops : List LeaseOp) (hmono : (ops.map LeaseOp.now).Pairwise (· ≤ ·)) (t : ℤ)
    (ht : ∀ op ∈ ops, op.now ≤ t) :
    (occupancyAt (Machine.run (serve w budget) .empty ops) t).within budget = true ∧
      ∀ (lease : SandboxLeaseV1) (t' : ℤ), t ≤ t' →
        occupancyAt (Machine.run (serve w budget) .empty (ops ++ [.commitLease lease t])) t' ≤
          occupancyAt (Machine.run (serve w budget) .empty ops) t := by
  have hsound : (Machine.run (serve w budget) .empty ops).Sound := run_sound .empty ops
  have hzero : 0 ≤ budget := ((Capacity.within_iff _ _).mp hbudget).2
  constructor
  · rw [Capacity.within_iff]
    refine ⟨occupancyAt_nonneg hsound t, ?_⟩
    cases ops with
    | nil => exact hzero
    | cons op ops =>
      have hempty : occupancyAt LeaseStore.empty op.now ≤ budget := hzero
      refine run_occupancyAt_le .empty hempty hmono (fun op' hop' => ?_)
        (ht op List.mem_cons_self) ht
      rcases List.mem_cons.mp hop' with rfl | hop'
      · exact le_rfl
      · rw [List.map_cons, List.pairwise_cons] at hmono
        exact hmono.1 _ (List.mem_map_of_mem hop')
  · intro lease t' htt'
    rw [Machine.run_append]
    exact commitLease_occupancyAt_le hsound lease htt'

/-- Two reservations, a lease for the first and a sweep. -/
theorem run_within_budget_two_holds :
    (occupancyAt (Machine.run (serve Sample.wire Sample.budget) .empty
      [.hold (Sample.reservation 'a' "v" 10) 1, .hold (Sample.reservation 'b' "v" 9) 2,
        .commitLease (Sample.lease 'a' "v" 60) 3, .sweep 9]) 9).within Sample.budget = true :=
  (run_within_budget Sample.wire Sample.budget (by decide)
    [.hold (Sample.reservation 'a' "v" 10) 1, .hold (Sample.reservation 'b' "v" 9) 2,
      .commitLease (Sample.lease 'a' "v" 60) 3, .sweep 9]
    (by simp [LeaseOp.now]) 9 (by simp [LeaseOp.now])).1

end Misscomputer.Durable
