import Misscomputer.Durable.Capacity

set_option relaxedAutoImplicit false
set_option autoImplicit false

/-!
# Capacity under stale decision times

A caller that reads its time and then waits decides at a time that later transactions have left
behind. Between the two a hold may expire and its capacity be admitted again; the stale decision then
counts, or commits, a hold that another admission did not count. This module says which stale
decisions do no harm: those at which no counted hold had expired when capacity was last admitted.

## Main definitions

* `Durable.LeaseOp.countsAt` — the time at which a transaction counts the holds.
* `Durable.admissions` — the times at which the calls of a run inserted a hold.
* `Durable.Timely` — no hold that counts at a time had expired at an admission.
* `Durable.Admitted` — the sum is within the budget from the last admission on.

## Main results

* `Durable.Admitted.next` — timely transactions keep the sum within the budget.
* `Durable.Admitted.outcome_within` — the occupancy a timely transaction reports is within the budget.
-/

namespace Misscomputer.Durable

open Sandbox Protocol

variable {w : Wire} {budget : Capacity} {now t : ℤ} {s s' : LeaseStore}

/-! ## Admissions -/

/-- The time at which a transaction counts the holds, if it reports the occupancy or commits a
hold. -/
def LeaseOp.countsAt : LeaseOp → Option ℤ
  | .hold _ now | .commitLease _ now | .renew _ now | .release _ now => some now
  | .replayHeldReservation _ now waited => some (now + waited)
  | .markLeaseRunning _ _ | .beginLeaseCleanup _ _ _ _ | .completeLeaseCleanup _ _ | .sweep _
  | .recoverCleanup _ => none

/-- The time at which a transaction admits capacity: it inserts a hold. -/
def admittedBy (w : Wire) (budget : Capacity) (s : LeaseStore) (op : LeaseOp) : List ℤ :=
  if s.holds.length < (Machine.next (serve w budget) s op).holds.length then [op.now] else []

/-- The times at which the calls of a run admit capacity. -/
def admissions (w : Wire) (budget : Capacity) : LeaseStore → List LeaseOp → List ℤ
  | _, [] => []
  | s, op :: ops =>
    admittedBy w budget s op ++ admissions w budget (Machine.next (serve w budget) s op) ops

lemma admissions_append (s : LeaseStore) (ops ops' : List LeaseOp) :
    admissions w budget s (ops ++ ops') =
      admissions w budget s ops ++
        admissions w budget (Machine.run (serve w budget) s ops) ops' := by
  induction ops generalizing s with
  | nil => rfl
  | cons op ops ih => simp [admissions, ih]

/-- No hold that counts at `now` had expired at one of the times. -/
def Timely (admitted : List ℤ) (s : LeaseStore) (now : ℤ) : Prop :=
  ∀ h ∈ s.holds, h.holdsAt now = true → ∀ a ∈ admitted, a < h.holdExpiresAtNs

/-- The sum is within the budget at every time from the last admission on. -/
def Admitted (budget : Capacity) (admitted : List ℤ) (s : LeaseStore) : Prop :=
  ∀ t, (∀ a ∈ admitted, a ≤ t) → occupancyAt s t ≤ budget

/-- A time from `now` and all given times on, which is one of them. -/
lemma exists_latest (now : ℤ) (times : List ℤ) :
    ∃ t, now ≤ t ∧ (∀ a ∈ times, a ≤ t) ∧ (t = now ∨ t ∈ times) := by
  induction times with
  | nil => exact ⟨now, le_rfl, by simp, .inl rfl⟩
  | cons a times ih =>
    obtain ⟨t, hle, hall, hmem⟩ := ih
    rcases le_total a t with h | h
    · exact ⟨t, hle, by simpa [h] using hall, hmem.imp_right (List.mem_cons_of_mem a)⟩
    · refine ⟨a, hle.trans h, ?_, .inr List.mem_cons_self⟩
      simp only [List.mem_cons, forall_eq_or_imp, le_refl, true_and]
      exact fun b hb => (hall b hb).trans h

/-- **At a timely time the sum is within the budget.**

**Proof sketch.** Every hold that counts at `now` also counts at the last admission. -/
lemma Admitted.at_timely {admitted : List ℤ} (h : Admitted budget admitted s) (hs : s.Sound)
    (ht : Timely admitted s now) : occupancyAt s now ≤ budget := by
  obtain ⟨t, hle, hall, hmem⟩ := exists_latest now admitted
  refine le_trans ?_ (h t hall)
  rw [occupancyAt_eq, occupancyAt_eq]
  refine add_le_add (Table.sumWhere_le_of_imp _ _ hs.hold_capacity fun x hx hc => ?_) le_rfl
  rcases hmem with rfl | hmem
  · exact hc
  · have hexp := ht x hx hc t hmem
    simp only [HoldRow.holdsAt, Bool.and_eq_true, decide_eq_true_eq] at hc ⊢
    exact ⟨hc.1, hexp⟩

/-! ## One transaction -/

lemma leases_setCleanup_length (s : LeaseStore) (p : LeaseRow → Bool) (intent : LeaseStatus)
    (code : Option String) (now : ℤ) :
    (s.setCleanup p intent code now).leases.length = s.leases.length := by
  simp [LeaseStore.setCleanup, Table.updateWhere]

/-- An observation of a hold writes nothing. -/
lemma serve_replay {r : SandboxReservationV1} {waited : ℤ} :
    (serve w budget s (.replayHeldReservation r now waited)).1 = s := by
  simp only [serve]
  cases hx : replayHeldReservation w s r now waited with
  | error e => rfl
  | ok a => exact (replay_eq_ok hx).1

/-- A transaction that inserts a lease counts the holds at its decision time. -/
lemma countsAt_of_leases_lt {op : LeaseOp}
    (h : s.leases.length < (Machine.next (serve w budget) s op).leases.length) :
    op.countsAt = some op.now := by
  cases op with
  | hold _ _ | commitLease _ _ | renew _ _ | release _ _ => rfl
  | replayHeldReservation r now waited =>
    simp only [Machine.next, serve_replay] at h
    exact absurd h (lt_irrefl _)
  | markLeaseRunning leaseID now =>
    simp [Machine.next, serve, markLeaseRunning, Table.updateWhere] at h
  | beginLeaseCleanup leaseID intent code now =>
    simp only [Machine.next, serve] at h
    cases hx : beginLeaseCleanup s leaseID intent code now with
    | error e => rw [hx] at h; exact absurd h (lt_irrefl _)
    | ok t =>
      obtain ⟨-, rfl⟩ := beginLeaseCleanup_eq_ok hx
      rw [hx] at h
      exact absurd h (by simp [settle, Except.map, leases_setCleanup_length])
  | completeLeaseCleanup leaseID now =>
    simp only [Machine.next, serve, completeLeaseCleanup] at h
    split at h
    · exact absurd h (lt_irrefl _)
    · simp [settle, Except.map, Table.updateWhere] at h
  | sweep now => exact absurd h (by simp [Machine.next, serve, sweep, cleanupWith,
      leases_setCleanup_length, LeaseStore.setHolds])
  | recoverCleanup now => exact absurd h (by simp [Machine.next, serve, recoverCleanup, cleanupWith,
      leases_setCleanup_length, LeaseStore.setHolds])

/-- **A timely transaction keeps the sum within the budget from the last admission on.**

**Proof sketch.** Rows that evolve do not raise the sum at any time. An inserted hold is checked at its
own decision time, which is an admission. A committed hold counts until just before it expires, which
is not before the last admission; the sum does not rise there, and it only falls later. -/
lemma Admitted.next {admitted : List ℤ} (h : Admitted budget admitted s) (hs : s.Sound) (op : LeaseOp)
    (ht : ∀ now, op.countsAt = some now → Timely admitted s now) :
    Admitted budget (admitted ++ admittedBy w budget s op) (Machine.next (serve w budget) s op) := by
  have hs' : (Machine.next (serve w budget) s op).Sound := serve_sound hs op
  have hcounts : s.leases.length < (Machine.next (serve w budget) s op).leases.length →
      op.countsAt = some op.now := countsAt_of_leases_lt
  have hstep : s.Step budget op.now (Machine.next (serve w budget) s op) := serve_step hs op
  intro t hall
  have hold : ∀ a ∈ admitted, a ≤ t := fun a ha => hall a (List.mem_append_left _ ha)
  have hadmitted : ∀ a ∈ admittedBy w budget s op, a ≤ t := fun a ha =>
    hall a (List.mem_append_right _ ha)
  rw [admittedBy] at hadmitted
  generalize Machine.next (serve w budget) s op = s' at *
  cases hstep with
  | evolve f g fs holds leases fences unheld unlive =>
    exact (occupancyAt_evolve_le hs holds leases t).trans (h t hold)
  | hold row fresh unfenced row_matches held fits =>
    have hnow : op.now ≤ t := hadmitted _ (by simp)
    refine (occupancyAt_antitone hs' hnow).trans ?_
    have hcap : 0 ≤ row.capacity := by
      rw [row_matches.capacity]
      exact Capacity.ofResources_nonneg row_matches.resources
    exact (occupancyAt_hold_le hcap op.now).trans ((Capacity.within_iff _ _).mp fits).2
  | commit x row mem live fresh unfenced row_matches pending commits =>
    have htimely : Timely admitted s op.now := ht op.now (hcounts (by simp))
    have hheld : x.status = .held := by
      simp only [HoldRow.holdsAt, Bool.and_eq_true, decide_eq_true_eq] at live
      exact live.1
    have hlast : ∀ u, u < x.holdExpiresAtNs → (∀ a ∈ admitted, a ≤ u) →
        occupancyAt { s with holds := s.holds.map (commitMark x op.now), leases := s.leases ++ [row] } u ≤
          budget := by
      intro u hu hall
      have hlive : x.holdsAt u = true := by simp [HoldRow.holdsAt, hheld, hu]
      exact (occupancyAt_commit_le hs mem hlive commits).trans (h u hall)
    by_cases hexp : t < x.holdExpiresAtNs
    · exact hlast t hexp hold
    · -- just before the hold expires, which is not before any admission
      refine (occupancyAt_antitone hs' (show x.holdExpiresAtNs - 1 ≤ t by omega)).trans ?_
      refine hlast _ (by omega) fun a ha => ?_
      have := htimely x mem live a ha
      omega

/-! ## Reported occupancy -/

/-- The outcome an answer carries. -/
def LeaseAnswer.outcome? : LeaseAnswer → Option SandboxOutcome
  | .outcome o => some o
  | .released o _ => some o
  | .running _ | .records _ | .done | .error _ => none

/-- An outcome reports the occupancy its transaction leaves, at the time it counts the holds. -/
lemma serve_occupancy {op : LeaseOp} {o : SandboxOutcome}
    (h : (serve w budget s op).2.outcome? = some o) :
    ∃ now, op.countsAt = some now ∧
      (o.held, o.active) = sandboxOccupancyTx (Machine.next (serve w budget) s op) now := by
  have houtcome : ∀ x : Except StoreError (SandboxOutcome × LeaseStore),
      (settle s x .outcome).2.outcome? = some o → x = .ok (o, (settle s x .outcome).1) := by
    intro x hx
    refine eq_ok_of_outcome ?_
    match x, hx with
    | .ok (a, s'), hx => cases hx; rfl
    | .error e, hx => cases hx
  cases op with
  | hold r now => exact ⟨now, rfl, (hold_cases (houtcome _ h)).1⟩
  | replayHeldReservation r now waited =>
    exact ⟨now + waited, rfl, (replay_eq_ok (houtcome _ h)).2.2⟩
  | commitLease lease now => exact ⟨now, rfl, (commitLease_cases (houtcome _ h)).1⟩
  | renew r now =>
    obtain ⟨l, -, hocc, -⟩ := renew_cases (houtcome _ h)
    exact ⟨now, rfl, hocc⟩
  | release r now =>
    simp only [serve] at h
    match hx : release w s r now with
    | .error e => rw [hx] at h; cases h
    | .ok ((a, td), s') =>
      rw [hx] at h
      cases h
      simp only [Machine.next, serve, hx]
      exact ⟨now, rfl, (release_eq_ok hx).2.1⟩
  | markLeaseRunning leaseID now => cases h
  | beginLeaseCleanup leaseID intent code now =>
    simp only [serve] at h
    cases hx : beginLeaseCleanup s leaseID intent code now <;> rw [hx] at h <;> cases h
  | completeLeaseCleanup leaseID now =>
    simp only [serve] at h
    cases hx : completeLeaseCleanup s leaseID now <;> rw [hx] at h <;> cases h
  | sweep now => cases h
  | recoverCleanup now => cases h

/-- A transaction that counts the holds at another time than its own writes nothing. -/
lemma next_of_countsAt_ne {op : LeaseOp} (h : op.countsAt = some now) (hne : op.now ≠ now) :
    Machine.next (serve w budget) s op = s := by
  cases op with
  | replayHeldReservation r at' waited =>
    exact serve_replay
  | hold _ _ | commitLease _ _ | renew _ _ | release _ _ => exact absurd (Option.some.inj h) hne
  | _ => cases h

/-- What is held and in use is within a budget that covers the sum, together and apart. -/
lemma within_of_occupancyAt_le (hs : s.Sound) (h : occupancyAt s now ≤ budget) :
    ((sandboxOccupancyTx s now).1.plus (sandboxOccupancyTx s now).2).within budget = true ∧
      (sandboxOccupancyTx s now).1.within budget = true ∧
      (sandboxOccupancyTx s now).2.within budget = true := by
  have hheld := held_nonneg hs now
  have hactive := active_nonneg hs now
  simp only [Capacity.within_iff]
  refine ⟨⟨occupancyAt_nonneg hs now, h⟩, ⟨hheld, le_trans ?_ h⟩, ⟨hactive, le_trans ?_ h⟩⟩
  · exact le_add_of_nonneg_right hactive
  · exact le_add_of_nonneg_left hheld

/-- **The occupancy that a timely transaction reports is within the budget**, together and apart.

**Proof sketch.** A hold that the transaction inserts was checked at this very time. Otherwise the sum
does not rise at this time, at which it is within the budget. -/
lemma Admitted.outcome_within {admitted : List ℤ} (h : Admitted budget admitted s) (hs : s.Sound)
    {op : LeaseOp} {o : SandboxOutcome} (ho : (serve w budget s op).2.outcome? = some o)
    (ht : ∀ now, op.countsAt = some now → Timely admitted s now) :
    (o.held.plus o.active).within budget = true ∧ o.held.within budget = true ∧
      o.active.within budget = true := by
  obtain ⟨now, hnow, hocc⟩ := serve_occupancy ho
  have hle : occupancyAt s now ≤ budget := h.at_timely hs (ht now hnow)
  have hs' : (Machine.next (serve w budget) s op).Sound := serve_sound hs op
  have hnext : occupancyAt (Machine.next (serve w budget) s op) now ≤ budget := by
    by_cases hop : op.now = now
    · subst hop
      rcases (serve_step hs op).occupancyAt_le hs with hstep | hstep
      · exact hstep.trans hle
      · exact hstep
    · -- only an observation of a hold counts at another time, and it writes nothing
      rwa [next_of_countsAt_ne hnow hop]
  obtain ⟨hsum, hheld, hactive⟩ := within_of_occupancyAt_le hs' hnext
  rw [← hocc] at hsum hheld hactive
  exact ⟨hsum, hheld, hactive⟩

end Misscomputer.Durable
