import Misscomputer.Durable.LeaseRefinement

set_option relaxedAutoImplicit false
set_option autoImplicit false

/-!
# A release fence is permanent

A release may arrive before, between or after the reservation and the lease it cancels. Its fence
is never removed, and every operation respects it in its own branch order: `Hold` and
`CommitLease` check it, `MarkLeaseRunning`, `Renew` and the cleanups only move rows that are live,
and a fenced identity has none.

## Main definitions

* `Durable.LeaseStore.FencedBy` — the identity has a fence of the validator.
* `Durable.LeaseStore.leaseIDsOf` — the lease IDs ever inserted for an identity.

## Main results

* `Durable.LeaseStore.FencedBy.run` — what a fence keeps along every run.
* `Durable.release_fence_permanent` — the consequences for every later operation.
-/

namespace Misscomputer.Durable

open Sandbox Protocol

variable {w : Wire} {budget : Capacity} {now : ℤ} {s s' : LeaseStore} {id : Identity}
  {validator : String}

/-- The identity has a release fence by `validator`. -/
def LeaseStore.FencedBy (s : LeaseStore) (id : Identity) (validator : String) : Prop :=
  ∃ x ∈ s.fences, x.identity = id ∧ x.validatorHotkey = validator

/-- The lease IDs of the rows of an identity, in the order they were inserted. -/
def LeaseStore.leaseIDsOf (s : LeaseStore) (id : Identity) : List String :=
  (s.leases.filter (·.identity = id)).map (·.leaseID)

/-! ## What a step keeps of a fence -/

namespace LeaseStore

/-- Fences are never removed. -/
lemma FencedBy.step (hf : s.FencedBy id validator) (hstep : s.Step budget now s') :
    s'.FencedBy id validator := by
  obtain ⟨x, hx, hid, hv⟩ := hf
  cases hstep with
  | evolve f g fs holds leases fences unheld unlive =>
    exact ⟨x, List.mem_append_left _ hx, hid, hv⟩
  | hold row => exact ⟨x, hx, hid, hv⟩
  | commit h row => exact ⟨x, hx, hid, hv⟩

/-- Rows that move in place keep their identity and their lease ID. -/
lemma leaseIDsOf_map {g : LeaseRow → LeaseRow} (hg : ∀ l ∈ s.leases, l.Evolves (g l))
    (holds : List HoldRow) (fences : List FenceRow) :
    (⟨holds, s.leases.map g, fences⟩ : LeaseStore).leaseIDsOf id = s.leaseIDsOf id := by
  obtain ⟨hs, ls, fs⟩ := s
  simp only [leaseIDsOf] at hg ⊢
  induction ls with
  | nil => rfl
  | cons l ls ih =>
    have hl := hg l List.mem_cons_self
    have ih := ih fun l' hl' => hg l' (List.mem_cons_of_mem _ hl')
    rw [List.map_cons, List.filter_cons, List.filter_cons, hl.identity]
    split
    · rw [List.map_cons, List.map_cons, ih, hl.leaseID]
    · exact ih

/-- No lease of a fenced identity is inserted. -/
lemma FencedBy.leaseIDsOf_step (hf : s.FencedBy id validator) (hstep : s.Step budget now s') :
    s'.leaseIDsOf id = s.leaseIDsOf id := by
  obtain ⟨x, hx, rfl, -⟩ := hf
  cases hstep with
  | evolve f g fs holds leases fences unheld unlive => exact leaseIDsOf_map leases _ _
  | hold row => rfl
  | commit h row mem live fresh unfenced =>
    have hne : row.identity ≠ x.identity := fun h => unfenced x hx h.symm
    simp [leaseIDsOf, hne]

/-- **What a fence keeps along every run**: the fence itself, and the lease IDs of its identity. -/
lemma FencedBy.run (hf : s.FencedBy id validator) (hs : s.Sound) (ops : List LeaseOp) :
    (Machine.run (serve w budget) s ops).FencedBy id validator ∧
      (Machine.run (serve w budget) s ops).leaseIDsOf id = s.leaseIDsOf id := by
  have hinv : ∀ t, t.Sound ∧ t.FencedBy id validator → ∀ op ∈ ops,
      ((Machine.next (serve w budget) t op).Sound ∧
        (Machine.next (serve w budget) t op).FencedBy id validator) ∧
      (Machine.next (serve w budget) t op).leaseIDsOf id = t.leaseIDsOf id := by
    rintro t ⟨ht, hft⟩ op -
    have hstep : t.Step budget op.now (Machine.next (serve w budget) t op) := serve_step ht op
    exact ⟨⟨hstep.sound ht, hft.step hstep⟩, hft.leaseIDsOf_step hstep⟩
  constructor
  · exact (Machine.run_invariant (P := fun t : LeaseStore => t.Sound ∧ t.FencedBy id validator)
      (fun t ht op hop => (hinv t ht op hop).1) ⟨hs, hf⟩).2
  · exact Machine.run_rel (P := fun t : LeaseStore => t.Sound ∧ t.FencedBy id validator)
      (R := fun a b : LeaseStore => b.leaseIDsOf id = a.leaseIDsOf id) (fun _ => rfl)
      (fun _ _ _ hab hbc => hbc.trans hab) hinv ⟨hs, hf⟩

/-- The fence an identity has is found. -/
lemma FencedBy.fenceOf (hf : s.FencedBy id validator) (hs : s.Sound) :
    ∃ x, s.fenceOf id = some x ∧ x.validatorHotkey = validator := by
  obtain ⟨x, hx, rfl, hv⟩ := hf
  cases h : s.fenceOf x.identity with
  | none => exact absurd rfl (fenceOf_eq_none h x hx)
  | some y =>
    have hy : y ∈ s.fences ∧ y.identity = x.identity :=
      ⟨List.mem_of_find?_eq_some h, by simpa using List.find?_some h⟩
    obtain rfl := hs.fence_unique.eq_of_key hy.1 hx hy.2
    exact ⟨y, rfl, hv⟩

/-- The fence check of its own validator. -/
lemma FencedBy.fenced (hf : s.FencedBy id validator) (hs : s.Sound) :
    sandboxFencedTx s id validator = .ok true := by
  obtain ⟨x, hx, hv⟩ := hf.fenceOf hs
  simp [sandboxFencedTx, hx, hv]

/-- The fence check of every other validator. -/
lemma FencedBy.conflict (hf : s.FencedBy id validator) (hs : s.Sound) {other : String}
    (hne : other ≠ validator) : sandboxFencedTx s id other = .error .conflict := by
  obtain ⟨x, hx, rfl⟩ := hf.fenceOf hs
  simp [sandboxFencedTx, hx, hne.symm]

end LeaseStore

/-! ## What the operations answer behind a fence -/

lemma bindUint64_of_lt {n : ℕ} (h : n < 2 ^ 63) : bindUint64 n = .ok () := if_pos h

/-- Behind a fence `CommitLease` starts nothing. -/
lemma commitLease_not_start (hf : s.FencedBy id validator) {lease : SandboxLeaseV1}
    {o : SandboxOutcome} (hid : lease.identity = id)
    (h : commitLease w s lease now = .ok (o, s')) : o.start = false := by
  subst hid
  obtain ⟨-, ⟨l, -, -, -, -, hst, -⟩ | ⟨-, hst, -⟩ | ⟨h, -, -, hst, -⟩ | ⟨h, digest, -, -, hnone, -⟩⟩ :=
    commitLease_cases h
  · exact hst
  · exact hst
  · exact hst
  · obtain ⟨x, hx, hxid, -⟩ := hf
    exact absurd hxid (fenceOf_eq_none hnone x hx)

/-- Behind a fence of its own validator `Hold` is refused as released before use, or fails. -/
lemma hold_refused (hf : s.FencedBy id validator) (hs : s.Sound) {q : SandboxReservationV1}
    {o : SandboxOutcome} (hid : q.identity = id) (hv : sandboxValidator q.subnet = validator)
    (h : hold w budget s q now = .ok (o, s')) :
    o.stage = .refused ∧ o.errorCode = some "released_before_use" := by
  subst hid hv
  simp only [hold, Except.bind_eq_ok] at h
  obtain ⟨_, -, _, -, _, -, fenced, hfenced, h⟩ := h
  rw [hf.fenced hs, Except.ok.injEq] at hfenced
  rw [if_pos hfenced.symm] at h
  obtain ⟨-, rfl⟩ := finish_eq_ok h
  exact ⟨rfl, rfl⟩

/-- Behind a fence of another validator `Hold` fails, with a conflict when the document itself is
in order. -/
lemma hold_conflict (hf : s.FencedBy id validator) (hs : s.Sound) (hgen : id.generation < 2 ^ 63)
    {q : SandboxReservationV1} (hid : q.identity = id) (hv : sandboxValidator q.subnet ≠ validator) :
    ∃ e, hold w budget s q now = .error e ∧
      (q.validate w = .ok () → (w.reservationDigest q).isSome = true → e = .conflict) := by
  subst hid
  have hgen : bindUint64 q.generation = .ok () := bindUint64_of_lt hgen
  cases hval : q.validate w with
  | error e => exact ⟨.invalid e, by simp [hold, hval, check, bind, Except.bind], by simp⟩
  | ok u =>
    cases hd : w.reservationDigest q with
    | none => exact ⟨_, by simp [hold, hval, hd, check, digestOf, bind, Except.bind]; rfl, by simp⟩
    | some digest =>
      refine ⟨.conflict, ?_, fun _ _ => rfl⟩
      simp [hold, hval, hd, check, digestOf, hgen, hf.conflict hs hv, bind, Except.bind]

/-- The lease is not the one the identity has: no row of it has this ID and this digest. -/
def LeaseStore.Unseen (w : Wire) (s : LeaseStore) (lease : SandboxLeaseV1) : Prop :=
  ∀ l ∈ s.leases, l.identity = lease.identity →
    ¬ (l.leaseID = sandboxLeaseIDV1 lease ∧ w.leaseDigest lease = some l.leaseDigest)

/-- Behind a fence of another validator a `CommitLease` of a lease the store has not seen fails,
with a conflict when the document itself is in order. -/
lemma commitLease_conflict (hf : s.FencedBy id validator) (hs : s.Sound)
    (hgen : id.generation < 2 ^ 63) {lease : SandboxLeaseV1} (hid : lease.identity = id)
    (hv : sandboxValidator lease.subnet ≠ validator) (hnew : s.Unseen w lease) :
    ∃ e, commitLease w s lease now = .error e ∧
      (lease.validate w = .ok () → (w.leaseDigest lease).isSome = true → e = .conflict) := by
  subst hid
  have hgen : bindUint64 lease.generation = .ok () := bindUint64_of_lt hgen
  cases hval : lease.validate w with
  | error e => exact ⟨.invalid e, by simp [commitLease, hval, check, bind, Except.bind], by simp⟩
  | ok u =>
    cases hd : w.leaseDigest lease with
    | none =>
      exact ⟨_, by simp [commitLease, hval, hd, check, digestOf, bind, Except.bind]; rfl, by simp⟩
    | some digest =>
      refine ⟨.conflict, ?_, fun _ _ => rfl⟩
      simp only [commitLease, hval, hd, check, digestOf, hgen, bind, Except.bind]
      cases hl : s.leaseOf lease.identity with
      | none => simp [hf.conflict hs hv]
      | some l =>
        -- the identity has a lease: it is not this one
        obtain ⟨hmem, hlid⟩ := mem_of_leaseOf hl
        have hne := hnew l hmem hlid
        rw [hd, Option.some.injEq] at hne
        have hne' : l.leaseID ≠ sandboxLeaseIDV1 lease ∨ l.leaseDigest ≠ digest := by
          by_cases hl1 : l.leaseID = sandboxLeaseIDV1 lease
          · exact .inr fun hl2 => hne ⟨hl1, hl2.symm⟩
          · exact .inl hl1
        simp only [if_pos hne']

/-- Behind a fence of another validator `Release` fails, with a conflict when the document itself
is in order. -/
lemma release_conflict (hf : s.FencedBy id validator) (hs : s.Sound)
    (hgen : id.generation < 2 ^ 63) {q : SandboxReleaseV1} (hid : q.identity = id)
    (hv : sandboxValidator q.subnet ≠ validator) :
    ∃ e, release w s q now = .error e ∧ (q.validate w = .ok () → e = .conflict) := by
  subst hid
  have hgen : bindUint64 q.generation = .ok () := bindUint64_of_lt hgen
  cases hval : q.validate w with
  | error e => exact ⟨.invalid e, by simp [release, hval, check, bind, Except.bind], by simp⟩
  | ok u =>
    refine ⟨.conflict, ?_, fun _ => rfl⟩
    simp [release, hval, check, hgen, hf.conflict hs hv, bind, Except.bind]

/-! ## Runs behind a release -/

/-- A release that was answered leaves a fence of its validator. -/
lemma release_fences (hs : s.Sound) {r : SandboxReleaseV1} {o : SandboxOutcome}
    {td : List SandboxLeaseRecord} (h : release w s r now = .ok ((o, td), s')) :
    s'.Sound ∧ s'.FencedBy r.identity (sandboxValidator r.subnet) ∧ r.generation < 2 ^ 63 := by
  obtain ⟨rfl, -, -, -, hgen, -, hown⟩ := release_eq_ok h
  have hstep : s.Step .zero now (released s r now) := release_step hs r
  refine ⟨hstep.sound hs, ?_, hgen⟩
  cases hx : s.fenceOf r.identity with
  | none =>
    refine ⟨⟨r.identity, sandboxValidator r.subnet, r, now⟩, ?_, rfl, rfl⟩
    simp [released, releaseFences, hx]
  | some x =>
    refine ⟨x, List.mem_append_left _ (List.mem_of_find?_eq_some hx), ?_, hown x hx⟩
    simpa using List.find?_some hx

/-- **A release fence is permanent.** Once a release was answered, whatever operations follow at
whatever times: the identity never gets another lease row, none of its leases is pending or running
and its hold is not held; no `CommitLease` of it starts anything; a `Hold` of it by the releasing
validator is refused with `released_before_use` or fails; and a `Hold`, a `CommitLease` of a lease
the store has not seen or a `Release` of it by another validator fails and changes no table, with
`ErrSandboxConflict` unless the document fails the checks made before the tables are read.

**Proof sketch.** The release leaves a fence of its validator (`release_fences`), which every run
keeps together with the lease IDs of the identity (`LeaseStore.FencedBy.run`). The tables stay
sound, so the identity has no held hold and no live lease; the answers follow from the fence by the
lemmas above, one for each operation. -/
theorem release_fence_permanent (w : Wire) (budget : Capacity) (before : List LeaseOp)
    (r : SandboxReleaseV1) (now : ℤ) (o : SandboxOutcome) (td : List SandboxLeaseRecord)
    (hrel : Machine.answer (serve w budget) (Machine.run (serve w budget) .empty before)
      (.release r now) = .released o td) (after : List LeaseOp) :
    let s₀ := Machine.run (serve w budget) .empty (before ++ [.release r now])
    let s := Machine.run (serve w budget) s₀ after
    s.leaseIDsOf r.identity = s₀.leaseIDsOf r.identity ∧
    (∀ l ∈ s.leases, l.identity = r.identity → l.status ≠ .pending ∧ l.status ≠ .running) ∧
    (∀ h ∈ s.holds, h.identity = r.identity → h.status ≠ .held) ∧
    (∀ lease t o', lease.identity = r.identity →
      Machine.answer (serve w budget) s (.commitLease lease t) = .outcome o' → o'.start = false) ∧
    (∀ q t o', q.identity = r.identity → sandboxValidator q.subnet = sandboxValidator r.subnet →
      Machine.answer (serve w budget) s (.hold q t) = .outcome o' →
      o'.stage = .refused ∧ o'.errorCode = some "released_before_use") ∧
    (∀ q t, q.identity = r.identity → sandboxValidator q.subnet ≠ sandboxValidator r.subnet →
      ∃ e, serve w budget s (.hold q t) = (s, .error e) ∧
        (q.validate w = .ok () → (w.reservationDigest q).isSome = true → e = .conflict)) ∧
    (∀ lease t, lease.identity = r.identity →
      sandboxValidator lease.subnet ≠ sandboxValidator r.subnet → s.Unseen w lease →
      ∃ e, serve w budget s (.commitLease lease t) = (s, .error e) ∧
        (lease.validate w = .ok () → (w.leaseDigest lease).isSome = true → e = .conflict)) ∧
    (∀ q t, q.identity = r.identity → sandboxValidator q.subnet ≠ sandboxValidator r.subnet →
      ∃ e, serve w budget s (.release q t) = (s, .error e) ∧
        (q.validate w = .ok () → e = .conflict)) := by
  intro s₀ s
  have hsound : (Machine.run (serve w budget) .empty before).Sound := run_sound .empty before
  have hs₀ : s₀ = Machine.next (serve w budget) (Machine.run (serve w budget) .empty before)
      (.release r now) := by
    simp only [s₀, Machine.run_append, Machine.run_cons, Machine.run_nil]
  obtain ⟨hsound₀, hfence₀, hgen⟩ := release_fences hsound (eq_ok_of_released hrel)
  replace hsound₀ : s₀.Sound := by rw [hs₀]; exact hsound₀
  replace hfence₀ : s₀.FencedBy r.identity (sandboxValidator r.subnet) := by rw [hs₀]; exact hfence₀
  have hs : s.Sound := run_sound hsound₀ after
  obtain ⟨hf, hids⟩ : s.FencedBy r.identity (sandboxValidator r.subnet) ∧ _ :=
    hfence₀.run hsound₀ after
  obtain ⟨x, hx, hxid, -⟩ := id hf
  refine ⟨hids, ?_, ?_, ?_, ?_, ?_, ?_, ?_⟩
  · intro l hl hid
    have hlive := hs.fence_leases x hx l hl (hid.trans hxid.symm)
    simpa [LeaseRow.live] using hlive
  · exact fun h hh hid => hs.fence_holds x hx h hh (hid.trans hxid.symm)
  · exact fun lease t o' hid ho => commitLease_not_start hf hid (eq_ok_of_outcome ho)
  · exact fun q t o' hid hv ho => hold_refused hf hs hid hv (eq_ok_of_outcome ho)
  · intro q t hid hv
    obtain ⟨e, he, hconf⟩ := hold_conflict (w := w) hf hs hgen hid hv
    exact ⟨e, by rw [serve, he]; rfl, hconf⟩
  · intro lease t hid hv hnew
    obtain ⟨e, he, hconf⟩ := commitLease_conflict hf hs hgen hid hv hnew
    exact ⟨e, by rw [serve, he]; rfl, hconf⟩
  · intro q t hid hv
    obtain ⟨e, he, hconf⟩ := release_conflict (w := w) hf hs hgen hid hv
    exact ⟨e, by rw [serve, he]; rfl, hconf⟩

/-- A release that arrives while the hold is live, followed by a replay of the reservation. -/
theorem release_fence_permanent_after_hold :
    ∃ o td,
      Machine.answer (serve Sample.wire Sample.budget)
          (Machine.run (serve Sample.wire Sample.budget) .empty
            [.hold (Sample.reservation 'a' "v" 10) 1])
          (.release (Sample.release 'a' "v") 2) = .released o td ∧
        ∀ h ∈ (Machine.run (serve Sample.wire Sample.budget) .empty
            [.hold (Sample.reservation 'a' "v" 10) 1, .release (Sample.release 'a' "v") 2,
              .hold (Sample.reservation 'a' "v" 10) 3]).holds,
          h.identity = (Sample.release 'a' "v").identity → h.status ≠ .held := by
  have hv : (Sample.release 'a' "v").validate Sample.wire = .ok () :=
    Sample.release_valid (by decide) (by decide)
  have hr : (Sample.reservation 'a' "v" 10).validate Sample.wire = .ok () :=
    Sample.reservation_valid (by decide) (by decide) (by decide) (by decide)
  have hrun : Machine.run (serve Sample.wire Sample.budget) .empty
      [.hold (Sample.reservation 'a' "v" 10) 1] =
      ⟨[holdRow (Sample.reservation 'a' "v" 10)
        ("sha256:" ++ (repeated 'a' 32 ++ repeated 'a' 32)) 1], [], []⟩ := by
    simp only [Machine.run_cons, Machine.run_nil, Machine.next, serve, hold, hr, check, bind,
      Except.bind]
    rfl
  obtain ⟨o, td, s', hs'⟩ : ∃ o td s', release Sample.wire
      (Machine.run (serve Sample.wire Sample.budget) .empty
        [.hold (Sample.reservation 'a' "v" 10) 1]) (Sample.release 'a' "v") 2 =
      .ok ((o, td), s') := by
    rw [hrun]
    refine release_answers hv (by decide) (by simp) ?_ (by simp)
    simp [holdRow, Sample.reservation, Sample.release, sandboxValidator, Sample.binding]
  have hrel : Machine.answer (serve Sample.wire Sample.budget)
      (Machine.run (serve Sample.wire Sample.budget) .empty
        [.hold (Sample.reservation 'a' "v" 10) 1])
      (.release (Sample.release 'a' "v") 2) = .released o td := by
    rw [Machine.answer, serve, hs', settle]
  have hfence := (release_fence_permanent _ _ _ _ _ o td hrel
    [.hold (Sample.reservation 'a' "v" 10) 3]).2.2.1
  rw [← Machine.run_append] at hfence
  exact ⟨o, td, hrel, hfence⟩

end Misscomputer.Durable
