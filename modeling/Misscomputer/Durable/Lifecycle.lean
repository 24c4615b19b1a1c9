import Misscomputer.Durable.LeaseRefinement

set_option relaxedAutoImplicit false
set_option autoImplicit false

/-!
# The lifecycle of a lease

Six operations write the status and the cleanup columns of a lease under different guards, and
`sandboxLeaseStage` recomputes the answer of a lease from three columns. Whatever the order of the
operations, a row only moves forward, and from the moment it enters cleanup its answer is settled:
the intent is written once, and closing the lease copies it.

## Main definitions

* `Durable.LeaseStatus.Moves` — the status moves of a lease.
* `Durable.LeaseRow.Follows` — what a lease row becomes along a run.

## Main results

* `Durable.run_follows` — every lease row is followed along every run.
* `Durable.lease_lifecycle` — references, single start, status moves and the settled answer.
-/

namespace Misscomputer.Durable

open Sandbox Protocol

section Lifecycle

variable {w : Wire} {budget : Capacity} {now : ℤ} {s s' : LeaseStore}

/-! ## Moves of the status -/

/-- The status moves of a lease: `pending → running → cleanup → terminal`, where a pending lease
may go to cleanup directly. -/
inductive LeaseStatus.Moves : LeaseStatus → LeaseStatus → Prop
  | start : Moves .pending .running
  | abandon : Moves .pending .cleanup
  | stop : Moves .running .cleanup
  | close {status : LeaseStatus} (terminal : status.terminal = true) : Moves .cleanup status

/-- A move of a row leaves its status alone or moves it. -/
lemma LeaseRow.Evolves.moves {l l' : LeaseRow} (e : l.Evolves l') :
    l'.status = l.status ∨ l.status.Moves l'.status := by
  cases e with
  | same => exact .inl rfl
  | promote now hp => rw [hp]; exact .inr .start
  | cleanup intent code now hlive ht =>
    simp only [LeaseRow.live, Bool.or_eq_true, decide_eq_true_eq] at hlive
    rcases hlive with h | h <;> rw [h]
    · exact .inr .abandon
    · exact .inr .stop
  | complete intent now hc hi ht => rw [hc]; exact .inr (.close ht)
  | extend r now hlive _ => exact .inl rfl

/-! ## Following a row -/

/-- What a lease row becomes along a run: the same lease, and from the moment it is no longer live
with the same renewal, the same expiry and the same answer. -/
structure LeaseRow.Follows (l l' : LeaseRow) : Prop where
  leaseID : l'.leaseID = l.leaseID
  identity : l'.identity = l.identity
  leaseDigest : l'.leaseDigest = l.leaseDigest
  settled : l.live = false → l'.live = false ∧ l'.renewalSeq = l.renewalSeq ∧
    l'.leaseExpiresAtNs = l.leaseExpiresAtNs ∧ l'.stage = l.stage

namespace LeaseRow

lemma Follows.refl (l : LeaseRow) : l.Follows l := ⟨rfl, rfl, rfl, fun h => ⟨h, rfl, rfl, rfl⟩⟩

lemma Follows.trans {a b c : LeaseRow} (hab : a.Follows b) (hbc : b.Follows c) : a.Follows c where
  leaseID := hbc.leaseID.trans hab.leaseID
  identity := hbc.identity.trans hab.identity
  leaseDigest := hbc.leaseDigest.trans hab.leaseDigest
  settled ha := by
    obtain ⟨hb, hseq, hexp, hst⟩ := hab.settled ha
    obtain ⟨hc, hseq', hexp', hst'⟩ := hbc.settled hb
    exact ⟨hc, hseq'.trans hseq, hexp'.trans hexp, hst'.trans hst⟩

/-- The answer of a lease is the same before and after it is closed. -/
lemma stage_complete {l : LeaseRow} {intent : LeaseStatus} {now : ℤ} (hc : l.status = .cleanup)
    (hi : l.cleanupStatus = some intent) :
    LeaseRow.stage { l with status := intent, terminalCode := l.cleanupCode, updatedAtNs := now } =
      l.stage := by
  simp only [stage, hc, hi, sandboxLeaseStage]
  cases intent <;> rfl

/-- A row that is no longer live keeps its renewal, its expiry and its answer. -/
lemma Evolves.follows {l l' : LeaseRow} (e : l.Evolves l') : l.Follows l' := by
  refine ⟨e.leaseID, e.identity, e.leaseDigest, fun hdead => ?_⟩
  cases e with
  | same => exact ⟨hdead, rfl, rfl, rfl⟩
  | promote now hp => simp [LeaseRow.live, hp] at hdead
  | cleanup intent code now hlive _ => rw [hlive] at hdead; cases hdead
  | complete intent now hc hi ht =>
    refine ⟨?_, rfl, rfl, stage_complete hc hi⟩
    cases intent <;> first | rfl | cases ht
  | extend r now hlive _ => rw [hlive] at hdead; cases hdead

end LeaseRow

/-- Every lease row of `s` is followed by a row of `s'`. -/
def LeaseStore.Follows (s s' : LeaseStore) : Prop :=
  ∀ l ∈ s.leases, ∃ l' ∈ s'.leases, l.Follows l'

namespace LeaseStore

/-- What a step does to the lease rows: each one moves in place, and a new one is pending. -/
lemma Step.leases (hstep : s.Step budget now s') :
    ∃ g : LeaseRow → LeaseRow, (∀ l ∈ s.leases, l.Evolves (g l)) ∧
      (s'.leases = s.leases.map g ∨
        ∃ row, row.status = .pending ∧ (∀ l ∈ s.leases, l.leaseID ≠ row.leaseID) ∧
          s'.leases = s.leases.map g ++ [row]) := by
  cases hstep with
  | evolve f g fs holds leases => exact ⟨g, leases, .inl rfl⟩
  | hold row => exact ⟨id, fun l _ => .same l, .inl (by simp)⟩
  | commit h row mem live fresh unfenced row_matches pending =>
    exact ⟨id, fun l _ => .same l,
      .inr ⟨row, pending, fun l hl => (LeaseRow.not_clashes (fresh l hl)).1, by simp⟩⟩

lemma Step.follows (hstep : s.Step budget now s') : s.Follows s' := by
  intro l hl
  obtain ⟨g, hg, heq | ⟨row, -, -, heq⟩⟩ := hstep.leases
  · exact ⟨g l, by rw [heq]; exact List.mem_map_of_mem hl, (hg l hl).follows⟩
  · exact ⟨g l, by rw [heq]; exact List.mem_append_left _ (List.mem_map_of_mem hl), (hg l hl).follows⟩

/-- The status of every row after a step: moved from the row with its ID, or pending in a row with
a new ID. -/
lemma Step.status (hstep : s.Step budget now s') {l' : LeaseRow} (hl' : l' ∈ s'.leases) :
    (∃ l ∈ s.leases, l.leaseID = l'.leaseID ∧
        (l'.status = l.status ∨ l.status.Moves l'.status)) ∨
      ((∀ l ∈ s.leases, l.leaseID ≠ l'.leaseID) ∧ l'.status = .pending) := by
  have hmoved : ∀ g : LeaseRow → LeaseRow, (∀ l ∈ s.leases, l.Evolves (g l)) →
      l' ∈ s.leases.map g → ∃ l ∈ s.leases, l.leaseID = l'.leaseID ∧
        (l'.status = l.status ∨ l.status.Moves l'.status) := by
    intro g hg hmem
    obtain ⟨l, hl, rfl⟩ := List.mem_map.mp hmem
    exact ⟨l, hl, (hg l hl).leaseID.symm, (hg l hl).moves⟩
  obtain ⟨g, hg, heq | ⟨row, hpending, hnew, heq⟩⟩ := hstep.leases
  · exact .inl (hmoved g hg (heq ▸ hl'))
  · rw [heq] at hl'
    rcases List.mem_append.mp hl' with hl' | hl'
    · exact .inl (hmoved g hg hl')
    · obtain rfl := List.mem_singleton.mp hl'
      exact .inr ⟨hnew, hpending⟩

end LeaseStore

/-- **Every lease row is followed along every run.** -/
lemma run_follows (hs : s.Sound) (ops : List LeaseOp) :
    s.Follows (Machine.run (serve w budget) s ops) := by
  refine Machine.run_rel (P := LeaseStore.Sound) (fun t l hl => ⟨l, hl, .refl l⟩) ?_ ?_ hs
  · intro a b c hab hbc l hl
    obtain ⟨l', hl', h⟩ := hab l hl
    obtain ⟨l'', hl'', h'⟩ := hbc l' hl'
    exact ⟨l'', hl'', h.trans h'⟩
  · intro t ht op _
    have hstep : t.Step budget op.now (Machine.next (serve w budget) t op) := serve_step ht op
    exact ⟨hstep.sound ht, hstep.follows⟩

/-! ## What the operations answer about a lease that exists -/

/-- The lease of an identity is found. -/
lemma leaseOf_of_mem (hs : s.Sound) {l : LeaseRow} (hl : l ∈ s.leases) :
    s.leaseOf l.identity = some l := by
  cases h : s.leaseOf l.identity with
  | none => exact absurd rfl (leaseOf_eq_none h l hl)
  | some l' =>
    obtain ⟨hmem, hid⟩ := mem_of_leaseOf h
    rw [hs.lease_unique.eq_of_key hmem hl hid]

/-- `CommitLease` of an identity that has a lease starts nothing and answers that lease. -/
lemma commitLease_of_lease (hs : s.Sound) {l : LeaseRow} (hl : l ∈ s.leases)
    {lease : SandboxLeaseV1} {o : SandboxOutcome} (hid : lease.identity = l.identity)
    (h : commitLease w s lease now = .ok (o, s')) :
    o.start = false ∧ (o.stage, o.errorCode) = l.stage := by
  have hfind : s.leaseOf lease.identity = some l := by rw [hid]; exact leaseOf_of_mem hs hl
  obtain ⟨-, ⟨l', hl', -, -, -, hstart, hstage⟩ | ⟨hnone, -⟩ | ⟨h, hnone, -⟩ |
    ⟨h, digest, hnone, -⟩⟩ := commitLease_cases h
  · rw [hfind, Option.some.injEq] at hl'
    exact ⟨hstart, hl' ▸ hstage⟩
  · rw [hfind] at hnone; cases hnone
  · rw [hfind] at hnone; cases hnone
  · rw [hfind] at hnone; cases hnone

/-- `Renew` of a lease that is no longer live answers its durable stage. -/
lemma renew_of_dead (hs : s.Sound) {l : LeaseRow} (hl : l ∈ s.leases) (hdead : l.live = false)
    {r : SandboxRenewalV1} {o : SandboxOutcome} (hid : r.leaseID = l.leaseID)
    (h : renew w s r now = .ok (o, s')) : (o.stage, o.errorCode) = l.stage := by
  obtain ⟨l', hl', -, -, hcases⟩ := renew_cases h
  obtain ⟨hmem, hid'⟩ := mem_of_leaseByID hl'
  obtain rfl := hs.leaseID_unique.eq_of_key hmem hl (hid'.trans hid)
  rcases hcases with ⟨-, -, -, hst⟩ | ⟨-, -, -, hst⟩ | ⟨-, -, hlive, -⟩ | ⟨-, hlive, -⟩
  · exact hst
  · exact hst
  · rw [hdead] at hlive; cases hlive
  · rw [hdead] at hlive; cases hlive

/-- A `CommitLease` that permits a start leaves a lease row of its identity. -/
lemma lease_of_start {lease : SandboxLeaseV1} {o : SandboxOutcome}
    (h : commitLease w s lease now = .ok (o, s')) (hstart : o.start = true) :
    ∃ l ∈ s'.leases, l.identity = lease.identity := by
  obtain ⟨-, ⟨l, -, -, -, -, hst, -⟩ | ⟨-, hst, -⟩ | ⟨_, -, -, hst, -⟩ |
    ⟨held, digest, -, -, -, -, -, -, -, -, -, -, -, rfl⟩⟩ := commitLease_cases h
  · rw [hst] at hstart; cases hstart
  · rw [hst] at hstart; cases hstart
  · rw [hst] at hstart; cases hstart
  · exact ⟨leaseRow lease held.holdID digest now, by simp, rfl⟩

/-! ## The lifecycle -/

/-- **The lifecycle of a lease**, after any operations in any order, with any arguments and times.

* Every lease row references a committed hold of the same identity, validator and resources; no two
  leases reference one hold; and a hold is committed only if a lease references it.
* After a `CommitLease` that permitted a start, no later `CommitLease` of the identity permits one.
* The next operation removes no lease, moves every status along `LeaseStatus.Moves` or not at all,
  and gives a new lease the status pending.
* Once a lease is no longer live, neither its renewal nor its expiry changes, and every later answer
  to a `CommitLease` of its identity or to a `Renew` of it that is not an error reports the same
  stage and error code.

**Proof sketch.** The references are the soundness of the tables. The other parts follow the row of
the lease along the run (`run_follows`): it exists for good, and from cleanup on its answer is the
intent, before and after the lease is closed. -/
theorem lease_lifecycle (w : Wire) (budget : Capacity) (ops : List LeaseOp) :
    let s := Machine.run (serve w budget) .empty ops
    ((∀ l ∈ s.leases, ∃ h ∈ s.holds, h.holdID = l.holdID ∧ h.identity = l.identity ∧
        h.validatorHotkey = l.validatorHotkey ∧ h.cpuMillis = l.cpuMillis ∧
        h.memoryMiB = l.memoryMiB ∧ h.diskMiB = l.diskMiB ∧ h.status = .committed) ∧
      (∀ l ∈ s.leases, ∀ l' ∈ s.leases, l.holdID = l'.holdID → l = l') ∧
      (∀ h ∈ s.holds, h.status = .committed → ∃ l ∈ s.leases, l.holdID = h.holdID)) ∧
    (∀ lease t o,
      Machine.answer (serve w budget) s (.commitLease lease t) = .outcome o → o.start = true →
      ∀ (after : List LeaseOp) (lease' : SandboxLeaseV1) (t' : ℤ) (o' : SandboxOutcome),
        lease'.identity = lease.identity →
        Machine.answer (serve w budget)
          (Machine.run (serve w budget) (Machine.next (serve w budget) s (.commitLease lease t)) after)
          (.commitLease lease' t') = .outcome o' → o'.start = false) ∧
    (∀ op, let s' := Machine.next (serve w budget) s op
      (∀ l ∈ s.leases, ∃ l' ∈ s'.leases, l'.leaseID = l.leaseID) ∧
      ∀ l' ∈ s'.leases,
        (∃ l ∈ s.leases, l.leaseID = l'.leaseID ∧
          (l'.status = l.status ∨ l.status.Moves l'.status)) ∨
        ((∀ l ∈ s.leases, l.leaseID ≠ l'.leaseID) ∧ l'.status = .pending)) ∧
    (∀ l ∈ s.leases, l.live = false → ∀ after, let s' := Machine.run (serve w budget) s after
      (∃ l' ∈ s'.leases, l'.leaseID = l.leaseID ∧ l'.renewalSeq = l.renewalSeq ∧
        l'.leaseExpiresAtNs = l.leaseExpiresAtNs) ∧
      (∀ lease t o, lease.identity = l.lease.identity →
        Machine.answer (serve w budget) s' (.commitLease lease t) = .outcome o →
        (o.stage, o.errorCode) = l.stage) ∧
      (∀ r t o, r.leaseID = l.leaseID →
        Machine.answer (serve w budget) s' (.renew r t) = .outcome o →
        (o.stage, o.errorCode) = l.stage)) := by
  intro s
  have hs : s.Sound := run_sound .empty ops
  refine ⟨⟨?_, ?_, hs.committed_leased⟩, ?_, ?_, ?_⟩
  · intro l hl
    obtain ⟨h, hh, hc⟩ := hs.lease_commits l hl
    have hcap := hc.capacity
    simp only [HoldRow.capacity, LeaseRow.capacity, Capacity.mk.injEq] at hcap
    exact ⟨h, hh, hc.holdID, hc.identity, hc.validator, hcap.1, hcap.2.2.1, hcap.2.1, hc.committed⟩
  · exact fun l hl l' hl' heq => hs.lease_hold_unique.eq_of_key hl hl' heq
  · intro lease t o ho hstart after lease' t' o' hid ho'
    have hs₁ : (Machine.next (serve w budget) s (.commitLease lease t)).Sound := serve_sound hs _
    obtain ⟨l, hl, hlid⟩ := lease_of_start (eq_ok_of_outcome ho) hstart
    obtain ⟨l', hl', hf⟩ := run_follows (w := w) hs₁ after l hl
    exact (commitLease_of_lease (run_sound hs₁ after) hl'
      (hid.trans (hlid.symm.trans hf.identity.symm)) (eq_ok_of_outcome ho')).1
  · intro op
    have hstep : s.Step budget op.now (Machine.next (serve w budget) s op) := serve_step hs op
    refine ⟨fun l hl => ?_, fun l' hl' => hstep.status hl'⟩
    obtain ⟨l', hl', hf⟩ := hstep.follows l hl
    exact ⟨l', hl', hf.leaseID⟩
  · intro l hl hdead after s'
    have hs' : s'.Sound := run_sound hs after
    obtain ⟨l', hl', hf⟩ := run_follows (w := w) hs after l hl
    obtain ⟨hdead', hseq, hexp, hst⟩ := hf.settled hdead
    refine ⟨⟨l', hl', hf.leaseID, hseq, hexp⟩, fun lease t o hid ho => ?_, fun r t o hid ho => ?_⟩
    · rw [← (hs.lease_matches l hl).identity, ← hf.identity] at hid
      rw [← hst]
      exact (commitLease_of_lease hs' hl' hid (eq_ok_of_outcome ho)).2
    · rw [← hst]
      exact renew_of_dead hs' hl' hdead' (hid.trans hf.leaseID.symm) (eq_ok_of_outcome ho)

end Lifecycle

/-! ## The first steps of one lease

The sample reservation, its lease and the promotion, served from the empty tables. -/

namespace Sample

open Protocol.Sample

/-- The digest of the sample documents with the nonce `ccc…`. -/
def digest (c : Char) : String := "sha256:" ++ (repeated c 32 ++ repeated c 32)

/-- The hold of `reservation c validator expires`, taken at time 1. -/
def holdRow (c : Char) (validator : String) (expires : ℤ) : HoldRow :=
  Durable.holdRow (reservation c validator expires) (digest c) 1

/-- The lease of `lease c validator expires`, committed at time 2 and running from time 3 on. -/
def leaseRow (c : Char) (validator : String) (expires : ℤ) : LeaseRow :=
  { Durable.leaseRow (lease c validator expires) (sandboxHoldIDV1 (reservation c validator 0))
      (digest c) 2 with
    leaseID := leaseID c
    leaseExpiresAtNs := expires
    status := .running
    updatedAtNs := 3 }

/-- The tables with that lease, whose hold lasts until time 10. -/
def running (c : Char) (validator : String) (expires : ℤ) : LeaseStore :=
  ⟨[{ holdRow c validator 10 with status := .committed, updatedAtNs := 2 }],
    [leaseRow c validator expires], []⟩

/-- The requests that lead to `running`. -/
def startup (c : Char) (validator : String) (expires : ℤ) : List LeaseOp :=
  [.hold (reservation c validator 10) 1, .commitLease (lease c validator expires) 2,
    .markLeaseRunning (leaseID c) 3]

variable {c : Char} {validator : String} {expires : ℤ}

lemma hold_empty (hc : hexDigit c = true) (hv : validator ≠ "") :
    hold wire budget .empty (reservation c validator 10) 1 =
      .ok (finish ⟨[holdRow c validator 10], [], []⟩ 1 { stage := .held }) :=
  hold_accepts (reservation_valid hc hv (by decide) (by decide)) rfl
    (show (1 : ℕ) < 2 ^ 63 by decide) rfl rfl (show (1 : ℤ) < 10 by decide)
    (show ((Capacity.zero.plus .zero).add resources).within budget = true by decide)
    (by simp [LeaseStore.empty])

lemma commits_sample :
    sandboxLeaseCommitsReservationV1 wire (reservation c validator 10) (lease c validator expires) =
      true := by
  simp [sandboxLeaseCommitsReservationV1, wire, reservation, lease, sameSandboxParties]

lemma commit_held (hc : hexDigit c = true) (hv : validator ≠ "") (h0 : 2 < expires)
    (h1 : expires ≤ maxLeaseWindow) :
    commitLease wire ⟨[holdRow c validator 10], [], []⟩ (lease c validator expires) 2 =
      .ok (finish
        ⟨[{ holdRow c validator 10 with status := .committed, updatedAtNs := 2 }],
          [{ leaseRow c validator expires with status := .pending, updatedAtNs := 2 }], []⟩ 2
        { stage := .accepted, leaseID := some (leaseID c), start := true }) := by
  have hhold : (⟨[holdRow c validator 10], [], []⟩ : LeaseStore).holdOf
      (lease c validator expires).identity = some (holdRow c validator 10) := by
    have hid : (holdRow c validator 10).identity = (lease c validator expires).identity := rfl
    simp [LeaseStore.holdOf, hid]
  have hlive : (holdRow c validator 10).holdsAt 2 = true := rfl
  rw [commitLease_starts (lease_valid hc hv (by omega) h1) rfl (show (1 : ℕ) < 2 ^ 63 by decide) rfl
    rfl hhold commits_sample hlive h0 (by simp)]
  have hmark : Table.updateWhere
      (fun h' => h'.holdID == (holdRow c validator 10).holdID && h'.status == .held)
      (fun h => { h with status := .committed, updatedAtNs := 2 }) [holdRow c validator 10] =
      [{ holdRow c validator 10 with status := .committed, updatedAtNs := 2 }] := by
    have hheld : (holdRow c validator 10).status = .held := rfl
    simp [Table.updateWhere, hheld]
  have hexp : unixNano (lease c validator expires).leaseExpiresAt = expires := by
    unfold maxLeaseWindow second at h1
    exact unixNano_eq (show _ ≤ expires by omega) (show expires < _ by omega)
  simp only [LeaseStore.setHolds, hmark, Durable.leaseRow, hexp]
  rfl

lemma mark_pending (h0 : 3 < expires) :
    markLeaseRunning
      ⟨[{ holdRow c validator 10 with status := .committed, updatedAtNs := 2 }],
        [{ leaseRow c validator expires with status := .pending, updatedAtNs := 2 }], []⟩
      (leaseID c) 3 =
      (true, running c validator expires) := by
  have hid : (leaseRow c validator expires).leaseID = leaseID c := rfl
  have hexp : 3 < (leaseRow c validator expires).leaseExpiresAtNs := h0
  simp only [markLeaseRunning, Table.updateWhere, LeaseRow.markRunning, ← hid, hexp, running,
    List.find?_cons, List.map_cons, List.map_nil, BEq.rfl, Bool.and_self, if_true, Option.any_some,
    decide_true]
  rfl

/-- The sample lease runs. -/
lemma run_startup (hc : hexDigit c = true) (hv : validator ≠ "") (h0 : 3 < expires)
    (h1 : expires ≤ maxLeaseWindow) :
    Machine.run (serve wire budget) .empty (startup c validator expires) =
      running c validator expires := by
  simp only [startup, Machine.run_cons, Machine.run_nil, Machine.next, serve, hold_empty hc hv,
    settle, finish]
  rw [commit_held hc hv (by omega) h1]
  simp only [finish]
  rw [mark_pending h0]

end Sample

end Misscomputer.Durable
