import Misscomputer.Durable.Fence
import Misscomputer.Durable.Lifecycle

set_option relaxedAutoImplicit false
set_option autoImplicit false

/-!
# Leases that start and leases that are torn down

Two calls move a lease that others must not move at the same time: `MarkLeaseRunning` promotes it and
`CompleteLeaseCleanup` closes it. Every other call leaves the status of a row alone or sends a live
lease to cleanup. A release that was answered leaves its identity fenced, and the leases that the
caller must tear down are those of the identity that still occupy capacity.

## Main definitions

* `Durable.LeaseOp.moves` — the lease that a call promotes or closes.
* `Durable.LeaseStore.Starting`, `Dead`, `Closed`, `Occupied` — what is known of the row of a lease.
* `Durable.LeaseStore.Draining` — a fenced identity, and the leases of it that are left.

## Main results

* `Durable.serve_status` — what a call does to the status of a row it does not move.
* `Durable.LeaseStore.Draining.serve` — what is left of an identity never grows.
-/

namespace Misscomputer.Durable

open Sandbox Protocol

variable {w : Wire} {budget : Capacity} {now : ℤ} {s s' : LeaseStore} {leaseID : String}

/-- The lease that a call promotes or closes. -/
def LeaseOp.moves : LeaseOp → Option String
  | .markLeaseRunning leaseID _ | .completeLeaseCleanup leaseID _ => some leaseID
  | _ => none

namespace LeaseStore

/-- The lease has a row. -/
def Known (s : LeaseStore) (leaseID : String) : Prop := ∃ l ∈ s.leases, l.leaseID = leaseID

/-- The lease was committed and not promoted: it is pending, or was sent to cleanup since. -/
def Starting (s : LeaseStore) (leaseID : String) : Prop :=
  ∃ l ∈ s.leases, l.leaseID = leaseID ∧ (l.status = .pending ∨ l.status = .cleanup)

/-- The lease is neither pending nor running. -/
def Dead (s : LeaseStore) (leaseID : String) : Prop :=
  ∃ l ∈ s.leases, l.leaseID = leaseID ∧ l.live = false

/-- The lease is closed. -/
def Closed (s : LeaseStore) (leaseID : String) : Prop :=
  ∃ l ∈ s.leases, l.leaseID = leaseID ∧ l.occupies = false

/-- The lease occupies capacity. -/
def Occupied (s : LeaseStore) (leaseID : String) : Prop :=
  ∃ l ∈ s.leases, l.leaseID = leaseID ∧ l.occupies = true

/-- The identity is fenced, and its leases that still occupy capacity are among `todo`. -/
def Draining (s : LeaseStore) (id : Identity) (todo : List String) : Prop :=
  (∃ validator, s.FencedBy id validator) ∧
    ∀ l ∈ s.leases, l.identity = id → l.occupies = true → l.leaseID ∈ todo

lemma Starting.known (h : s.Starting leaseID) : s.Known leaseID := by
  obtain ⟨l, hl, hid, -⟩ := h
  exact ⟨l, hl, hid⟩

lemma Starting.occupied (h : s.Starting leaseID) : s.Occupied leaseID := by
  obtain ⟨l, hl, hid, hst⟩ := h
  refine ⟨l, hl, hid, ?_⟩
  rcases hst with hst | hst <;> simp [LeaseRow.occupies, LeaseRow.live, hst]

lemma Dead.known (h : s.Dead leaseID) : s.Known leaseID := by
  obtain ⟨l, hl, hid, -⟩ := h
  exact ⟨l, hl, hid⟩

lemma Occupied.known (h : s.Occupied leaseID) : s.Known leaseID := by
  obtain ⟨l, hl, hid, -⟩ := h
  exact ⟨l, hl, hid⟩

lemma Closed.dead (h : s.Closed leaseID) : s.Dead leaseID := by
  obtain ⟨l, hl, hid, hst⟩ := h
  refine ⟨l, hl, hid, ?_⟩
  simp only [LeaseRow.occupies, Bool.or_eq_false_iff] at hst
  exact hst.1

end LeaseStore

/-! ## What a call does to one row -/

/-- A row of the table after an update of some of its rows. -/
lemma mem_updateWhere {α : Type} {p : α → Bool} {f : α → α} {t : List α} {x : α} (hx : x ∈ t) :
    (if p x then f x else x) ∈ Table.updateWhere p f t :=
  List.mem_map_of_mem hx

/-- The row of a lease moves in place. -/
lemma serve_evolves (hs : s.Sound) (op : LeaseOp) {l : LeaseRow} (hl : l ∈ s.leases) :
    ∃ l' ∈ (serve w budget s op).1.leases, l.Evolves l' := by
  have hstep : s.Step budget op.now (serve w budget s op).1 := serve_step hs op
  obtain ⟨g, hg, heq | ⟨row, -, -, heq⟩⟩ := hstep.leases
  · exact ⟨g l, heq ▸ List.mem_map_of_mem hl, hg l hl⟩
  · exact ⟨g l, heq ▸ List.mem_append_left _ (List.mem_map_of_mem hl), hg l hl⟩

/-- The row of a lease after live leases went to cleanup. -/
lemma setCleanup_status {p : LeaseRow → Bool} {intent : LeaseStatus} {code : Option String}
    (hp : ∀ l, p l = true → l.live = true) {l : LeaseRow} (hl : l ∈ s.leases) :
    ∃ l' ∈ (s.setCleanup p intent code now).leases, l'.leaseID = l.leaseID ∧
      (l'.status = l.status ∨ l.live = true ∧ l'.status = .cleanup) := by
  refine ⟨_, mem_updateWhere hl, ?_⟩
  split
  · rename_i h
    exact ⟨rfl, .inr ⟨hp l h, rfl⟩⟩
  · exact ⟨rfl, .inl rfl⟩

/-- What `settle` keeps of the tables when the operation keeps it. -/
lemma settle_keeps {α : Type} {P : LeaseStore → Prop} {x : Except StoreError (α × LeaseStore)}
    {answer : α → LeaseAnswer} (h : P s) (hx : ∀ a s', x = .ok (a, s') → P s') :
    P (settle s x answer).1 := by
  match x, hx with
  | .ok (a, s'), hx => exact hx a s' rfl
  | .error e, _ => exact h

/-- **What a call does to the status of a row it neither promotes nor closes**: it leaves it alone, or
sends the live lease to cleanup. -/
lemma serve_status (op : LeaseOp) {l : LeaseRow} (hl : l ∈ s.leases)
    (hop : op.moves ≠ some l.leaseID) :
    ∃ l' ∈ (serve w budget s op).1.leases, l'.leaseID = l.leaseID ∧
      (l'.status = l.status ∨ l.live = true ∧ l'.status = .cleanup) := by
  have hsame : ∃ l' ∈ s.leases, l'.leaseID = l.leaseID ∧
      (l'.status = l.status ∨ l.live = true ∧ l'.status = .cleanup) := ⟨l, hl, rfl, .inl rfl⟩
  -- an update that does not select the row leaves it alone
  have hother : ∀ {p : LeaseRow → Bool} {f : LeaseRow → LeaseRow}, p l = false →
      ∃ l' ∈ Table.updateWhere p f s.leases, l'.leaseID = l.leaseID ∧
        (l'.status = l.status ∨ l.live = true ∧ l'.status = .cleanup) := by
    intro p f hp
    have hmem := mem_updateWhere (p := p) (f := f) hl
    rw [hp] at hmem
    exact ⟨l, hmem, rfl, .inl rfl⟩
  let P (t : LeaseStore) : Prop := ∃ l' ∈ t.leases, l'.leaseID = l.leaseID ∧
    (l'.status = l.status ∨ l.live = true ∧ l'.status = .cleanup)
  cases op with
  | hold r now =>
    refine settle_keeps (P := P) hsame fun a t h => ?_
    obtain ⟨-, -, rfl | rfl | ⟨digest, -, -, -, -, rfl⟩⟩ := hold_cases h <;> exact hsame
  | replayHeldReservation r now waited =>
    refine settle_keeps (P := P) hsame fun a t h => ?_
    obtain ⟨rfl, -⟩ := replay_eq_ok h
    exact hsame
  | commitLease lease now =>
    refine settle_keeps (P := P) hsame fun a t h => ?_
    obtain ⟨-, ⟨l', -, -, -, rfl, -⟩ | ⟨-, -, -, rfl⟩ | ⟨h', -, -, -, -, -, -, rfl⟩ |
      ⟨h', digest, -, -, -, -, -, -, -, -, -, -, -, rfl⟩⟩ := commitLease_cases h
    · exact hsame
    · exact hsame
    · exact hsame
    · exact ⟨l, List.mem_append_left _ hl, rfl, .inl rfl⟩
  | markLeaseRunning leaseID now =>
    have hne : l.leaseID ≠ leaseID := fun h => hop (by rw [h]; rfl)
    exact hother (by simp [hne])
  | beginLeaseCleanup leaseID terminal code now =>
    refine settle_keeps (P := P) hsame fun a t h => ?_
    obtain ⟨-, rfl⟩ := beginLeaseCleanup_eq_ok (map_unit_eq_ok h)
    exact setCleanup_status (fun l' hl' => by simp at hl'; exact hl'.2) hl
  | completeLeaseCleanup leaseID now =>
    have hne : l.leaseID ≠ leaseID := fun h => hop (by rw [h]; rfl)
    refine settle_keeps (P := P) hsame fun a t h => ?_
    replace h := map_unit_eq_ok h
    unfold completeLeaseCleanup at h
    dsimp only at h
    split at h
    · cases h
    · cases h
      exact hother (by simp [hne])
  | renew r now =>
    refine settle_keeps (P := P) hsame fun a t h => ?_
    obtain ⟨l', -, -, -, ⟨rfl, -⟩ | ⟨rfl, -⟩ | ⟨rfl, -⟩ | ⟨-, -, -, -, rfl⟩⟩ := renew_cases h
    · exact hsame
    · exact hsame
    · exact hsame
    · refine ⟨_, mem_updateWhere hl, ?_⟩
      split <;> exact ⟨rfl, .inl rfl⟩
  | release r now =>
    refine settle_keeps (P := P) hsame fun a t h => ?_
    obtain ⟨rfl, -⟩ := release_eq_ok h
    exact setCleanup_status (s := ⟨s.holds, s.leases, s.fences⟩)
      (fun l' hl' => by simp at hl'; exact hl'.2) hl
  | sweep now =>
    exact setCleanup_status (s := ⟨s.holds, s.leases, s.fences⟩)
      (fun l' hl' => by simp at hl'; exact hl'.1) hl
  | recoverCleanup now =>
    exact setCleanup_status (s := ⟨s.holds, s.leases, s.fences⟩) (fun l' hl' => hl') hl

namespace LeaseStore

/-! ## What every call keeps -/

lemma Known.serve (h : s.Known leaseID) (hs : s.Sound) (op : LeaseOp) :
    (serve w budget s op).1.Known leaseID := by
  obtain ⟨l, hl, hid⟩ := h
  obtain ⟨l', hl', e⟩ := serve_evolves hs op hl
  exact ⟨l', hl', e.leaseID.trans hid⟩

lemma Dead.serve (h : s.Dead leaseID) (hs : s.Sound) (op : LeaseOp) :
    (serve w budget s op).1.Dead leaseID := by
  obtain ⟨l, hl, hid, hst⟩ := h
  obtain ⟨l', hl', e⟩ := serve_evolves hs op hl
  refine ⟨l', hl', e.leaseID.trans hid, ?_⟩
  by_contra hlive
  rw [e.live (by simpa using hlive)] at hst
  cases hst

lemma Closed.serve (h : s.Closed leaseID) (hs : s.Sound) (op : LeaseOp) :
    (serve w budget s op).1.Closed leaseID := by
  obtain ⟨l, hl, hid, hst⟩ := h
  obtain ⟨l', hl', e⟩ := serve_evolves hs op hl
  refine ⟨l', hl', e.leaseID.trans hid, ?_⟩
  by_contra hocc
  rw [e.occupies (by simpa using hocc)] at hst
  cases hst

lemma Starting.serve (h : s.Starting leaseID) {op : LeaseOp} (hop : op.moves ≠ some leaseID) :
    (serve w budget s op).1.Starting leaseID := by
  obtain ⟨l, hl, rfl, hst⟩ := h
  obtain ⟨l', hl', hid, hst' | ⟨-, hst'⟩⟩ := serve_status op hl hop
  · exact ⟨l', hl', hid, hst' ▸ hst⟩
  · exact ⟨l', hl', hid, .inr hst'⟩

/-- A lease occupies its capacity until it is closed. -/
lemma Occupied.serve (h : s.Occupied leaseID) {op : LeaseOp}
    (hop : ∀ now, op ≠ .completeLeaseCleanup leaseID now) :
    (serve w budget s op).1.Occupied leaseID := by
  obtain ⟨l, hl, rfl, hst⟩ := h
  by_cases hmoves : op.moves = some l.leaseID
  · -- the call promotes the lease
    cases op with
    | markLeaseRunning leaseID now =>
      obtain rfl : leaseID = l.leaseID := by simpa [LeaseOp.moves] using hmoves
      refine ⟨_, mem_updateWhere hl, ?_, ?_⟩
      · split
        · unfold LeaseRow.markRunning
          split <;> rfl
        · rfl
      · split
        · unfold LeaseRow.markRunning
          split <;> simp [LeaseRow.occupies, LeaseRow.live]
        · exact hst
    | completeLeaseCleanup leaseID now =>
      obtain rfl : leaseID = l.leaseID := by simpa [LeaseOp.moves] using hmoves
      exact absurd rfl (hop now)
    | _ => cases hmoves
  · obtain ⟨l', hl', hid, hst' | ⟨-, hst'⟩⟩ := @serve_status w budget s op l hl hmoves
    · refine ⟨l', hl', hid, ?_⟩
      simpa only [LeaseRow.occupies, LeaseRow.live, hst'] using hst
    · exact ⟨l', hl', hid, by simp [LeaseRow.occupies, hst']⟩

/-- **What is left of a fenced identity never grows.** -/
lemma Draining.serve {id : Identity} {todo : List String} (h : s.Draining id todo) (hs : s.Sound)
    (op : LeaseOp) : (serve w budget s op).1.Draining id todo := by
  obtain ⟨⟨validator, hf⟩, htodo⟩ := h
  have hstep : s.Step budget op.now (Durable.serve w budget s op).1 := serve_step hs op
  refine ⟨⟨validator, hf.step hstep⟩, fun l' hl' hid hocc => ?_⟩
  obtain ⟨x, hx, hxid, -⟩ := hf
  obtain ⟨g, hg, heq | ⟨row, hpending, -, heq⟩⟩ := hstep.leases
  · rw [heq] at hl'
    obtain ⟨l, hl, rfl⟩ := List.mem_map.mp hl'
    rw [(hg l hl).leaseID]
    exact htodo l hl ((hg l hl).identity ▸ hid) ((hg l hl).occupies hocc)
  · -- a row of a fenced identity that a step leaves is not live, so it is not the pending one
    have hlive := (hstep.sound hs).fence_leases
    rw [heq] at hl'
    rcases List.mem_append.mp hl' with hmem | hmem
    · obtain ⟨l, hl, rfl⟩ := List.mem_map.mp hmem
      rw [(hg l hl).leaseID]
      exact htodo l hl ((hg l hl).identity ▸ hid) ((hg l hl).occupies hocc)
    · obtain ⟨x', hx', hxid', -⟩ := FencedBy.step ⟨x, hx, hxid, rfl⟩ hstep
      have hdead := hlive x' hx' l' (heq ▸ hl') (hid.trans hxid'.symm)
      rw [List.mem_singleton.mp hmem] at hdead
      simp [LeaseRow.live, hpending] at hdead

end LeaseStore

/-! ## What the answers say -/

end Misscomputer.Durable
