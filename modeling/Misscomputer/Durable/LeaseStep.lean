import Misscomputer.Lib.Except
import Misscomputer.Durable.Leases

set_option relaxedAutoImplicit false
set_option autoImplicit false

/-!
# What one lease transaction may do

The ten operations of `SandboxLeases` change the tables in three ways only: rows evolve in place
(and release fences are added), one hold is inserted after a capacity check, or one live hold is
turned into a pending lease. This module states the three ways and the soundness of the tables, which
they keep; `Misscomputer.Durable.LeaseRefinement` shows that every operation is one of them.

## Main definitions

* `Durable.HoldRow.Evolves`, `Durable.LeaseRow.Evolves` — the moves of one row.
* `Durable.LeaseStore.Sound` — the integrity of the tables.
* `Durable.LeaseStore.Step` — the three ways a transaction changes the tables.

## Main results

* `Durable.LeaseStore.Step.sound` — steps keep the tables sound.
-/

namespace Misscomputer.Durable

open Sandbox Protocol

/-! ## Moves of one row -/

/-- The statuses a lease ends in. -/
def LeaseStatus.terminal : LeaseStatus → Bool
  | .failed | .released | .expired => true
  | _ => false

/-- A hold row is left alone, or a held row is given up. -/
inductive HoldRow.Evolves : HoldRow → HoldRow → Prop
  | same (h : HoldRow) : Evolves h h
  | giveUp (h : HoldRow) (status : HoldStatus) (now : ℤ) (held : h.status = .held)
      (status_eq : status = .expired ∨ status = .released) :
      Evolves h { h with status := status, updatedAtNs := now }

/-- The moves of a lease row: it is promoted, sent to cleanup with an intent, closed with that
intent, renewed while live, or left alone. -/
inductive LeaseRow.Evolves : LeaseRow → LeaseRow → Prop
  | same (l : LeaseRow) : Evolves l l
  | promote (l : LeaseRow) (now : ℤ) (pending : l.status = .pending) :
      Evolves l { l with status := .running, updatedAtNs := now }
  | cleanup (l : LeaseRow) (intent : LeaseStatus) (code : Option String) (now : ℤ)
      (live : l.live = true) (terminal : intent.terminal = true) :
      Evolves l
        { l with
          status := .cleanup
          cleanupStatus := some intent
          cleanupCode := code
          updatedAtNs := now }
  | complete (l : LeaseRow) (intent : LeaseStatus) (now : ℤ) (cleanup : l.status = .cleanup)
      (intent_eq : l.cleanupStatus = some intent) (terminal : intent.terminal = true) :
      Evolves l { l with status := intent, terminalCode := l.cleanupCode, updatedAtNs := now }
  | extend (l : LeaseRow) (r : SandboxRenewalV1) (now : ℤ) (live : l.live = true)
      (newer : l.renewalSeq < r.renewalSeq) :
      Evolves l
        { l with
          renewalSeq := r.renewalSeq
          leaseExpiresAtNs := unixNano r.leaseExpiresAt
          renewal := some r
          updatedAtNs := now }

/-! ## Sound tables -/

/-- A hold row carries its reservation: the identity, the validator and the resources are those of
the document, which passed its shape check. -/
structure HoldRow.Matches (h : HoldRow) : Prop where
  identity : h.identity = h.reservation.identity
  validator : h.validatorHotkey = sandboxValidator h.reservation.subnet
  capacity : h.capacity = Capacity.ofResources h.reservation.resources
  resources : h.reservation.resources.validate = .ok ()

/-- A lease row carries its lease: the ID, the identity and the validator are those of the
document. -/
structure LeaseRow.Matches (l : LeaseRow) : Prop where
  leaseID : l.leaseID = sandboxLeaseIDV1 l.lease
  identity : l.identity = l.lease.identity
  validator : l.validatorHotkey = sandboxValidator l.lease.subnet

/-- A lease row references the committed hold `h` it was made from. -/
structure LeaseRow.Commits (l : LeaseRow) (h : HoldRow) : Prop where
  holdID : h.holdID = l.holdID
  identity : h.identity = l.identity
  validator : h.validatorHotkey = l.validatorHotkey
  capacity : h.capacity = l.capacity
  resources : h.reservation.resources = l.lease.resources
  committed : h.status = .committed

/-- The cleanup columns of a lease agree with its status: in cleanup it has a terminal intent. -/
def LeaseRow.IntentSet (l : LeaseRow) : Prop :=
  l.status = .cleanup → ∃ intent, l.cleanupStatus = some intent ∧ intent.terminal = true

/-- **The integrity of the sandbox tables.** -/
structure LeaseStore.Sound (s : LeaseStore) : Prop where
  holdID_unique : Table.UniqueOn HoldRow.holdID s.holds
  hold_unique : Table.UniqueOn HoldRow.identity s.holds
  leaseID_unique : Table.UniqueOn LeaseRow.leaseID s.leases
  lease_hold_unique : Table.UniqueOn LeaseRow.holdID s.leases
  lease_unique : Table.UniqueOn LeaseRow.identity s.leases
  fence_unique : Table.UniqueOn FenceRow.identity s.fences
  hold_matches : ∀ h ∈ s.holds, h.Matches
  lease_matches : ∀ l ∈ s.leases, l.Matches
  lease_commits : ∀ l ∈ s.leases, ∃ h ∈ s.holds, l.Commits h
  committed_leased : ∀ h ∈ s.holds, h.status = .committed → ∃ l ∈ s.leases, l.holdID = h.holdID
  intent_set : ∀ l ∈ s.leases, l.IntentSet
  fence_holds : ∀ x ∈ s.fences, ∀ h ∈ s.holds, h.identity = x.identity → h.status ≠ .held
  fence_leases : ∀ x ∈ s.fences, ∀ l ∈ s.leases, l.identity = x.identity → l.live = false

/-! ## Steps -/

/-- What a commit writes to a hold row. -/
def commitMark (h : HoldRow) (now : ℤ) (h' : HoldRow) : HoldRow :=
  if h'.holdID == h.holdID && h'.status == .held then
    { h' with status := .committed, updatedAtNs := now }
  else h'

/-- **The three ways a transaction changes the tables**, at the decision time `now`.

* `evolve`: rows move in place, and fences are added for identities without a held hold or a live
  lease.
* `hold`: a hold is inserted for an identity with no fence, after its resources fitted the budget
  next to what is occupied at `now`.
* `commit`: a hold live at `now`, of an identity with no fence and no lease, becomes a pending
  lease with its resources. -/
inductive LeaseStore.Step (budget : Capacity) (now : ℤ) : LeaseStore → LeaseStore → Prop
  | evolve (s : LeaseStore) (f : HoldRow → HoldRow) (g : LeaseRow → LeaseRow)
      (fs : List FenceRow) (holds : ∀ h ∈ s.holds, h.Evolves (f h))
      (leases : ∀ l ∈ s.leases, l.Evolves (g l))
      (fences : Table.UniqueOn FenceRow.identity (s.fences ++ fs))
      (unheld : ∀ x ∈ fs, ∀ h ∈ s.holds, h.identity = x.identity → (f h).status ≠ .held)
      (unlive : ∀ x ∈ fs, ∀ l ∈ s.leases, l.identity = x.identity → (g l).live = false) :
      Step budget now s ⟨s.holds.map f, s.leases.map g, s.fences ++ fs⟩
  | hold (s : LeaseStore) (row : HoldRow) (fresh : ∀ h ∈ s.holds, h.clashes row = false)
      (unfenced : ∀ x ∈ s.fences, x.identity ≠ row.identity) (row_matches : row.Matches)
      (held : row.status = .held)
      (fits : ((sandboxOccupancyTx s now).1 + (sandboxOccupancyTx s now).2 + row.capacity).within
        budget = true) :
      Step budget now s { s with holds := s.holds ++ [row] }
  | commit (s : LeaseStore) (h : HoldRow) (row : LeaseRow) (mem : h ∈ s.holds)
      (live : h.holdsAt now = true) (fresh : ∀ l ∈ s.leases, l.clashes row = false)
      (unfenced : ∀ x ∈ s.fences, x.identity ≠ row.identity) (row_matches : row.Matches)
      (pending : row.status = .pending)
      (commits : row.Commits { h with status := .committed, updatedAtNs := now }) :
      Step budget now s
        { s with
          holds := s.holds.map (commitMark h now)
          leases := s.leases ++ [row] }

/-- A step that changes nothing. -/
lemma LeaseStore.Step.refl {budget : Capacity} {now : ℤ} {s : LeaseStore} (hs : s.Sound) :
    LeaseStore.Step budget now s s := by
  have h : Step budget now s ⟨s.holds.map id, s.leases.map id, s.fences ++ []⟩ :=
    .evolve s id id [] (fun h _ => .same h) (fun l _ => .same l)
      (by simpa using hs.fence_unique) (by simp) (by simp)
  simpa using h

/-! ## What the moves leave alone -/

namespace HoldRow.Evolves

variable {h h' : HoldRow}

lemma holdID (e : h.Evolves h') : h'.holdID = h.holdID := by cases e <;> rfl

lemma identity (e : h.Evolves h') : h'.identity = h.identity := by cases e <;> rfl

lemma capacity (e : h.Evolves h') : h'.capacity = h.capacity := by cases e <;> rfl

lemma row_matches (e : h.Evolves h') (hm : h.Matches) : h'.Matches := by
  cases e with
  | same => exact hm
  | giveUp => exact ⟨hm.identity, hm.validator, hm.capacity, hm.resources⟩

/-- No move makes a hold held. -/
lemma held (e : h.Evolves h') (hh : h'.status = .held) : h' = h := by
  cases e with
  | same => rfl
  | giveUp status now _ hst => rcases hst with rfl | rfl <;> cases hh

/-- No move commits a hold, and a committed hold never moves. -/
lemma committed_iff (e : h.Evolves h') : h'.status = .committed ↔ h.status = .committed := by
  cases e with
  | same => rfl
  | giveUp status now hheld hst => rcases hst with rfl | rfl <;> simp [hheld]

/-- A committed hold never moves. -/
lemma of_committed (e : h.Evolves h') (hc : h.status = .committed) : h' = h := by
  cases e with
  | same => rfl
  | giveUp status now hheld _ => rw [hc] at hheld; cases hheld

end HoldRow.Evolves

namespace LeaseRow.Evolves

variable {l l' : LeaseRow}

lemma leaseID (e : l.Evolves l') : l'.leaseID = l.leaseID := by cases e <;> rfl

lemma holdID (e : l.Evolves l') : l'.holdID = l.holdID := by cases e <;> rfl

lemma identity (e : l.Evolves l') : l'.identity = l.identity := by cases e <;> rfl

lemma capacity (e : l.Evolves l') : l'.capacity = l.capacity := by cases e <;> rfl

lemma leaseDigest (e : l.Evolves l') : l'.leaseDigest = l.leaseDigest := by cases e <;> rfl

lemma row_matches (e : l.Evolves l') (hm : l.Matches) : l'.Matches := by
  obtain ⟨h1, h2, h3⟩ := hm
  cases e <;> exact ⟨h1, h2, h3⟩

lemma commits (e : l.Evolves l') {h : HoldRow} (hc : l.Commits h) : l'.Commits h := by
  obtain ⟨h1, h2, h3, h4, h5, h6⟩ := hc
  cases e <;> exact ⟨h1, h2, h3, h4, h5, h6⟩

/-- A lease that is live after a move was live before it. -/
lemma live (e : l.Evolves l') (hl : l'.live = true) : l.live = true := by
  cases e with
  | same => exact hl
  | promote now hp => simp [LeaseRow.live, hp]
  | cleanup intent code now hlive _ => exact hlive
  | complete intent now hc hi ht => cases intent <;> simp_all [LeaseRow.live, LeaseStatus.terminal]
  | extend r now hlive _ => exact hlive

/-- A lease that occupies capacity after a move occupied it before. -/
lemma occupies (e : l.Evolves l') (hl : l'.occupies = true) : l.occupies = true := by
  cases e with
  | same => exact hl
  | promote now hp => simp [LeaseRow.occupies, LeaseRow.live, hp]
  | cleanup intent code now hlive _ => simp [LeaseRow.occupies, hlive]
  | complete intent now hc hi ht => simp [LeaseRow.occupies, hc]
  | extend r now hlive _ => simp [LeaseRow.occupies, hlive]

lemma intentSet (e : l.Evolves l') (hi : l.IntentSet) : l'.IntentSet := by
  cases e with
  | same => exact hi
  | promote now hp => intro h; cases h
  | cleanup intent code now hlive ht => exact fun _ => ⟨intent, rfl, ht⟩
  | complete intent now hc heq ht =>
    intro h
    dsimp only at h
    rw [h] at ht
    cases ht
  | extend r now hlive _ => exact hi

end LeaseRow.Evolves

/-! ## Steps keep the tables sound -/

lemma HoldRow.not_clashes {a b : HoldRow} (h : a.clashes b = false) :
    a.holdID ≠ b.holdID ∧ a.identity ≠ b.identity := by
  simp only [HoldRow.clashes, Bool.or_eq_false_iff, beq_eq_false_iff_ne] at h
  exact ⟨h.1.1.1, h.2⟩

lemma LeaseRow.not_clashes {a b : LeaseRow} (h : a.clashes b = false) :
    a.leaseID ≠ b.leaseID ∧ a.holdID ≠ b.holdID ∧ a.identity ≠ b.identity := by
  simp only [LeaseRow.clashes, Bool.or_eq_false_iff, beq_eq_false_iff_ne] at h
  exact ⟨h.1.1.1.1, h.1.1.1.2, h.1.1.2⟩

namespace LeaseStore

variable {budget : Capacity} {now : ℤ} {s s' : LeaseStore}

lemma Sound.empty : LeaseStore.empty.Sound := by
  constructor <;> simp [LeaseStore.empty]

/-- A committed hold has a lease of its own identity. -/
lemma Sound.lease_of_committed (hs : s.Sound) {h : HoldRow} (hh : h ∈ s.holds)
    (hc : h.status = .committed) : ∃ l ∈ s.leases, l.identity = h.identity := by
  obtain ⟨l, hl, hid⟩ := hs.committed_leased h hh hc
  obtain ⟨h', hh', hcom⟩ := hs.lease_commits l hl
  obtain rfl := hs.holdID_unique.eq_of_key hh' hh (hcom.holdID.trans hid)
  exact ⟨l, hl, hcom.identity.symm⟩

/-- Rows that evolve in place keep the tables sound. -/
lemma Sound.evolve (hs : s.Sound) {f : HoldRow → HoldRow} {g : LeaseRow → LeaseRow}
    {fs : List FenceRow} (holds : ∀ h ∈ s.holds, h.Evolves (f h))
    (leases : ∀ l ∈ s.leases, l.Evolves (g l))
    (fences : Table.UniqueOn FenceRow.identity (s.fences ++ fs))
    (unheld : ∀ x ∈ fs, ∀ h ∈ s.holds, h.identity = x.identity → (f h).status ≠ .held)
    (unlive : ∀ x ∈ fs, ∀ l ∈ s.leases, l.identity = x.identity → (g l).live = false) :
    (⟨s.holds.map f, s.leases.map g, s.fences ++ fs⟩ : LeaseStore).Sound where
  holdID_unique := hs.holdID_unique.map fun h hh => (holds h hh).holdID
  hold_unique := hs.hold_unique.map fun h hh => (holds h hh).identity
  leaseID_unique := hs.leaseID_unique.map fun l hl => (leases l hl).leaseID
  lease_hold_unique := hs.lease_hold_unique.map fun l hl => (leases l hl).holdID
  lease_unique := hs.lease_unique.map fun l hl => (leases l hl).identity
  fence_unique := fences
  hold_matches := by
    simp only [List.forall_mem_map]
    exact fun h hh => (holds h hh).row_matches (hs.hold_matches h hh)
  lease_matches := by
    simp only [List.forall_mem_map]
    exact fun l hl => (leases l hl).row_matches (hs.lease_matches l hl)
  lease_commits := by
    simp only [List.forall_mem_map]
    intro l hl
    obtain ⟨h, hh, hc⟩ := hs.lease_commits l hl
    refine ⟨f h, List.mem_map_of_mem hh, ?_⟩
    rw [(holds h hh).of_committed hc.committed]
    exact (leases l hl).commits hc
  committed_leased := by
    simp only [List.forall_mem_map]
    intro h hh hc
    obtain ⟨l, hl, hid⟩ := hs.committed_leased h hh ((holds h hh).committed_iff.mp hc)
    exact ⟨g l, List.mem_map_of_mem hl, by rw [(leases l hl).holdID, (holds h hh).holdID, hid]⟩
  intent_set := by
    simp only [List.forall_mem_map]
    exact fun l hl => (leases l hl).intentSet (hs.intent_set l hl)
  fence_holds := by
    simp only [List.forall_mem_map]
    intro x hx h hh hid hheld
    rw [(holds h hh).identity] at hid
    rcases List.mem_append.mp hx with hx | hx
    · rw [(holds h hh).held hheld] at hheld
      exact hs.fence_holds x hx h hh hid hheld
    · exact unheld x hx h hh hid hheld
  fence_leases := by
    simp only [List.forall_mem_map]
    intro x hx l hl hid
    rw [(leases l hl).identity] at hid
    rcases List.mem_append.mp hx with hx | hx
    · by_contra hlive
      have := (leases l hl).live (by simpa using hlive)
      rw [hs.fence_leases x hx l hl hid] at this
      cases this
    · exact unlive x hx l hl hid

/-- An inserted hold keeps the tables sound. -/
lemma Sound.hold (hs : s.Sound) {row : HoldRow} (fresh : ∀ h ∈ s.holds, h.clashes row = false)
    (unfenced : ∀ x ∈ s.fences, x.identity ≠ row.identity) (row_matches : row.Matches)
    (held : row.status = .held) : ({ s with holds := s.holds ++ [row] } : LeaseStore).Sound where
  holdID_unique := hs.holdID_unique.append fun h hh => (HoldRow.not_clashes (fresh h hh)).1
  hold_unique := hs.hold_unique.append fun h hh => (HoldRow.not_clashes (fresh h hh)).2
  leaseID_unique := hs.leaseID_unique
  lease_hold_unique := hs.lease_hold_unique
  lease_unique := hs.lease_unique
  fence_unique := hs.fence_unique
  hold_matches := by
    intro h hh
    rcases List.mem_append.mp hh with hh | hh
    · exact hs.hold_matches h hh
    · rwa [List.mem_singleton.mp hh]
  lease_matches := hs.lease_matches
  lease_commits := by
    intro l hl
    obtain ⟨h, hh, hc⟩ := hs.lease_commits l hl
    exact ⟨h, List.mem_append_left _ hh, hc⟩
  committed_leased := by
    intro h hh hc
    rcases List.mem_append.mp hh with hh | hh
    · exact hs.committed_leased h hh hc
    · rw [List.mem_singleton.mp hh, held] at hc
      cases hc
  intent_set := hs.intent_set
  fence_holds := by
    intro x hx h hh hid
    rcases List.mem_append.mp hh with hh | hh
    · exact hs.fence_holds x hx h hh hid
    · rw [List.mem_singleton.mp hh] at hid
      exact absurd hid.symm (unfenced x hx)
  fence_leases := hs.fence_leases

lemma commitMark_of_ne_held {h h' : HoldRow} {now : ℤ} (hne : h'.status ≠ .held) :
    commitMark h now h' = h' := by
  simp [commitMark, hne]

/-- A committed hold and its new lease keep the tables sound.

**Proof sketch.** The hold IDs are unique, so the mark touches the row `h` only. That row was held,
so no older lease references it, and the new lease does. -/
lemma Sound.commit (hs : s.Sound) {h : HoldRow} {row : LeaseRow} (mem : h ∈ s.holds)
    (live : h.holdsAt now = true) (fresh : ∀ l ∈ s.leases, l.clashes row = false)
    (unfenced : ∀ x ∈ s.fences, x.identity ≠ row.identity) (row_matches : row.Matches)
    (pending : row.status = .pending)
    (commits : row.Commits { h with status := .committed, updatedAtNs := now }) :
    ({ s with holds := s.holds.map (commitMark h now), leases := s.leases ++ [row] } :
      LeaseStore).Sound := by
  have hheld : h.status = .held := by
    simp only [HoldRow.holdsAt, Bool.and_eq_true, decide_eq_true_eq] at live
    exact live.1
  have hmark : commitMark h now h = { h with status := .committed, updatedAtNs := now } := by
    simp [commitMark, hheld]
  have hid : ∀ h', (commitMark h now h').holdID = h'.holdID := by
    intro h'; unfold commitMark; split <;> rfl
  have hident : ∀ h', (commitMark h now h').identity = h'.identity := by
    intro h'; unfold commitMark; split <;> rfl
  refine
    { holdID_unique := hs.holdID_unique.map fun h' _ => hid h'
      hold_unique := hs.hold_unique.map fun h' _ => hident h'
      leaseID_unique := hs.leaseID_unique.append fun l hl =>
        (LeaseRow.not_clashes (fresh l hl)).1
      lease_hold_unique := hs.lease_hold_unique.append fun l hl =>
        (LeaseRow.not_clashes (fresh l hl)).2.1
      lease_unique := hs.lease_unique.append fun l hl =>
        (LeaseRow.not_clashes (fresh l hl)).2.2
      fence_unique := hs.fence_unique
      hold_matches := ?_
      lease_matches := ?_
      lease_commits := ?_
      committed_leased := ?_
      intent_set := ?_
      fence_holds := ?_
      fence_leases := ?_ }
  · simp only [List.forall_mem_map]
    intro h' hh'
    have hm := hs.hold_matches h' hh'
    unfold commitMark
    split
    · exact ⟨hm.identity, hm.validator, hm.capacity, hm.resources⟩
    · exact hm
  · intro l hl
    rcases List.mem_append.mp hl with hl | hl
    · exact hs.lease_matches l hl
    · rwa [List.mem_singleton.mp hl]
  · intro l hl
    rcases List.mem_append.mp hl with hl | hl
    · obtain ⟨h', hh', hc⟩ := hs.lease_commits l hl
      refine ⟨commitMark h now h', List.mem_map_of_mem hh', ?_⟩
      rwa [commitMark_of_ne_held (by simp [hc.committed])]
    · rw [List.mem_singleton.mp hl]
      exact ⟨commitMark h now h, List.mem_map_of_mem mem, by rw [hmark]; exact commits⟩
  · simp only [List.forall_mem_map]
    intro h' hh' hc
    rw [hid]
    by_cases hch : h'.status = .held
    · refine ⟨row, by simp, ?_⟩
      unfold commitMark at hc
      split at hc
      · rename_i hcond
        simp only [Bool.and_eq_true, beq_iff_eq] at hcond
        rw [hcond.1]
        exact commits.holdID.symm
      · rw [hch] at hc; cases hc
    · rw [commitMark_of_ne_held hch] at hc
      obtain ⟨l, hl, hlid⟩ := hs.committed_leased h' hh' hc
      exact ⟨l, List.mem_append_left _ hl, hlid⟩
  · intro l hl
    rcases List.mem_append.mp hl with hl | hl
    · exact hs.intent_set l hl
    · rw [List.mem_singleton.mp hl]
      intro hc
      rw [pending] at hc
      cases hc
  · simp only [List.forall_mem_map]
    intro x hx h' hh' hxid hst
    rw [hident] at hxid
    by_cases hch : h'.status = .held
    · exact hs.fence_holds x hx h' hh' hxid hch
    · rw [commitMark_of_ne_held hch] at hst
      exact hch hst
  · intro x hx l hl hxid
    rcases List.mem_append.mp hl with hl | hl
    · exact hs.fence_leases x hx l hl hxid
    · rw [List.mem_singleton.mp hl] at hxid
      exact absurd hxid.symm (unfenced x hx)

/-- **Every step keeps the tables sound.** -/
lemma Step.sound (hstep : Step budget now s s') (hs : s.Sound) : s'.Sound := by
  cases hstep with
  | evolve f g fs holds leases fences unheld unlive =>
    exact hs.evolve holds leases fences unheld unlive
  | hold row fresh unfenced row_matches held _ => exact hs.hold fresh unfenced row_matches held
  | commit h row mem live fresh unfenced row_matches pending commits =>
    exact hs.commit mem live fresh unfenced row_matches pending commits

end LeaseStore

end Misscomputer.Durable
