import Misscomputer.Durable.LeaseStep

set_option relaxedAutoImplicit false
set_option autoImplicit false

/-!
# Every lease operation is a step

Each operation of `SandboxLeases` refines `LeaseStore.Step`. What an operation answers, where a
later result needs it, is stated next to what it does to the tables.

## Main results

* `Durable.serve_step` — every operation on sound tables is a step at its decision time.
* `Durable.run_sound` — the tables are sound after every run from the empty ones.
* `Durable.hold_cases`, `Durable.commitLease_cases`, `Durable.renew_cases` — what the three
  operations with several answers do.
-/

namespace Misscomputer.Durable

open Sandbox Protocol

variable {w : Wire} {budget : Capacity} {now : ℤ} {s s' : LeaseStore}

/-! ## Updates in place -/

/-- Updating matching rows by allowed moves is a step. -/
lemma step_of_updates (hs : s.Sound) (p : HoldRow → Bool) (f : HoldRow → HoldRow)
    (q : LeaseRow → Bool) (g : LeaseRow → LeaseRow)
    (hf : ∀ h ∈ s.holds, p h = true → h.Evolves (f h))
    (hg : ∀ l ∈ s.leases, q l = true → l.Evolves (g l)) :
    s.Step budget now
      ⟨Table.updateWhere p f s.holds, Table.updateWhere q g s.leases, s.fences⟩ := by
  have hstep : s.Step budget now
      ⟨Table.updateWhere p f s.holds, Table.updateWhere q g s.leases, s.fences ++ []⟩ := by
    refine .evolve s _ _ [] (fun h hh => ?_) (fun l hl => ?_) (by simpa using hs.fence_unique)
      (by simp) (by simp)
    · split
      · exact hf h hh ‹_›
      · exact .same h
    · split
      · exact hg l hl ‹_›
      · exact .same l
  simpa using hstep

/-- No row of the lease table matches the update. -/
lemma updateWhere_false {α : Type} (f : α → α) (t : List α) :
    Table.updateWhere (fun _ => false) f t = t := by
  simp [Table.updateWhere]

/-- Giving up held rows is a step. -/
lemma step_setHolds (hs : s.Sound) {p : HoldRow → Bool} {status : HoldStatus} {at' : ℤ}
    (hp : ∀ h ∈ s.holds, p h = true → h.status = .held)
    (hst : status = .expired ∨ status = .released) : s.Step budget now (s.setHolds p status at') := by
  have h : s.Step budget now ⟨_, Table.updateWhere (fun _ => false) id s.leases, s.fences⟩ :=
    step_of_updates hs p _ (fun _ => false) id
      (fun h hh hph => .giveUp h status at' (hp h hh hph) hst) (by simp)
  rw [updateWhere_false] at h
  exact h

/-- Updating lease rows by allowed moves is a step. -/
lemma step_updateLeases (hs : s.Sound) {q : LeaseRow → Bool} {g : LeaseRow → LeaseRow}
    (hg : ∀ l ∈ s.leases, q l = true → l.Evolves (g l)) :
    s.Step budget now { s with leases := Table.updateWhere q g s.leases } := by
  have h : s.Step budget now ⟨Table.updateWhere (fun _ => false) id s.holds, _, s.fences⟩ :=
    step_of_updates hs (fun _ => false) id q g (by simp) hg
  rw [updateWhere_false] at h
  exact h

/-! ## Reading rows -/

lemma mem_of_holdOf {id : Identity} {h : HoldRow} (hh : s.holdOf id = some h) :
    h ∈ s.holds ∧ h.identity = id :=
  ⟨List.mem_of_find?_eq_some hh, by simpa using List.find?_some hh⟩

lemma mem_of_leaseOf {id : Identity} {l : LeaseRow} (hl : s.leaseOf id = some l) :
    l ∈ s.leases ∧ l.identity = id :=
  ⟨List.mem_of_find?_eq_some hl, by simpa using List.find?_some hl⟩

lemma mem_of_leaseByID {leaseID : String} {l : LeaseRow} (hl : s.leaseByID leaseID = some l) :
    l ∈ s.leases ∧ l.leaseID = leaseID :=
  ⟨List.mem_of_find?_eq_some hl, by simpa using List.find?_some hl⟩

lemma leaseOf_eq_none {id : Identity} (h : s.leaseOf id = none) :
    ∀ l ∈ s.leases, l.identity ≠ id := by
  simpa [LeaseStore.leaseOf] using h

lemma fenceOf_eq_none {id : Identity} (h : s.fenceOf id = none) :
    ∀ x ∈ s.fences, x.identity ≠ id := by
  simpa [LeaseStore.fenceOf] using h

/-- The answer of the fence check: no fence, or one by the same validator. -/
lemma sandboxFencedTx_eq_ok {id : Identity} {validator : String} {b : Bool}
    (h : sandboxFencedTx s id validator = .ok b) :
    (b = false ∧ s.fenceOf id = none) ∨
      (b = true ∧ ∃ x, s.fenceOf id = some x ∧ x.validatorHotkey = validator) := by
  unfold sandboxFencedTx at h
  split at h
  · exact .inl ⟨by cases h; rfl, ‹_›⟩
  · split at h
    · cases h
    · rename_i x hx hv
      exact .inr ⟨by cases h; rfl, x, hx, by simpa using hv⟩

lemma check_eq_ok {x : Except String Unit} {u : Unit} (h : check x = .ok u) : x = .ok () := by
  cases x with
  | ok _ => rfl
  | error e => cases h

lemma digestOf_eq_ok {x : Option String} {d : String} (h : digestOf x = .ok d) : x = some d := by
  cases x with
  | none => cases h
  | some d' => cases h; rfl

/-- An answer closed by `finish` reports the tables it leaves. -/
lemma finish_eq_ok {t : LeaseStore} {a o : SandboxOutcome}
    (h : (.ok (finish t now a) : Except StoreError (SandboxOutcome × LeaseStore)) = .ok (o, s')) :
    s' = t ∧ o = { a with held := (sandboxOccupancyTx t now).1
                          active := (sandboxOccupancyTx t now).2 } := by
  simp only [finish, Except.ok.injEq, Prod.mk.injEq] at h
  exact ⟨h.2.symm, h.1.symm⟩

/-! ## Holds -/

/-- The row of a reservation that passed its shape check carries it. -/
lemma holdRow_matches {r : SandboxReservationV1} {digest : String} (h : r.validate w = .ok ()) :
    (holdRow r digest now).Matches :=
  ⟨rfl, rfl, rfl, SandboxReservationV1.validate_resources h⟩

lemma insertHold_eq_ok {row : HoldRow} (h : insertHold s row = .ok s') :
    (∀ h ∈ s.holds, h.clashes row = false) ∧ s' = { s with holds := s.holds ++ [row] } := by
  unfold insertHold at h
  split at h
  · cases h
  · rename_i hclash
    exact ⟨by simpa using hclash, by cases h; rfl⟩

lemma insertLease_eq_ok {row : LeaseRow} (h : insertLease s row = .ok s') :
    (∀ l ∈ s.leases, l.clashes row = false) ∧ s' = { s with leases := s.leases ++ [row] } := by
  unfold insertLease at h
  split at h
  · cases h
  · rename_i hclash
    exact ⟨by simpa using hclash, by cases h; rfl⟩

/-- **What `Hold` does**: it answers and changes nothing, or gives up the expired hold of the
reservation, or inserts the hold of an unfenced identity whose resources fit. -/
lemma hold_cases {r : SandboxReservationV1} {o : SandboxOutcome}
    (h : hold w budget s r now = .ok (o, s')) :
    (o.held, o.active) = sandboxOccupancyTx s' now ∧ o.start = false ∧
    (s' = s ∨
      s' = s.setHolds (fun h => h.holdID == sandboxHoldIDV1 r && h.status == .held) .expired now ∨
      ∃ digest, r.validate w = .ok () ∧ s.fenceOf r.identity = none ∧
        (∀ h ∈ s.holds, h.clashes (holdRow r digest now) = false) ∧
        (((sandboxOccupancyTx s now).1.plus (sandboxOccupancyTx s now).2).add r.resources).within
          budget = true ∧
        s' = { s with holds := s.holds ++ [holdRow r digest now] }) := by
  simp only [hold, Except.bind_eq_ok] at h
  obtain ⟨_, hv, digest, -, _, -, fenced, hf, h⟩ := h
  split at h
  · obtain ⟨rfl, rfl⟩ := finish_eq_ok h
    exact ⟨rfl, rfl, .inl rfl⟩
  split at h
  · -- the identity has a hold already
    split at h
    · cases h
    split at h
    · obtain ⟨rfl, rfl⟩ := finish_eq_ok h
      exact ⟨rfl, rfl, .inl rfl⟩
    split at h
    · obtain ⟨rfl, rfl⟩ := finish_eq_ok h
      exact ⟨rfl, rfl, .inl rfl⟩
    · obtain ⟨rfl, rfl⟩ := finish_eq_ok h
      exact ⟨rfl, rfl, .inr (.inl rfl)⟩
  · split at h
    · obtain ⟨rfl, rfl⟩ := finish_eq_ok h
      exact ⟨rfl, rfl, .inl rfl⟩
    split at h
    · obtain ⟨rfl, rfl⟩ := finish_eq_ok h
      exact ⟨rfl, rfl, .inl rfl⟩
    · rename_i hfits
      simp only [Except.bind_eq_ok] at h
      obtain ⟨t, ht, h⟩ := h
      obtain ⟨rfl, rfl⟩ := finish_eq_ok h
      obtain ⟨hclash, rfl⟩ := insertHold_eq_ok ht
      rcases sandboxFencedTx_eq_ok hf with ⟨-, hnone⟩ | ⟨rfl, -⟩
      · exact ⟨rfl, rfl, .inr (.inr ⟨digest, check_eq_ok hv, hnone, hclash, by simpa using hfits,
          rfl⟩)⟩
      · simp at *

lemma hold_step (hs : s.Sound) {r : SandboxReservationV1} {o : SandboxOutcome}
    (h : hold w budget s r now = .ok (o, s')) : s.Step budget now s' := by
  obtain ⟨-, -, rfl | rfl | ⟨digest, hv, hnone, hfresh, hfits, rfl⟩⟩ := hold_cases h
  · exact .refl hs
  · exact step_setHolds hs (fun h _ hp => by simp at hp; exact hp.2) (.inl rfl)
  · exact .hold s _ hfresh (fenceOf_eq_none hnone) (holdRow_matches hv) rfl hfits

/-- `ReplayHeldReservation` writes nothing. -/
lemma replay_eq_ok {r : SandboxReservationV1} {waited : ℤ} {o : SandboxOutcome}
    (h : replayHeldReservation w s r now waited = .ok (o, s')) :
    s' = s ∧ o.start = false ∧ (o.held, o.active) = sandboxOccupancyTx s' (now + waited) := by
  simp only [replayHeldReservation, Except.bind_eq_ok] at h
  obtain ⟨_, -, _, -, _, -, h⟩ := h
  split at h
  · cases h
  split at h
  · cases h
  simp only [Except.bind_eq_ok] at h
  obtain ⟨fenced, -, h⟩ := h
  split at h
  · cases h
  split at h
  · cases h
  split at h
  · obtain ⟨rfl, rfl⟩ := finish_eq_ok h
    exact ⟨rfl, rfl, rfl⟩
  split at h
  · cases h
  · obtain ⟨rfl, rfl⟩ := finish_eq_ok h
    exact ⟨rfl, rfl, rfl⟩

/-! ## Leases -/

/-- **What `CommitLease` does**: it answers the lease the identity has, fails and at most gives up
the expired hold, or turns the live hold of an unfenced identity into a pending lease. -/
lemma commitLease_cases {lease : SandboxLeaseV1} {o : SandboxOutcome}
    (h : commitLease w s lease now = .ok (o, s')) :
    (o.held, o.active) = sandboxOccupancyTx s' now ∧
    ((∃ l, s.leaseOf lease.identity = some l ∧ l.leaseID = sandboxLeaseIDV1 lease ∧
        w.leaseDigest lease = some l.leaseDigest ∧ s' = s ∧ o.start = false ∧
        (o.stage, o.errorCode) = l.stage) ∨
      (s.leaseOf lease.identity = none ∧ o.start = false ∧ o.stage = .failed ∧ s' = s) ∨
      (∃ h, s.leaseOf lease.identity = none ∧ s.holdOf lease.identity = some h ∧
        o.start = false ∧ o.stage = .failed ∧ h.status ≠ .released ∧ h.status ≠ .expired ∧
        s' = s.setHolds (fun h' => h'.holdID == h.holdID) .expired now) ∨
      (∃ h digest, s.leaseOf lease.identity = none ∧ s.holdOf lease.identity = some h ∧
        s.fenceOf lease.identity = none ∧ o.start = true ∧ o.stage = .accepted ∧
        w.leaseDigest lease = some digest ∧
        sandboxLeaseCommitsReservationV1 w h.reservation lease = true ∧
        h.status ≠ .released ∧ h.status ≠ .expired ∧ now < h.holdExpiresAtNs ∧
        (∀ l ∈ s.leases, l.clashes (leaseRow lease h.holdID digest now) = false) ∧
        s' = { s.setHolds (fun h' => h'.holdID == h.holdID && h'.status == .held) .committed now with
          leases := s.leases ++ [leaseRow lease h.holdID digest now] })) := by
  simp only [commitLease, Except.bind_eq_ok] at h
  obtain ⟨_, -, digest, hd, _, -, h⟩ := h
  split at h
  · -- the identity has a lease already
    rename_i l hl
    split at h
    · cases h
    · rename_i hne
      obtain ⟨rfl, rfl⟩ := finish_eq_ok h
      simp only [not_or, not_not] at hne
      exact ⟨rfl, .inl ⟨l, hl, hne.1, by rw [digestOf_eq_ok hd, hne.2], rfl, rfl, rfl⟩⟩
  · rename_i hl
    simp only [Except.bind_eq_ok] at h
    obtain ⟨fenced, hf, h⟩ := h
    split at h
    · obtain ⟨rfl, rfl⟩ := finish_eq_ok h
      exact ⟨rfl, .inr (.inl ⟨hl, rfl, rfl, rfl⟩)⟩
    rename_i hfenced
    split at h
    · obtain ⟨rfl, rfl⟩ := finish_eq_ok h
      exact ⟨rfl, .inr (.inl ⟨hl, rfl, rfl, rfl⟩)⟩
    rename_i hrow hhold
    split at h
    · cases h
    rename_i hcommits
    split at h
    · obtain ⟨rfl, rfl⟩ := finish_eq_ok h
      exact ⟨rfl, .inr (.inl ⟨hl, rfl, rfl, rfl⟩)⟩
    rename_i hrel
    split at h
    · obtain ⟨rfl, rfl⟩ := finish_eq_ok h
      exact ⟨rfl, .inr (.inl ⟨hl, rfl, rfl, rfl⟩)⟩
    rename_i hexp
    split at h
    · obtain ⟨rfl, rfl⟩ := finish_eq_ok h
      exact ⟨rfl, .inr (.inr (.inl ⟨hrow, hl, hhold, rfl, rfl, hrel, hexp, rfl⟩))⟩
    rename_i hlive
    split at h
    · obtain ⟨rfl, rfl⟩ := finish_eq_ok h
      exact ⟨rfl, .inr (.inl ⟨hl, rfl, rfl, rfl⟩)⟩
    simp only [Except.bind_eq_ok] at h
    obtain ⟨t, ht, h⟩ := h
    obtain ⟨rfl, rfl⟩ := finish_eq_ok h
    obtain ⟨hclash, rfl⟩ := insertLease_eq_ok ht
    rcases sandboxFencedTx_eq_ok hf with ⟨-, hnone⟩ | ⟨rfl, -⟩
    · exact ⟨rfl, .inr (.inr (.inr ⟨hrow, digest, hl, hhold, hnone, rfl, rfl, digestOf_eq_ok hd,
        by simpa using hcommits, hrel, hexp, by simpa using hlive, hclash, rfl⟩))⟩
    · exact absurd rfl hfenced

/-- The hold of an identity without a lease is not committed. -/
lemma not_committed_of_leaseOf (hs : s.Sound) {id : Identity} {h : HoldRow}
    (hl : s.leaseOf id = none) (hh : s.holdOf id = some h) : h.status ≠ .committed := by
  intro hc
  obtain ⟨hmem, hid⟩ := mem_of_holdOf hh
  obtain ⟨l, hlmem, hlid⟩ := hs.lease_of_committed hmem hc
  exact leaseOf_eq_none hl l hlmem (hlid.trans hid)

/-- A hold neither committed, released nor expired is held. -/
lemma HoldStatus.eq_held {st : HoldStatus} (h1 : st ≠ .committed) (h2 : st ≠ .released)
    (h3 : st ≠ .expired) : st = .held := by
  cases st <;> simp_all

/-- The lease row of a lease that commits the hold's reservation commits the hold. -/
lemma leaseRow_commits {h : HoldRow} {lease : SandboxLeaseV1} {digest : String}
    (hm : h.Matches) (hc : sandboxLeaseCommitsReservationV1 w h.reservation lease = true) :
    (leaseRow lease h.holdID digest now).Commits
      { h with status := .committed, updatedAtNs := now } := by
  obtain ⟨hid, hres, hval⟩ := commits_spec hc
  refine ⟨rfl, ?_, ?_, ?_, hres.symm, rfl⟩
  · exact hm.identity.trans hid.symm
  · exact hm.validator.trans hval.symm
  · change h.capacity = Capacity.ofResources lease.resources
    rw [hm.capacity, hres]

lemma commitLease_step (hs : s.Sound) {lease : SandboxLeaseV1} {o : SandboxOutcome}
    (hok : commitLease w s lease now = .ok (o, s')) : s.Step budget now s' := by
  obtain ⟨-, ⟨l, -, -, -, rfl, -⟩ | ⟨-, -, -, rfl⟩ | ⟨h, hl, hh, -, -, hrel, hexp, rfl⟩ |
    ⟨h, digest, hl, hh, hnone, -, -, -, hcom, hrel, hexp, hlive, hfresh, rfl⟩⟩ :=
      commitLease_cases hok
  · exact .refl hs
  · exact .refl hs
  · obtain ⟨hmem, -⟩ := mem_of_holdOf hh
    refine step_setHolds hs (fun h' hh' hp => ?_) (.inl rfl)
    obtain rfl := hs.holdID_unique.eq_of_key hh' hmem (by simpa using hp)
    exact HoldStatus.eq_held (not_committed_of_leaseOf hs hl hh) hrel hexp
  · obtain ⟨hmem, hid⟩ := mem_of_holdOf hh
    have hheld := HoldStatus.eq_held (not_committed_of_leaseOf hs hl hh) hrel hexp
    exact .commit s h _ hmem (by simp [HoldRow.holdsAt, hheld, hlive]) hfresh
      (fenceOf_eq_none hnone) ⟨rfl, rfl, rfl⟩ rfl (leaseRow_commits (hs.hold_matches h hmem) hcom)

lemma markLeaseRunning_step (hs : s.Sound) (leaseID : String) :
    s.Step budget now (markLeaseRunning s leaseID now).2 := by
  refine step_updateLeases hs fun l _ hp => ?_
  simp only [Bool.and_eq_true, beq_iff_eq] at hp
  unfold LeaseRow.markRunning
  split
  · exact .promote l now hp.2
  · exact .cleanup l .expired l.cleanupCode now (by simp [LeaseRow.live, hp.2]) rfl

/-- Moving live leases to cleanup with a terminal intent is a step. -/
lemma step_setCleanup (hs : s.Sound) {p : LeaseRow → Bool} {intent : LeaseStatus}
    {code : Option String} {at' : ℤ} (hp : ∀ l, p l = true → l.live = true)
    (ht : intent.terminal = true) : s.Step budget now (s.setCleanup p intent code at') :=
  step_updateLeases hs fun l _ hl => .cleanup l intent code at' (hp l hl) ht

/-- `BeginLeaseCleanup` that returns has moved the live lease to cleanup with a terminal intent. -/
lemma beginLeaseCleanup_eq_ok {leaseID : String} {intent : LeaseStatus} {code : Option String}
    (h : beginLeaseCleanup s leaseID intent code now = .ok s') :
    intent.terminal = true ∧
      s' = s.setCleanup (fun l => l.leaseID == leaseID && l.live) intent code now := by
  unfold beginLeaseCleanup at h
  cases intent <;> simp only [bind, Except.bind] at h
  all_goals repeat' split at h
  all_goals first
    | (cases h; exact ⟨rfl, rfl⟩)
    | cases h

lemma beginLeaseCleanup_step (hs : s.Sound) {leaseID : String} {intent : LeaseStatus}
    {code : Option String} (h : beginLeaseCleanup s leaseID intent code now = .ok s') :
    s.Step budget now s' := by
  obtain ⟨ht, rfl⟩ := beginLeaseCleanup_eq_ok h
  exact step_setCleanup hs (fun l hl => by simp at hl; exact hl.2) ht

/-- `CompleteLeaseCleanup` that returns has closed the lease with its intent. -/
lemma completeLeaseCleanup_step (hs : s.Sound) {leaseID : String}
    (h : completeLeaseCleanup s leaseID now = .ok s') : s.Step budget now s' := by
  unfold completeLeaseCleanup at h
  dsimp only at h
  split at h
  · cases h
  cases h
  refine step_updateLeases hs fun l hl hp => ?_
  simp only [Bool.and_eq_true, beq_iff_eq] at hp
  obtain ⟨intent, hi, ht⟩ := hs.intent_set l hl hp.2
  have hst : l.cleanupStatus.getD l.status = intent := by rw [hi]; rfl
  rw [hst]
  exact .complete l intent now hp.2 hi ht

/-- **What `renew` does**: it answers an exact replay of the latest renewal or a lease that is no
longer live with the durable stage, answers a lapsed lease `expired`, or extends a live lease. -/
lemma renew_cases {r : SandboxRenewalV1} {o : SandboxOutcome}
    (h : renew w s r now = .ok (o, s')) :
    ∃ l, s.leaseByID r.leaseID = some l ∧ (o.held, o.active) = sandboxOccupancyTx s' now ∧
      o.start = false ∧
      ((s' = s ∧ r.renewalSeq = l.renewalSeq ∧ l.renewal = some r ∧
          (o.stage, o.errorCode) = l.stage) ∨
        (s' = s ∧ l.renewalSeq < r.renewalSeq ∧ l.live = false ∧
          (o.stage, o.errorCode) = l.stage) ∨
        (s' = s ∧ l.renewalSeq < r.renewalSeq ∧ l.live = true ∧ l.leaseExpiresAtNs ≤ now ∧
          o.stage = .expired ∧ o.errorCode = none) ∨
        (l.renewalSeq < r.renewalSeq ∧ l.live = true ∧ now < l.leaseExpiresAtNs ∧
          (o.stage, o.errorCode) = l.stage ∧
          s' = { s with
            leases := Table.updateWhere (fun l' => l'.leaseID == r.leaseID) (fun l' =>
              { l' with
                renewalSeq := r.renewalSeq
                leaseExpiresAtNs := unixNano r.leaseExpiresAt
                renewal := some r
                updatedAtNs := now }) s.leases })) := by
  simp only [renew, Except.bind_eq_ok] at h
  obtain ⟨_, -, h⟩ := h
  split at h
  · cases h
  rename_i l hl
  refine ⟨l, hl, ?_⟩
  split at h
  · cases h
  split at h
  · rename_i hrep
    obtain ⟨rfl, rfl⟩ := finish_eq_ok h
    exact ⟨rfl, rfl, .inl ⟨rfl, hrep.1, hrep.2, rfl⟩⟩
  split at h
  · cases h
  rename_i hne
  split at h
  · cases h
  rename_i hlt
  have hnewer : l.renewalSeq < r.renewalSeq := by omega
  split at h
  · rename_i hlive
    obtain ⟨rfl, rfl⟩ := finish_eq_ok h
    exact ⟨rfl, rfl, .inr (.inl ⟨rfl, hnewer, by simpa using hlive, rfl⟩)⟩
  rename_i hlive
  split at h
  · rename_i hlate
    obtain ⟨rfl, rfl⟩ := finish_eq_ok h
    exact ⟨rfl, rfl, .inr (.inr (.inl ⟨rfl, hnewer, by simpa using hlive, hlate, rfl, rfl⟩))⟩
  rename_i hearly
  split at h
  · cases h
  simp only [Except.bind_eq_ok] at h
  obtain ⟨_, -, h⟩ := h
  obtain ⟨rfl, rfl⟩ := finish_eq_ok h
  exact ⟨rfl, rfl, .inr (.inr (.inr ⟨hnewer, by simpa using hlive, by omega, rfl, rfl⟩))⟩

lemma renew_step (hs : s.Sound) {r : SandboxRenewalV1} {o : SandboxOutcome}
    (h : renew w s r now = .ok (o, s')) : s.Step budget now s' := by
  obtain ⟨l, hl, -, -, ⟨rfl, -⟩ | ⟨rfl, -⟩ | ⟨rfl, -⟩ | ⟨hnewer, hlive, -, -, rfl⟩⟩ := renew_cases h
  · exact .refl hs
  · exact .refl hs
  · exact .refl hs
  · obtain ⟨hmem, hid⟩ := mem_of_leaseByID hl
    refine step_updateLeases hs fun l' hl' hp => ?_
    obtain rfl := hs.leaseID_unique.eq_of_key hl' hmem (by simpa [hid] using hp)
    exact .extend l' r now hlive hnewer

/-! ## Releases and sweeps -/

/-- The fences after a release. -/
def releaseFences (s : LeaseStore) (r : SandboxReleaseV1) (now : ℤ) : List FenceRow :=
  if (s.fenceOf r.identity).isSome then [] else [⟨r.identity, sandboxValidator r.subnet, r, now⟩]

/-- The tables after a release. -/
def released (s : LeaseStore) (r : SandboxReleaseV1) (now : ℤ) : LeaseStore :=
  { holds := Table.updateWhere (fun h => h.identity == r.identity && h.status == .held)
      (fun h => { h with status := .released, updatedAtNs := now }) s.holds
    leases := Table.updateWhere (fun l => l.identity == r.identity && l.live)
      (fun l =>
        { l with
          status := .cleanup
          cleanupStatus := some .released
          cleanupCode := none
          updatedAtNs := now }) s.leases
    fences := s.fences ++ releaseFences s r now }

/-- **What `Release` does**: the identity is fenced for the release's validator, its held hold is
released and its live lease goes to cleanup. The answer names the lease, and the leases in cleanup
are returned for teardown. -/
lemma release_eq_ok {r : SandboxReleaseV1} {o : SandboxOutcome} {td : List SandboxLeaseRecord}
    (h : release w s r now = .ok ((o, td), s')) :
    s' = released s r now ∧ (o.held, o.active) = sandboxOccupancyTx s' now ∧ o.start = false ∧
      o.stage = .released ∧ r.generation < 2 ^ 63 ∧
      td = sandboxLeasesWhere (fun l => l.identity == r.identity && l.status == .cleanup) s' ∧
      (∀ x, s.fenceOf r.identity = some x → x.validatorHotkey = sandboxValidator r.subnet) := by
  simp only [release, Except.bind_eq_ok] at h
  obtain ⟨_, -, _, hg, fenced, hf, h⟩ := h
  split at h
  · cases h
  have hfences : (if (s.fenceOf r.identity).isSome then s.fences
      else s.fences ++ [⟨r.identity, sandboxValidator r.subnet, r, now⟩]) =
      s.fences ++ releaseFences s r now := by
    unfold releaseFences
    split <;> simp
  rw [hfences] at h
  simp only [finish, Except.ok.injEq, Prod.mk.injEq] at h
  obtain ⟨⟨rfl, rfl⟩, rfl⟩ := h
  refine ⟨rfl, rfl, rfl, rfl, ?_, rfl, ?_⟩
  · unfold bindUint64 at hg
    split at hg
    · assumption
    · cases hg
  · intro x hx
    rcases sandboxFencedTx_eq_ok hf with ⟨-, hnone⟩ | ⟨-, y, hy, hval⟩
    · rw [hnone] at hx; cases hx
    · rw [hy] at hx; cases hx; exact hval

/-- `Release` answers every valid document of the validator that owns the identity's rows. -/
lemma release_answers {r : SandboxReleaseV1} (hval : r.validate w = .ok ())
    (hgen : r.generation < 2 ^ 63)
    (hfence : ∀ x ∈ s.fences, x.identity = r.identity → x.validatorHotkey = sandboxValidator r.subnet)
    (hhold : ∀ h ∈ s.holds, h.identity = r.identity → h.validatorHotkey = sandboxValidator r.subnet)
    (hlease : ∀ l ∈ s.leases, l.identity = r.identity →
      l.validatorHotkey = sandboxValidator r.subnet) :
    ∃ o td s', release w s r now = .ok ((o, td), s') := by
  have hfenced : ∃ b, sandboxFencedTx s r.identity (sandboxValidator r.subnet) = .ok b := by
    unfold sandboxFencedTx
    split
    · exact ⟨_, rfl⟩
    · rename_i x hx
      have hxid : x.identity = r.identity := by simpa using List.find?_some hx
      rw [if_neg (by simp [hfence x (List.mem_of_find?_eq_some hx) hxid])]
      exact ⟨_, rfl⟩
  have hown : ¬ (ownedByOther ((s.holdOf r.identity).map (·.validatorHotkey))
        (sandboxValidator r.subnet) = true ∨
      ownedByOther ((s.leaseOf r.identity).map (·.validatorHotkey))
        (sandboxValidator r.subnet) = true) := by
    simp only [ownedByOther, Option.any_map, Option.any_eq_true, not_or, not_exists, not_and]
    refine ⟨fun h hh => ?_, fun l hl => ?_⟩
    · obtain ⟨hmem, hid⟩ := mem_of_holdOf hh
      simp [hhold h hmem hid]
    · obtain ⟨hmem, hid⟩ := mem_of_leaseOf hl
      simp [hlease l hmem hid]
  obtain ⟨b, hb⟩ := hfenced
  simp only [release, hval, check, bindUint64, if_pos hgen, hb, if_neg hown, bind, Except.bind]
  exact ⟨_, _, _, rfl⟩

lemma releaseFences_spec {r : SandboxReleaseV1} {x : FenceRow} (hx : x ∈ releaseFences s r now) :
    x.identity = r.identity ∧ s.fenceOf r.identity = none := by
  unfold releaseFences at hx
  split at hx
  · cases hx
  · rename_i hnone
    rw [List.mem_singleton.mp hx]
    exact ⟨rfl, by simpa using hnone⟩

/-- After a release the identity has no held hold. -/
lemma released_unheld {r : SandboxReleaseV1} {h : HoldRow} (hid : h.identity = r.identity) :
    (if h.identity == r.identity && h.status == .held then
      { h with status := .released, updatedAtNs := now } else h).status ≠ .held := by
  split
  · simp
  · simp_all

/-- After a release the identity has no live lease. -/
lemma released_unlive {r : SandboxReleaseV1} {l : LeaseRow} (hid : l.identity = r.identity) :
    (if l.identity == r.identity && l.live then
      { l with
        status := .cleanup
        cleanupStatus := some .released
        cleanupCode := none
        updatedAtNs := now } else l).live = false := by
  split
  · simp [LeaseRow.live]
  · simp_all

lemma release_step (hs : s.Sound) (r : SandboxReleaseV1) : s.Step budget now (released s r now) := by
  refine .evolve s _ _ (releaseFences s r now) (fun h _ => ?_) (fun l _ => ?_) ?_ ?_ ?_
  · split
    · rename_i hp
      simp only [Bool.and_eq_true, beq_iff_eq] at hp
      exact .giveUp h .released now hp.2 (.inr rfl)
    · exact .same h
  · split
    · rename_i hp
      simp only [Bool.and_eq_true] at hp
      exact .cleanup l .released none now hp.2 rfl
    · exact .same l
  · unfold releaseFences
    split
    · simpa using hs.fence_unique
    · rename_i hnone
      exact hs.fence_unique.append (fenceOf_eq_none (by simpa using hnone))
  · intro x hx h _ hid
    exact released_unheld (hid.trans (releaseFences_spec hx).1)
  · intro x hx l _ hid
    exact released_unlive (hid.trans (releaseFences_spec hx).1)

lemma cleanupWith_step (hs : s.Sound) {p : LeaseRow → Bool} {intent : LeaseStatus}
    {code : Option String} (hp : ∀ l, p l = true → l.live = true)
    (ht : intent.terminal = true) : s.Step budget now (cleanupWith s p intent code now).2 :=
  step_of_updates hs _ _ _ _
    (fun h _ hh => .giveUp h .expired now (by simp at hh; exact hh.1) (.inl rfl))
    (fun l _ hl => .cleanup l intent code now (hp l hl) ht)

/-! ## What a well-formed request gets -/

/-- Instants between 1678 and 2262 are stored as they are. -/
lemma unixNano_eq {t : ℤ} (h0 : -2 ^ 63 ≤ t) (h1 : t < 2 ^ 63) : unixNano t = t := by
  unfold unixNano
  rw [Int.bmod_eq_of_le] <;> omega

/-- `Hold` of a new identity whose resources fit inserts its hold. -/
lemma hold_accepts {r : SandboxReservationV1} {digest : String} (hval : r.validate w = .ok ())
    (hdigest : w.reservationDigest r = some digest) (hgen : r.generation < 2 ^ 63)
    (hfence : s.fenceOf r.identity = none) (hhold : s.holdOf r.identity = none)
    (hnow : now < r.holdExpiresAt)
    (hfits : (((sandboxOccupancyTx s now).1.plus (sandboxOccupancyTx s now).2).add
      r.resources).within budget = true)
    (hfresh : ∀ h ∈ s.holds, h.clashes (holdRow r digest now) = false) :
    hold w budget s r now =
      .ok (finish { s with holds := s.holds ++ [holdRow r digest now] } now { stage := .held }) := by
  have hclash : ¬ (s.holds.any (·.clashes (holdRow r digest now))) = true := by simpa using hfresh
  simp only [hold, hval, check, hdigest, digestOf, bindUint64, if_pos hgen, sandboxFencedTx, hfence,
    hhold, hnow, hfits, insertHold, if_neg hclash, bind, Except.bind, not_true_eq_false, if_false,
    Bool.false_eq_true]

/-- `CommitLease` of the live hold of an unfenced identity turns it into a pending lease. -/
lemma commitLease_starts {lease : SandboxLeaseV1} {digest : String} {h : HoldRow}
    (hval : lease.validate w = .ok ()) (hdigest : w.leaseDigest lease = some digest)
    (hgen : lease.generation < 2 ^ 63) (hlease : s.leaseOf lease.identity = none)
    (hfence : s.fenceOf lease.identity = none) (hhold : s.holdOf lease.identity = some h)
    (hcommits : sandboxLeaseCommitsReservationV1 w h.reservation lease = true)
    (hheld : h.holdsAt now = true) (hnow : now < lease.leaseExpiresAt)
    (hfresh : ∀ l ∈ s.leases, l.clashes (leaseRow lease h.holdID digest now) = false) :
    commitLease w s lease now =
      .ok (finish
        { s.setHolds (fun h' => h'.holdID == h.holdID && h'.status == .held) .committed now with
          leases := s.leases ++ [leaseRow lease h.holdID digest now] } now
        { stage := .accepted, leaseID := some (sandboxLeaseIDV1 lease), start := true }) := by
  have hclash : ¬ ((s.setHolds (fun h' => h'.holdID == h.holdID && h'.status == .held) .committed
      now).leases.any (·.clashes (leaseRow lease h.holdID digest now))) = true := by
    simpa [LeaseStore.setHolds] using hfresh
  simp only [HoldRow.holdsAt, Bool.and_eq_true, decide_eq_true_eq] at hheld
  have hlate : ¬ h.holdExpiresAtNs ≤ now := by omega
  simp only [commitLease, hval, check, hdigest, digestOf, bindUint64, if_pos hgen, sandboxFencedTx,
    hfence, hlease, hhold, hcommits, hheld.1, hlate, hnow, insertLease, if_neg hclash, bind,
    Except.bind, not_true_eq_false, if_false, Bool.false_eq_true, reduceCtorEq]
  rfl
/-- `CommitLease` of a lease that the identity has answers its durable stage. -/
lemma commitLease_answers {lease : SandboxLeaseV1} {l : LeaseRow} (hval : lease.validate w = .ok ())
    (hdigest : w.leaseDigest lease = some l.leaseDigest) (hgen : lease.generation < 2 ^ 63)
    (hlease : s.leaseOf lease.identity = some l) (hid : l.leaseID = sandboxLeaseIDV1 lease) :
    commitLease w s lease now =
      .ok (finish s now
        { stage := l.stage.1
          errorCode := l.stage.2
          leaseID := some (sandboxLeaseIDV1 lease)
          renewalSeq := l.renewalSeq }) := by
  simp only [commitLease, hval, check, hdigest, digestOf, bindUint64, if_pos hgen, hlease, hid, ne_eq,
    not_true_eq_false, or_self, if_false, bind, Except.bind]

/-- The renewal names the lease row: by ID, digest, identity and validator. -/
structure LeaseRow.NamedBy (l : LeaseRow) (r : SandboxRenewalV1) : Prop where
  leaseID : l.leaseID = r.leaseID
  leaseDigest : l.leaseDigest = r.leaseDigest
  identity : l.identity = r.identity
  validator : l.validatorHotkey = sandboxValidator r.subnet

/-- The latest renewal of a lease answers its stage again. -/
lemma renew_replays {r : SandboxRenewalV1} {l : LeaseRow} (hval : r.validate w = .ok ())
    (hl : s.leaseByID r.leaseID = some l) (hnamed : l.NamedBy r) (hseq : r.renewalSeq = l.renewalSeq)
    (hlatest : l.renewal = some r) :
    renew w s r now = .ok (finish s now
      { stage := l.stage.1, errorCode := l.stage.2, leaseID := some r.leaseID, renewalSeq := l.renewalSeq }) := by
  simp [renew, hval, check, hl, hnamed.leaseDigest, hnamed.identity, hnamed.validator, hseq, hlatest,
    bind, Except.bind]

/-- A newer renewal of a live lease that has lapsed answers `expired`. -/
lemma renew_lapses {r : SandboxRenewalV1} {l : LeaseRow} (hval : r.validate w = .ok ())
    (hl : s.leaseByID r.leaseID = some l) (hnamed : l.NamedBy r) (hnewer : l.renewalSeq < r.renewalSeq)
    (hlive : l.live = true) (hlate : l.leaseExpiresAtNs ≤ now) :
    renew w s r now = .ok (finish s now
      { stage := .expired, leaseID := some r.leaseID, renewalSeq := l.renewalSeq }) := by
  have hne : r.renewalSeq ≠ l.renewalSeq := by omega
  have hlt : ¬ r.renewalSeq < l.renewalSeq := by omega
  simp [renew, hval, check, hl, hnamed.leaseDigest, hnamed.identity, hnamed.validator, hne, hlt,
    hlive, hlate, sandboxLeaseStage, terminalStage, bind, Except.bind]

/-- A newer renewal of a live lease that extends it is applied. -/
lemma renew_extends {r : SandboxRenewalV1} {l : LeaseRow} (hval : r.validate w = .ok ())
    (hl : s.leaseByID r.leaseID = some l) (hnamed : l.NamedBy r) (hnewer : l.renewalSeq < r.renewalSeq)
    (hlive : l.live = true) (hearly : now < l.leaseExpiresAtNs)
    (hextends : l.leaseExpiresAtNs < unixNano r.leaseExpiresAt) (hseq : r.renewalSeq < 2 ^ 63) :
    renew w s r now = .ok (finish
      { s with
        leases := Table.updateWhere (fun l' => l'.leaseID == r.leaseID) (fun l' =>
          { l' with
            renewalSeq := r.renewalSeq
            leaseExpiresAtNs := unixNano r.leaseExpiresAt
            renewal := some r
            updatedAtNs := now }) s.leases } now
      { stage := l.stage.1
        errorCode := l.stage.2
        leaseID := some r.leaseID
        renewalSeq := r.renewalSeq }) := by
  have hne : r.renewalSeq ≠ l.renewalSeq := by omega
  have hlt : ¬ r.renewalSeq < l.renewalSeq := by omega
  have hlate : ¬ l.leaseExpiresAtNs ≤ now := by omega
  have hext : ¬ unixNano r.leaseExpiresAt ≤ l.leaseExpiresAtNs := by omega
  simp only [renew, hval, check, hl, hnamed.leaseDigest, hnamed.identity, hnamed.validator, hne, hlt,
    hlive, hlate, hext, bindUint64, if_pos hseq, bind, Except.bind, ne_eq, not_true_eq_false, or_self,
    if_false, false_and]

/-! ## Every call -/

lemma settle_step {α : Type} (hs : s.Sound) {x : Except StoreError (α × LeaseStore)}
    {answer : α → LeaseAnswer} (hx : ∀ a s', x = .ok (a, s') → s.Step budget now s') :
    s.Step budget now (settle s x answer).1 := by
  match x, hx with
  | .ok (a, s'), hx => exact hx a s' rfl
  | .error e, _ => exact .refl hs

/-- An outcome is answered only by an operation that returned it. -/
lemma eq_ok_of_outcome {x : Except StoreError (SandboxOutcome × LeaseStore)} {o : SandboxOutcome}
    (h : (settle s x .outcome).2 = .outcome o) : x = .ok (o, (settle s x .outcome).1) := by
  match x, h with
  | .ok (a, s'), h => cases h; rfl
  | .error e, h => cases h

/-- A release is answered only by an operation that returned it. -/
lemma eq_ok_of_released
    {x : Except StoreError ((SandboxOutcome × List SandboxLeaseRecord) × LeaseStore)}
    {o : SandboxOutcome} {td : List SandboxLeaseRecord}
    (h : (settle s x fun a => .released a.1 a.2).2 = .released o td) :
    x = .ok ((o, td), (settle s x fun a => .released a.1 a.2).1) := by
  match x, h with
  | .ok ((a, b), s'), h => cases h; rfl
  | .error e, h => cases h

lemma map_unit_eq_ok {x : Except StoreError LeaseStore} {u : Unit}
    (h : x.map ((), ·) = .ok (u, s')) : x = .ok s' := by
  cases x with
  | error e => cases h
  | ok t => cases h; rfl

/-- **Every call on sound tables is a step at its decision time.** -/
theorem serve_step (hs : s.Sound) (op : LeaseOp) :
    s.Step budget op.now (serve w budget s op).1 := by
  cases op with
  | hold r now => exact settle_step hs fun a s' h => hold_step hs h
  | replayHeldReservation r now waited =>
    refine settle_step hs fun a s' h => ?_
    obtain ⟨rfl, -⟩ := replay_eq_ok h
    exact .refl hs
  | commitLease lease now => exact settle_step hs fun a s' h => commitLease_step hs h
  | markLeaseRunning leaseID now => exact markLeaseRunning_step hs leaseID
  | beginLeaseCleanup leaseID terminal code now =>
    exact settle_step hs fun a s' h => beginLeaseCleanup_step hs (map_unit_eq_ok h)
  | completeLeaseCleanup leaseID now =>
    exact settle_step hs fun a s' h => completeLeaseCleanup_step hs (map_unit_eq_ok h)
  | renew r now => exact settle_step hs fun a s' h => renew_step hs h
  | release r now =>
    refine settle_step hs fun a s' h => ?_
    obtain ⟨rfl, -⟩ := release_eq_ok h
    exact release_step hs r
  | sweep now => exact cleanupWith_step hs (fun l hl => by simp at hl; exact hl.1) rfl
  | recoverCleanup now => exact cleanupWith_step hs (fun l hl => hl) rfl

/-- A call keeps the tables sound. -/
lemma serve_sound (hs : s.Sound) (op : LeaseOp) : (serve w budget s op).1.Sound :=
  (serve_step hs op).sound hs

/-- **The tables are sound after every run from sound tables.** -/
theorem run_sound (hs : s.Sound) (ops : List LeaseOp) :
    (Machine.run (serve w budget) s ops).Sound :=
  Machine.run_invariant (P := LeaseStore.Sound) (fun _ h op _ => serve_sound h op) hs

end Misscomputer.Durable
