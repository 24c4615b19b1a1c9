import Misscomputer.Durable.Lifecycle
import Misscomputer.Durable.OpsStep

set_option relaxedAutoImplicit false
set_option autoImplicit false

/-!
# Renewals on the ops clock

A renewal that arrives after the lease lapsed is answered `expired` without a status being written,
so every later call derives the answer again. On the ops clock the lapse is final: decision times do
not fall, so no later `RenewLease` finds the lease before its expiry. Two answers do not repeat the
lapse, and both are meant: an exact replay of the latest applied renewal answers from the durable row,
and `Renew` of the lease lane decides at the time its caller passes.

## Main definitions

* `Durable.OpsStore.Lapsed` — a lease is over on the ops clock.

## Main results

* `Durable.OpsStore.Lapsed.run` — a lapse lasts, with the renewal and the expiry it was found at.
* `Durable.renewal_never_revives` — what every later `RenewLease` answers.
-/

namespace Misscomputer.Durable

open Sandbox Protocol

/-! ## Stages of live and dead rows -/

lemma LeaseRow.stage_of_dead {l : LeaseRow} (hi : l.IntentSet) (hdead : l.live = false) :
    l.stage.1.terminal = true := by
  cases hst : l.status with
  | pending => simp [LeaseRow.live, hst] at hdead
  | running => simp [LeaseRow.live, hst] at hdead
  | cleanup =>
    obtain ⟨intent, hintent, hterm⟩ := hi hst
    simp only [LeaseRow.stage, hst, hintent, sandboxLeaseStage]
    cases intent <;> cases hterm
    · cases l.cleanupCode <;> rfl
    · rfl
    · rfl
  | failed =>
    simp only [LeaseRow.stage, hst, sandboxLeaseStage, terminalStage]
    cases l.terminalCode <;> rfl
  | released => simp [LeaseRow.stage, hst, sandboxLeaseStage, terminalStage, Stage.terminal]
  | expired => simp [LeaseRow.stage, hst, sandboxLeaseStage, terminalStage, Stage.terminal]

lemma LeaseRow.stage_of_live {l : LeaseRow} (hlive : l.live = true) :
    l.stage.1.terminal = false := by
  simp only [LeaseRow.live, Bool.or_eq_true, decide_eq_true_eq] at hlive
  rcases hlive with hst | hst <;>
    simp [LeaseRow.stage, hst, sandboxLeaseStage, terminalStage, Stage.terminal]

/-! ## What an operation keeps of a lease it does not renew -/

/-- The row keeps its renewal and its expiry, and is not revived. -/
structure LeaseRow.KeepsTerm (l l' : LeaseRow) : Prop where
  leaseID : l'.leaseID = l.leaseID
  renewalSeq : l'.renewalSeq = l.renewalSeq
  leaseExpiresAtNs : l'.leaseExpiresAtNs = l.leaseExpiresAtNs
  dead : l.live = false → l'.live = false

lemma LeaseRow.KeepsTerm.refl (l : LeaseRow) : l.KeepsTerm l := ⟨rfl, rfl, rfl, id⟩

/-- Every row of the lease `leaseID` has a successor that keeps its term. -/
def KeepsTerms (leaseID : String) (t t' : List LeaseRow) : Prop :=
  ∀ l ∈ t, l.leaseID = leaseID → ∃ l' ∈ t', l.KeepsTerm l'

lemma KeepsTerms.refl (leaseID : String) (t : List LeaseRow) : KeepsTerms leaseID t t :=
  fun l hl _ => ⟨l, hl, .refl l⟩

lemma KeepsTerms.append (leaseID : String) (t u : List LeaseRow) : KeepsTerms leaseID t (t ++ u) :=
  fun l hl _ => ⟨l, List.mem_append_left _ hl, .refl l⟩

/-- An update keeps the terms when every row of the lease it matches does. -/
lemma KeepsTerms.updateWhere {leaseID : String} {p : LeaseRow → Bool} {f : LeaseRow → LeaseRow}
    {t : List LeaseRow} (hf : ∀ l, l.leaseID = leaseID → p l = true → l.KeepsTerm (f l)) :
    KeepsTerms leaseID t (Table.updateWhere p f t) := by
  intro l hl hid
  refine ⟨_, List.mem_map_of_mem hl, ?_⟩
  split
  · exact hf l hid ‹_›
  · exact .refl l

/-- Moving live rows to cleanup keeps every term. -/
lemma LeaseRow.keepsTerm_cleanup (l : LeaseRow) (intent : LeaseStatus) (code : Option String)
    (now : ℤ) :
    l.KeepsTerm
      { l with status := .cleanup, cleanupStatus := some intent, cleanupCode := code, updatedAtNs := now } :=
  ⟨rfl, rfl, rfl, fun _ => rfl⟩

section Leases

variable {w : Wire} {budget : Capacity} {s : LeaseStore}

/-- **An operation that is not a renewal of the lease keeps its term.**

**Proof sketch.** One case for each operation. The tables of a case are explicit; its updates write
the status and the cleanup columns, and the only update of a renewal matches another lease. -/
lemma serve_keepsTerms (hs : s.Sound) {leaseID : String} (op : LeaseOp)
    (hop : ∀ r t, op = .renew r t → r.leaseID ≠ leaseID) :
    KeepsTerms leaseID s.leases (serve w budget s op).1.leases := by
  have hsettle : ∀ {α : Type} (x : Except StoreError (α × LeaseStore)) (answer : α → LeaseAnswer),
      (∀ a s', x = .ok (a, s') → KeepsTerms leaseID s.leases s'.leases) →
      KeepsTerms leaseID s.leases (settle s x answer).1.leases := by
    intro α x answer hx
    match x, hx with
    | .ok (a, s'), hx => exact hx a s' rfl
    | .error e, _ => exact .refl leaseID s.leases
  cases op with
  | hold r now =>
    refine hsettle _ _ fun a s' h => ?_
    obtain ⟨-, -, rfl | rfl | ⟨digest, -, -, -, -, rfl⟩⟩ := hold_cases h <;> exact .refl _ _
  | replayHeldReservation r now waited =>
    refine hsettle _ _ fun a s' h => ?_
    obtain ⟨rfl, -⟩ := replay_eq_ok h
    exact .refl _ _
  | commitLease lease now =>
    refine hsettle _ _ fun a s' h => ?_
    obtain ⟨-, ⟨l, -, -, -, rfl, -⟩ | ⟨-, -, -, rfl⟩ | ⟨held, -, -, -, -, -, -, rfl⟩ |
      ⟨held, digest, -, -, -, -, -, -, -, -, -, -, -, rfl⟩⟩ := commitLease_cases h
    · exact .refl _ _
    · exact .refl _ _
    · exact .refl _ _
    · exact .append _ _ _
  | markLeaseRunning id now =>
    refine KeepsTerms.updateWhere fun l _ hp => ?_
    unfold LeaseRow.markRunning
    split
    · refine ⟨rfl, rfl, rfl, fun hdead => ?_⟩
      simp only [Bool.and_eq_true, beq_iff_eq] at hp
      simp [LeaseRow.live, hp.2] at hdead
    · exact ⟨rfl, rfl, rfl, fun _ => rfl⟩
  | beginLeaseCleanup id terminal code now =>
    refine hsettle _ _ fun a s' h => ?_
    obtain ⟨-, rfl⟩ := beginLeaseCleanup_eq_ok (map_unit_eq_ok h)
    exact .updateWhere fun l _ _ => l.keepsTerm_cleanup terminal code now
  | completeLeaseCleanup id now =>
    refine hsettle _ _ fun a s' h => ?_
    have h := map_unit_eq_ok h
    unfold completeLeaseCleanup at h
    dsimp only at h
    split at h
    · cases h
    rename_i hintent
    cases h
    intro l hl _
    refine ⟨_, List.mem_map_of_mem hl, ?_⟩
    split
    · rename_i hp
      simp only [Bool.and_eq_true, beq_iff_eq] at hp
      obtain ⟨intent, hi, ht⟩ := hs.intent_set l hl hp.2
      refine ⟨rfl, rfl, rfl, fun _ => ?_⟩
      simp only [LeaseRow.live, hi, Option.getD_some]
      cases intent <;> first | rfl | cases ht
    · exact .refl l
  | renew r now =>
    refine hsettle _ _ fun a s' h => ?_
    obtain ⟨l, -, -, -, ⟨rfl, -⟩ | ⟨rfl, -⟩ | ⟨rfl, -⟩ | ⟨-, -, -, -, rfl⟩⟩ := renew_cases h
    · exact .refl _ _
    · exact .refl _ _
    · exact .refl _ _
    · refine .updateWhere fun l' hid hp => ?_
      exact absurd ((beq_iff_eq.mp hp).symm.trans hid) (hop r now rfl)
  | release r now =>
    refine hsettle _ _ fun a s' h => ?_
    obtain ⟨rfl, -⟩ := release_eq_ok h
    exact .updateWhere fun l _ _ => l.keepsTerm_cleanup .released none now
  | sweep now => exact .updateWhere fun l _ _ => l.keepsTerm_cleanup .expired none now
  | recoverCleanup now =>
    exact .updateWhere fun l _ _ => l.keepsTerm_cleanup .failed (some "miner_restart") now

/-- A renewal decided at or after the expiry of a live lease, or of a lease that is no longer live,
keeps its term. -/
lemma renew_keepsTerms (hs : s.Sound) {r : SandboxRenewalV1} {now : ℤ} {o : SandboxOutcome}
    {s' : LeaseStore} {l : LeaseRow} (hl : l ∈ s.leases)
    (hover : l.live = false ∨ l.leaseExpiresAtNs ≤ now) (h : renew w s r now = .ok (o, s')) :
    KeepsTerms l.leaseID s.leases s'.leases := by
  obtain ⟨l', hl', -, -, ⟨rfl, -⟩ | ⟨rfl, -⟩ | ⟨rfl, -⟩ | ⟨-, hlive, hearly, -, rfl⟩⟩ := renew_cases h
  · exact .refl _ _
  · exact .refl _ _
  · exact .refl _ _
  · refine .updateWhere fun l'' hid hp => ?_
    obtain ⟨hmem', hid'⟩ := mem_of_leaseByID hl'
    have hsame : l' = l :=
      hs.leaseID_unique.eq_of_key hmem' hl (hid'.trans ((beq_iff_eq.mp hp).symm.trans hid))
    subst hsame
    rcases hover with hdead | hlate
    · rw [hdead] at hlive; cases hlive
    · omega

end Leases

/-! ## A lapse lasts -/

section Ops

variable {w : OpWire} {budget : Capacity} {s : OpsStore} {leaseID : String} {d expiry : ℤ} {seq : ℕ}

/-- The lease is over on the ops clock: it is no longer live, or a decision at `d` or later found it
at or past its expiry. -/
def OpsStore.Lapsed (s : OpsStore) (leaseID : String) (d : ℤ) (seq : ℕ) (expiry : ℤ) : Prop :=
  (∃ l ∈ s.leases.leases, l.leaseID = leaseID ∧ l.renewalSeq = seq ∧ l.leaseExpiresAtNs = expiry ∧
    (l.live = false ∨ expiry ≤ d)) ∧ ∃ c, s.clock = some c ∧ d ≤ c

namespace OpsStore

/-- A lapse lasts over a change of the tables that keeps the term of the lease. -/
lemma Lapsed.of_keepsTerms (h : s.Lapsed leaseID d seq expiry) {s' : OpsStore}
    (hkeeps : KeepsTerms leaseID s.leases.leases s'.leases.leases)
    (hclock : ClockLE s.clock s'.clock) : s'.Lapsed leaseID d seq expiry := by
  obtain ⟨⟨l, hl, hid, hseq, hexp, hover⟩, c, hc, hdc⟩ := h
  obtain ⟨l', hl', hk⟩ := hkeeps l hl hid
  obtain ⟨c', hc', hcc'⟩ := hclock c hc
  refine ⟨⟨l', hl', hk.leaseID.trans hid, hk.renewalSeq.trans hseq, hk.leaseExpiresAtNs.trans hexp, ?_⟩,
    c', hc', hdc.trans hcc'⟩
  rcases hover with hdead | hlate
  · exact .inl (hk.dead hdead)
  · exact .inr hlate

/-- A decision on the clock of a lapse is not before it. -/
lemma Lapsed.le_nowTx (h : s.Lapsed leaseID d seq expiry) (wall : ℤ) : d ≤ (nowTx s wall).1 := by
  obtain ⟨-, c, hc, hdc⟩ := h
  obtain ⟨y, hy, hcy⟩ := nowTx_mono s wall c hc
  cases hy
  exact hdc.trans hcy

/-- Every call keeps the terms of a lapsed lease, provided a `Renew` of the lease lane decides at a
time not before the lapse. -/
lemma Lapsed.keepsTerms (h : s.Lapsed leaseID d seq expiry) (hs : s.Sound) (call : OpsCall)
    (hrenew : ∀ r t, call = .lease (.renew r t) → r.leaseID = leaseID → d ≤ t) :
    KeepsTerms leaseID s.leases.leases (performOps w budget s call).1.leases.leases := by
  obtain ⟨l, hl, rfl, hseq, rfl, hover⟩ := h.1
  have hlate : ∀ t, d ≤ t → l.live = false ∨ l.leaseExpiresAtNs ≤ t := by
    intro t ht
    rcases hover with hdead | hle
    · exact .inl hdead
    · exact .inr (hle.trans ht)
  have hsame : ∀ s' : OpsStore, s'.leases = s.leases →
      KeepsTerms l.leaseID s.leases.leases s'.leases.leases := by
    intro s' heq
    rw [heq]
    exact .refl _ _
  cases call with
  | admitOp req wall =>
    simp only [performOps]
    cases hr : admitOp w s req wall with
    | error e => exact .refl _ _
    | ok a =>
      obtain ⟨a, s'⟩ := a
      have heq : s'.leases = s.leases := by
        simp only [admitOp, Except.bind_eq_ok] at hr
        obtain ⟨_, -, digest, -, hr⟩ := hr
        rw [nowTx_snd] at hr
        obtain ⟨rfl, -⟩ | ⟨rfl, -⟩ | ⟨rfl, -⟩ | ⟨-, -, -, -, hins, -⟩ := admitAt_cases hr
        · rfl
        · rfl
        · rfl
        · obtain ⟨-, rfl⟩ | ⟨-, rfl⟩ := insertOp_eq_ok hins <;> rfl
      cases a <;> exact hsame s' heq
  | lookupExec req wall =>
    simp only [performOps]
    cases hr : lookupExec w s req wall with
    | error e => exact .refl _ _
    | ok a =>
      obtain ⟨a, s'⟩ := a
      have heq : s'.leases = s.leases := by rw [lookupExec_eq_ok hr, nowTx_snd]
      cases a <;> exact hsame s' heq
  | execState execID wall =>
    refine hsame _ ?_
    change (execState s execID wall).2.leases = s.leases
    rw [execState_snd, nowTx_snd]
  | recordExecState execID state code wall =>
    simp only [performOps]
    cases hr : recordExecState s execID state code wall with
    | error e => exact .refl _ _
    | ok t =>
      refine hsame t ?_
      obtain ⟨e, -, -, ⟨-, -, rfl⟩ | ⟨-, rfl⟩⟩ := recordExecState_eq_ok hr <;>
        simp [nowTx_snd, OpsStore.setExec]
  | recordAdmittedExecEnd execID state wall =>
    simp only [performOps]
    cases hr : recordAdmittedExecEnd s execID state wall with
    | error e => exact .refl _ _
    | ok t =>
      refine hsame t.2 ?_
      obtain ⟨-, e, -, ⟨-, -, heq⟩ | ⟨-, -, heq⟩⟩ := recordAdmittedExecEnd_eq_ok hr <;>
        simp [heq, nowTx_snd]
  | renewLease r wall =>
    simp only [performOps]
    cases hr : renewLease w s r wall with
    | error e => exact .refl _ _
    | ok t =>
      simp only [renewLease, Except.bind_eq_ok] at hr
      obtain ⟨⟨o, leases⟩, hrenew, hr⟩ := hr
      rw [nowTx_snd] at hrenew hr
      cases hr
      exact renew_keepsTerms hs.leases hl (hlate _ (h.le_nowTx wall)) hrenew
  | lease op =>
    by_cases hop : ∃ r t, op = .renew r t ∧ r.leaseID = l.leaseID
    · obtain ⟨r, t, rfl, hid⟩ := hop
      change KeepsTerms _ _ (settle s.leases (renew w.toWire s.leases r t) _).1.leases
      cases hr : renew w.toWire s.leases r t with
      | error e => exact .refl _ _
      | ok a => exact renew_keepsTerms hs.leases hl (hlate t (hrenew r t rfl hid)) hr
    · exact serve_keepsTerms hs.leases op fun r t heq hid => hop ⟨r, t, heq, hid⟩

/-- **A lapse lasts**, with the renewal and the expiry it was found at. -/
lemma Lapsed.run (h : s.Lapsed leaseID d seq expiry) (hs : s.Sound) {qs : List (OpsCall × Fate)}
    (hrenew : ∀ q ∈ qs, ∀ r t, q.1 = .lease (.renew r t) → r.leaseID = leaseID → d ≤ t) :
    (Machine.run (serveOps w budget) s qs).Lapsed leaseID d seq expiry := by
  refine (Machine.run_invariant (P := fun t : OpsStore => t.Sound ∧ t.Lapsed leaseID d seq expiry)
    (fun t ht q hq => ?_) ⟨hs, h⟩).2
  obtain ⟨ht, hlapsed⟩ := ht
  have hstep : t.Step budget (Machine.next (serveOps w budget) t q) := serveOps_step ht q
  have hkeeps : KeepsTerms leaseID t.leases.leases (performOps w budget t q.1).1.leases.leases :=
    hlapsed.keepsTerms ht q.1 (hrenew q hq)
  refine ⟨hstep.sound ht, hlapsed.of_keepsTerms ?_ hstep.clock⟩
  obtain ⟨call, fate⟩ := q
  cases fate with
  | commits => exact hkeeps
  | rollsBack => exact .refl _ _
  | unreported => exact hkeeps

end OpsStore

/-- What `RenewLease` decides: `renew` at the decision time, which it reports. -/
lemma renewLease_eq_ok {r : SandboxRenewalV1} {wall : ℤ} {o : SandboxOutcome} {s' : OpsStore}
    (h : renewLease w s r wall = .ok (o, s')) :
    ∃ o' leases, renew w.toWire s.leases r (nowTx s wall).1 = .ok (o', leases) ∧
      o = { o' with observedAt := some (nowTx s wall).1 } ∧
      s' = { s with leases := leases, clock := some (nowTx s wall).1 } := by
  simp only [renewLease, Except.bind_eq_ok] at h
  obtain ⟨⟨o', leases⟩, hrenew, h⟩ := h
  rw [nowTx_snd] at hrenew h
  cases h
  exact ⟨o', leases, hrenew, rfl, rfl⟩

/-- A renewal is answered only by a `RenewLease` that returned it. -/
lemma eq_ok_of_renewed {r : SandboxRenewalV1} {wall : ℤ} {o : SandboxOutcome}
    (h : Machine.answer (serveOps w budget) s (.renewLease r wall, .commits) = .renewed o) :
    renewLease w s r wall =
      .ok (o, Machine.next (serveOps w budget) s (.renewLease r wall, .commits)) := by
  simp only [Machine.answer, Machine.next, serveOps, performOps] at h ⊢
  cases hr : renewLease w s r wall with
  | error e => rw [hr] at h; cases h
  | ok a => rw [hr] at h; cases h; rfl

/-- A terminal answer of `RenewLease` is a lapse, at its decision time and with the renewal and the
expiry of the row it was decided on. -/
lemma lapsed_of_terminal {r : SandboxRenewalV1} {wall : ℤ} {o : SandboxOutcome}
    {s' : OpsStore} (h : renewLease w s r wall = .ok (o, s')) (hterm : o.stage.terminal = true) :
    ∃ l ∈ s'.leases.leases, l.leaseID = r.leaseID ∧
      s'.Lapsed r.leaseID (nowTx s wall).1 l.renewalSeq l.leaseExpiresAtNs := by
  obtain ⟨o', leases, hrenew, rfl, rfl⟩ := renewLease_eq_ok h
  obtain ⟨l, hl, -, -, hcases⟩ := renew_cases hrenew
  obtain ⟨hmem, hid⟩ := mem_of_leaseByID hl
  have hlapsed : leases = s.leases → (l.live = false ∨ l.leaseExpiresAtNs ≤ (nowTx s wall).1) →
      ∃ l' ∈ leases.leases, l'.leaseID = r.leaseID ∧
        OpsStore.Lapsed { s with leases := leases, clock := some (nowTx s wall).1 } r.leaseID
          (nowTx s wall).1 l'.renewalSeq l'.leaseExpiresAtNs := by
    rintro rfl hover
    exact ⟨l, hmem, hid, ⟨l, hmem, hid, rfl, rfl, hover⟩, _, rfl, le_rfl⟩
  have hlive : (o'.stage, o'.errorCode) = l.stage → l.live = false := by
    intro hst
    by_contra hne
    have hnot := LeaseRow.stage_of_live (l := l) (by simpa using hne)
    rw [← hst] at hnot
    simp only at hterm hnot
    rw [hterm] at hnot
    cases hnot
  rcases hcases with ⟨heq, -, -, hst⟩ | ⟨heq, -, hdead, -⟩ | ⟨heq, -, -, hlate, -⟩ |
    ⟨-, hl', -, hst, -⟩
  · exact hlapsed heq (.inl (hlive hst))
  · exact hlapsed heq (.inl hdead)
  · exact hlapsed heq (.inr hlate)
  · rw [hlive hst] at hl'; cases hl'

/-- What `RenewLease` answers about a lease that is over on its clock: a terminal stage, or the stage
of the row to an exact replay of its latest renewal. -/
lemma renewLease_of_lapsed (hs : s.Sound) (h : s.Lapsed leaseID d seq expiry)
    {r : SandboxRenewalV1} {wall : ℤ} {o : SandboxOutcome} {s' : OpsStore}
    (hid : r.leaseID = leaseID) (hr : renewLease w s r wall = .ok (o, s')) :
    o.stage.terminal = true ∨ ∃ l ∈ s.leases.leases, l.leaseID = leaseID ∧ l.live = true ∧
      l.renewal = some r ∧ r.renewalSeq = seq ∧ (o.stage, o.errorCode) = l.stage := by
  obtain ⟨o', leases, hrenew, rfl, rfl⟩ := renewLease_eq_ok hr
  obtain ⟨l, hl, -, -, hcases⟩ := renew_cases hrenew
  obtain ⟨hmem, hlid⟩ := mem_of_leaseByID hl
  have hnow := h.le_nowTx wall
  obtain ⟨⟨l', hl', hid', rfl, rfl, hover⟩, -⟩ := h
  obtain rfl := hs.leases.leaseID_unique.eq_of_key hmem hl' (hlid.trans (hid.trans hid'.symm))
  have hdead : (o'.stage, o'.errorCode) = l.stage → l.live = false → o'.stage.terminal = true := by
    intro hst hdead
    have ht := LeaseRow.stage_of_dead (hs.leases.intent_set l hmem) hdead
    rw [← hst] at ht
    exact ht
  rcases hcases with ⟨-, hseq, hrep, hst⟩ | ⟨-, -, hd, hst⟩ | ⟨-, -, -, -, hst, -⟩ |
    ⟨-, hlive, hearly, -, -⟩
  · by_cases hlive : l.live = true
    · exact .inr ⟨l, hmem, hid', hlive, hrep, hseq, hst⟩
    · exact .inl (hdead hst (by simpa using hlive))
  · exact .inl (hdead hst hd)
  · left
    change o'.stage.terminal = true
    rw [hst]
    rfl
  · -- an applied renewal would have been decided before the expiry
    rcases hover with hd | hle
    · rw [hd] at hlive; cases hlive
    · omega

/-- **Renewal answers on the ops clock never revive a lease.** Once a `RenewLease` for a lease was
answered with a terminal stage at some decision time, and as long as `Renew` of the lease lane is not
called for that lease with an earlier time: no call changes its renewal sequence or its expiry, and
every later `RenewLease` for it that is not an error answers a terminal stage, or is an exact replay of
the latest renewal applied to a row that is still live, which answers the stage of that row.

**Proof sketch.** The answer is a lapse at its decision time (`lapsed_of_terminal`), a lapse lasts
(`OpsStore.Lapsed.run`), and on a lapsed lease `renew` has no branch left that applies a renewal
(`renewLease_of_lapsed`). -/
theorem renewal_never_revives (w : OpWire) (budget : Capacity) (before : List (OpsCall × Fate))
    (r : SandboxRenewalV1) (wall : ℤ) (o : SandboxOutcome)
    (hans : Machine.answer (serveOps w budget) (Machine.run (serveOps w budget) .empty before)
      (.renewLease r wall, .commits) = .renewed o) (hterm : o.stage.terminal = true)
    (after : List (OpsCall × Fate))
    (hcaller : ∀ q ∈ after, ∀ r' t, q.1 = .lease (.renew r' t) → r'.leaseID = r.leaseID →
      ∀ d, o.observedAt = some d → d ≤ t) :
    let s₁ := Machine.next (serveOps w budget) (Machine.run (serveOps w budget) .empty before)
      (.renewLease r wall, .commits)
    let s := Machine.run (serveOps w budget) s₁ after
    ∃ l ∈ s₁.leases.leases, ∃ l' ∈ s.leases.leases, l.leaseID = r.leaseID ∧
      l'.leaseID = r.leaseID ∧ l'.renewalSeq = l.renewalSeq ∧
      l'.leaseExpiresAtNs = l.leaseExpiresAtNs ∧
      ∀ r' wall' o', r'.leaseID = r.leaseID →
        Machine.answer (serveOps w budget) s (.renewLease r' wall', .commits) = .renewed o' →
        o'.stage.terminal = true ∨ (l'.live = true ∧ l'.renewal = some r' ∧
          r'.renewalSeq = l'.renewalSeq ∧ (o'.stage, o'.errorCode) = l'.stage) := by
  intro s₁ s
  have hsound : (Machine.run (serveOps w budget) .empty before).Sound := runOps_sound .empty before
  have hok := eq_ok_of_renewed hans
  have hstep : OpsStore.Step budget _ s₁ := serveOps_step hsound (.renewLease r wall, .commits)
  have hs₁ : s₁.Sound := hstep.sound hsound
  have hobs : o.observedAt = some (nowTx (Machine.run (serveOps w budget) .empty before) wall).1 := by
    obtain ⟨o', leases, -, rfl, -⟩ := renewLease_eq_ok hok
    rfl
  obtain ⟨l, hl, hlid, hlapsed⟩ := lapsed_of_terminal hok hterm
  have hs : s.Sound := runOps_sound hs₁ after
  have hlapsed : s.Lapsed r.leaseID _ l.renewalSeq l.leaseExpiresAtNs :=
    OpsStore.Lapsed.run hlapsed hs₁ fun q hq r' t heq hid => hcaller q hq r' t heq hid _ hobs
  obtain ⟨⟨l', hl', hid', hseq', hexp', -⟩, -⟩ := id hlapsed
  refine ⟨l, hl, l', hl', hlid, hid', hseq', hexp', fun r' wall' o' hid ho' => ?_⟩
  rcases renewLease_of_lapsed hs hlapsed hid (eq_ok_of_renewed ho') with ht |
    ⟨l'', hl'', hid'', hlive, hrep, hseq, hst⟩
  · exact .inl ht
  · obtain rfl := hs.leases.leaseID_unique.eq_of_key hl'' hl' (hid''.trans hid'.symm)
    exact .inr ⟨hlive, hrep, hseq.trans hseq'.symm, hst⟩

end Ops

/-! ## Renewals of the sample lease -/

namespace Sample

open Protocol.Sample

variable {c : Char} {validator : String}

/-- The calls that lead to the running sample lease. -/
def opsStartup (c : Char) (validator : String) (expires : ℤ) : List (OpsCall × Fate) :=
  (startup c validator expires).map fun op => (.lease op, .commits)

lemma runOps_leases (w : OpWire) (b : Capacity) (s : OpsStore) (ops : List LeaseOp) :
    Machine.run (serveOps w b) s (ops.map fun op => (.lease op, .commits)) =
      { s with leases := Machine.run (serve w.toWire b) s.leases ops } := by
  induction ops generalizing s with
  | nil => rfl
  | cons op ops ih =>
    rw [List.map_cons, Machine.run_cons, ih]
    rfl

/-- The running sample lease in a store with ops enabled. -/
lemma runOps_startup (hc : hexDigit c = true) (hv : validator ≠ "") {expires : ℤ} (h0 : 3 < expires)
    (h1 : expires ≤ maxLeaseWindow) :
    Machine.run (serveOps opWire budget) .empty (opsStartup c validator expires) =
      ⟨running c validator expires, [], [], none⟩ := by
  have hrun : Machine.run (serve opWire.toWire budget) LeaseStore.empty (startup c validator expires) =
      running c validator expires := run_startup hc hv h0 h1
  rw [opsStartup, runOps_leases]
  exact congrArg (fun l : LeaseStore => (⟨l, [], [], none⟩ : OpsStore)) hrun

/-- The sample lease until time 100, renewed at time 5 until time 200. -/
def renewedRow (c : Char) (validator : String) : LeaseRow :=
  { leaseRow c validator 100 with
    leaseExpiresAtNs := 200
    renewalSeq := 1
    renewal := some (renewal c validator 1 4 200)
    updatedAtNs := 5 }

def renewed (c : Char) (validator : String) : LeaseStore :=
  { running c validator 100 with leases := [renewedRow c validator] }

lemma leaseByID_running : (running c validator 100).leaseByID (leaseID c) =
    some (leaseRow c validator 100) := by
  have hid : (leaseRow c validator 100).leaseID = leaseID c := rfl
  simp [LeaseStore.leaseByID, running, hid]

lemma leaseByID_renewed : (renewed c validator).leaseByID (leaseID c) =
    some (renewedRow c validator) := by
  have hid : (renewedRow c validator).leaseID = leaseID c := rfl
  simp [LeaseStore.leaseByID, renewed, hid]

lemma first_valid (hc : hexDigit c = true) (hv : validator ≠ "") :
    (renewal c validator 1 4 200).validate wire = .ok () :=
  renewal_valid hc hv (by decide) (by decide) (by decide)

lemma second_valid (hc : hexDigit c = true) (hv : validator ≠ "") :
    (renewal c validator 2 150 300).validate wire = .ok () :=
  renewal_valid hc hv (by decide) (by decide) (by decide)

/-- The first renewal, in time. -/
lemma renew_first (hc : hexDigit c = true) (hv : validator ≠ "") :
    renew wire (running c validator 100) (renewal c validator 1 4 200) 5 =
      .ok (finish (renewed c validator) 5
        { stage := .ready, leaseID := some (leaseID c), renewalSeq := 1 }) := by
  have hexp : unixNano (renewal c validator 1 4 200).leaseExpiresAt = 200 := rfl
  have hid : (leaseRow c validator 100).leaseID = (renewal c validator 1 4 200).leaseID := rfl
  rw [renew_extends (first_valid hc hv) leaseByID_running ⟨rfl, rfl, rfl, rfl⟩ Nat.zero_lt_one rfl
    (show (5 : ℤ) < 100 by decide) (by rw [hexp]; exact (show (100 : ℤ) < 200 by decide))
    (show 1 < 2 ^ 63 by decide), hexp]
  simp only [running, Table.updateWhere, List.map_cons, List.map_nil, hid, BEq.rfl, if_true]
  rfl

/-- The second renewal, after the lease lapsed. -/
lemma renew_late (hc : hexDigit c = true) (hv : validator ≠ "") :
    renew wire (renewed c validator) (renewal c validator 2 150 300) 250 =
      .ok (finish (renewed c validator) 250
        { stage := .expired, leaseID := some (leaseID c), renewalSeq := 1 }) :=
  renew_lapses (second_valid hc hv) leaseByID_renewed ⟨rfl, rfl, rfl, rfl⟩ Nat.one_lt_two rfl
    (show (200 : ℤ) ≤ 250 by decide)

/-- The first renewal again, after the lease lapsed. -/
lemma renew_again (hc : hexDigit c = true) (hv : validator ≠ "") :
    renew wire (renewed c validator) (renewal c validator 1 4 200) 251 =
      .ok (finish (renewed c validator) 251
        { stage := .ready, leaseID := some (leaseID c), renewalSeq := 1 }) :=
  renew_replays (first_valid hc hv) leaseByID_renewed ⟨rfl, rfl, rfl, rfl⟩ rfl rfl

/-- The second renewal, at a time its caller read before the lapse. -/
lemma renew_caller_time (hc : hexDigit c = true) (hv : validator ≠ "") :
    renew wire (renewed c validator) (renewal c validator 2 150 300) 150 =
      .ok (finish
        { renewed c validator with
          leases := [{ renewedRow c validator with
            renewalSeq := 2
            leaseExpiresAtNs := 300
            renewal := some (renewal c validator 2 150 300)
            updatedAtNs := 150 }] } 150
        { stage := .ready, leaseID := some (leaseID c), renewalSeq := 2 }) := by
  have hexp : unixNano (renewal c validator 2 150 300).leaseExpiresAt = 300 := rfl
  have hid : (renewedRow c validator).leaseID = (renewal c validator 2 150 300).leaseID := rfl
  rw [renew_extends (second_valid hc hv) leaseByID_renewed ⟨rfl, rfl, rfl, rfl⟩ Nat.one_lt_two rfl
    (show (150 : ℤ) < 200 by decide) (by rw [hexp]; exact (show (200 : ℤ) < 300 by decide))
    (show 2 < 2 ^ 63 by decide), hexp]
  simp only [renewed, Table.updateWhere, List.map_cons, List.map_nil, hid, BEq.rfl, if_true]
  rfl

/-- `RenewLease` of the sample store, from the `renew` it decides by. -/
lemma serve_renewLease {leases leases' : LeaseStore} {clock : Option ℤ} {wall : ℤ}
    {r : SandboxRenewalV1} {o : SandboxOutcome} (hclock : ∀ x, clock = some x → x < wall)
    (h : renew wire leases r wall = .ok (o, leases')) :
    serveOps opWire budget ⟨leases, [], [], clock⟩ (.renewLease r wall, .commits) =
      (⟨leases', [], [], some wall⟩, .renewed { o with observedAt := some wall }) := by
  have hnow : nowTx ⟨leases, [], [], clock⟩ wall = (wall, ⟨leases, [], [], some wall⟩) := by
    cases clock with
    | none => rfl
    | some x => simp [nowTx, hclock x rfl]
  have hrenew : renew opWire.toWire leases r wall = .ok (o, leases') := h
  simp only [serveOps, performOps, renewLease, hnow, hrenew, bind, Except.bind, Except.map, settleOps]

/-- The sample lease is started and renewed at time 5. -/
def renewedRun (c : Char) (validator : String) : List (OpsCall × Fate) :=
  opsStartup c validator 100 ++ [(.renewLease (renewal c validator 1 4 200) 5, .commits)]

lemma runOps_renewed (hc : hexDigit c = true) (hv : validator ≠ "") :
    Machine.run (serveOps opWire budget) .empty (renewedRun c validator) =
      ⟨renewed c validator, [], [], some 5⟩ := by
  rw [renewedRun, Machine.run_append, runOps_startup hc hv (by decide) (by decide), Machine.run_cons,
    Machine.run_nil, Machine.next, serve_renewLease (by simp) (renew_first hc hv)]

/-- The late renewal is answered `expired`, and writes the clock only. -/
lemma serve_late (hc : hexDigit c = true) (hv : validator ≠ "") :
    ∃ o, Machine.answer (serveOps opWire budget)
        (Machine.run (serveOps opWire budget) .empty (renewedRun c validator))
        (.renewLease (renewal c validator 2 150 300) 250, .commits) = .renewed o ∧
      o.stage = .expired ∧
      Machine.next (serveOps opWire budget)
        (Machine.run (serveOps opWire budget) .empty (renewedRun c validator))
        (.renewLease (renewal c validator 2 150 300) 250, .commits) =
        ⟨renewed c validator, [], [], some 250⟩ := by
  rw [runOps_renewed hc hv, Machine.answer, Machine.next,
    serve_renewLease (by simp) (renew_late hc hv)]
  exact ⟨_, rfl, rfl, rfl⟩

/-- The first renewal answers `ready` again. -/
lemma serve_again (hc : hexDigit c = true) (hv : validator ≠ "") :
    ∃ o, Machine.answer (serveOps opWire budget) ⟨renewed c validator, [], [], some 250⟩
        (.renewLease (renewal c validator 1 4 200) 251, .commits) = .renewed o ∧ o.stage = .ready := by
  rw [Machine.answer, serve_renewLease (by simp) (renew_again hc hv)]
  exact ⟨_, rfl, rfl⟩

lemma renewalSeqs (c : Char) (validator : String) (clock : Option ℤ) :
    (⟨renewed c validator, [], [], clock⟩ : OpsStore).leases.leases.map (·.renewalSeq) = [1] := rfl

/-- `Renew` at its caller's time is applied after the lapse. -/
lemma next_caller_time (hc : hexDigit c = true) (hv : validator ≠ "") :
    (Machine.next (serveOps opWire budget) ⟨renewed c validator, [], [], some 250⟩
      (.lease (.renew (renewal c validator 2 150 300) 150), .commits)).leases.leases.map
      (·.renewalSeq) = [2] := by
  have hcaller : renew opWire.toWire (renewed c validator) (renewal c validator 2 150 300) 150 = _ :=
    renew_caller_time hc hv
  simp only [Machine.next, serveOps, performOps, serve, hcaller, settle, finish, List.map_cons,
    List.map_nil]

end Sample

/-- **A late renewal is answered `expired`, and the lease is answered `ready` again** to an exact
replay of the renewal before it; and a `Renew` at a time its caller read before the lapse still
extends the lease. -/
theorem late_renewal_not_final :
    let step := serveOps Protocol.Sample.opWire Protocol.Sample.budget
    let s := Machine.run step .empty (Sample.renewedRun 'a' "v")
    let s₁ := Machine.next step s (.renewLease (Protocol.Sample.renewal 'a' "v" 2 150 300) 250, .commits)
    (∃ o, Machine.answer step s
        (.renewLease (Protocol.Sample.renewal 'a' "v" 2 150 300) 250, .commits) = .renewed o ∧
      o.stage = .expired) ∧
    (∃ o, Machine.answer step s₁
        (.renewLease (Protocol.Sample.renewal 'a' "v" 1 4 200) 251, .commits) = .renewed o ∧
      o.stage = .ready) ∧
    s₁.leases.leases.map (·.renewalSeq) = [1] ∧
    (Machine.next step s₁
        (.lease (.renew (Protocol.Sample.renewal 'a' "v" 2 150 300) 150), .commits)).leases.leases.map
      (·.renewalSeq) = [2] := by
  intro step s s₁
  have hc : hexDigit 'a' = true := by decide
  have hv : "v" ≠ "" := by decide
  obtain ⟨o, hans, hst, hs₁⟩ := Sample.serve_late hc hv
  refine ⟨⟨o, hans, hst⟩, ?_, ?_, ?_⟩
  · simp only [s₁, s, step, hs₁]
    exact Sample.serve_again hc hv
  · simp only [s₁, s, step, hs₁]
    exact Sample.renewalSeqs 'a' "v" (some 250)
  · simp only [s₁, s, step, hs₁]
    exact Sample.next_caller_time hc hv

/-- A late renewal of the sample lease, followed by another one. -/
theorem renewal_never_revives_late :
    ∃ o,
      Machine.answer (serveOps Protocol.Sample.opWire Protocol.Sample.budget)
          (Machine.run (serveOps Protocol.Sample.opWire Protocol.Sample.budget) .empty
            (Sample.renewedRun 'a' "v"))
          (.renewLease (Protocol.Sample.renewal 'a' "v" 2 150 300) 250, .commits) = .renewed o ∧
        o.stage.terminal = true ∧
        ∃ l ∈ (Machine.next (serveOps Protocol.Sample.opWire Protocol.Sample.budget)
            (Machine.run (serveOps Protocol.Sample.opWire Protocol.Sample.budget) .empty
              (Sample.renewedRun 'a' "v"))
            (.renewLease (Protocol.Sample.renewal 'a' "v" 2 150 300) 250, .commits)).leases.leases,
          ∃ l' ∈ (Machine.run (serveOps Protocol.Sample.opWire Protocol.Sample.budget)
              (Machine.next (serveOps Protocol.Sample.opWire Protocol.Sample.budget)
                (Machine.run (serveOps Protocol.Sample.opWire Protocol.Sample.budget) .empty
                  (Sample.renewedRun 'a' "v"))
                (.renewLease (Protocol.Sample.renewal 'a' "v" 2 150 300) 250, .commits))
              [(.renewLease (Protocol.Sample.renewal 'a' "v" 2 150 300) 260, .commits)]).leases.leases,
            l'.renewalSeq = l.renewalSeq ∧ l'.leaseExpiresAtNs = l.leaseExpiresAtNs := by
  obtain ⟨o, hans, hst, -⟩ := Sample.serve_late (show hexDigit 'a' = true by decide)
    (show "v" ≠ "" by decide)
  have hterm : o.stage.terminal = true := by rw [hst]; rfl
  obtain ⟨l, hl, l', hl', -, -, hseq, hexp, -⟩ := renewal_never_revives Protocol.Sample.opWire
    Protocol.Sample.budget (Sample.renewedRun 'a' "v") (Protocol.Sample.renewal 'a' "v" 2 150 300) 250 o
    hans hterm [(.renewLease (Protocol.Sample.renewal 'a' "v" 2 150 300) 260, .commits)] (by simp)
  exact ⟨o, hans, hterm, l, hl, l', hl', hseq, hexp⟩

end Misscomputer.Durable
