import Misscomputer.Durable.Execs
import Misscomputer.Durable.Renewal

set_option relaxedAutoImplicit false
set_option autoImplicit false

/-!
# Definitive non-start

A lookup that finds no exec at or after the expiry of its `exec_start` settles that the exec never
started and never will. The lookup and the admission decide on the same durable high-water time, so
an admission in a later transaction decides at or after the lookup and refuses an `exec_start` whose
window has closed by then; and an admission in an earlier transaction would have left an exec row for
the lookup to find.

An op ID does not determine an op: a document for another op that carries the same nonce may have
been recorded under it, and its exact replay is answered as a replay after the lookup as before.

## Main definitions

* `Durable.OpsAnswer.decidedAt` — the decision time an answer reports.
* `Durable.CollisionFree` — no other document of a run shares the digest of a document.
* `Durable.OpsStore.Recorded` — every op row records a document that was submitted in its window.

## Main results

* `Durable.decided_in_order` — decision times never decrease in commit order.
* `Durable.non_start_definitive` — the lookup is definitive for its `exec_start`.

## References

* `pkg/durable/sandbox_ops_v1.go`, `pkg/protocol/sandbox_ops_v1.go`
-/

namespace Misscomputer.Durable

open Sandbox Protocol

section Runs

variable {w : OpWire} {budget : Capacity} {s s' : OpsStore} {wall d : ℤ}

/-! ## Decision times -/

/-- The decision time an answer reports. -/
def OpsAnswer.decidedAt : OpsAnswer → Option ℤ
  | .admission a => some a.decidedAt
  | .lookup l => some l.decidedAt
  | .execState l _ => some l.decidedAt
  | .renewed o => o.observedAt
  | .recorded | .ended _ | .lease _ | .error _ => none

lemma insertOp_clock {req : SandboxOpRequestV1} {digest : String} {now : ℤ}
    (h : insertOp s req digest now = .ok s') : s'.clock = s.clock := by
  obtain ⟨-, rfl⟩ | ⟨-, rfl⟩ := insertOp_eq_ok h <;> rfl

/-- An admission reports the time it commits. -/
lemma admitOp_clock {req : SandboxOpRequestV1} {a : SandboxOpAdmission}
    (h : admitOp w s req wall = .ok (.ok a, s')) : s'.clock = some a.decidedAt := by
  simp only [admitOp, Except.bind_eq_ok] at h
  obtain ⟨_, -, digest, -, h⟩ := h
  rw [nowTx_snd] at h
  obtain ⟨-, e, he⟩ | ⟨rfl, adm, row, ha, hd, -⟩ | ⟨rfl, adm, ha, hd, -⟩ | ⟨-, -, -, -, hins, ha⟩ :=
    admitAt_cases h
  · cases he
  · cases ha
    rw [hd]
  · cases ha
    rw [hd]
  · cases ha
    exact insertOp_clock hins

/-- A lookup reports the time it commits. -/
lemma lookupExec_decidedAt {req : SandboxOpRequestV1} {l : SandboxExecLookup}
    (h : lookupExec w s req wall = .ok (.ok l, s')) : l.decidedAt = (nowTx s wall).1 := by
  simp only [lookupExec, Except.bind_eq_ok] at h
  obtain ⟨_, -, h⟩ := h
  split at h
  · cases h
  split at h
  · cases h
  split at h
  · cases h; rfl
  split at h <;> cases h <;> rfl

lemma execState_decidedAt (s : OpsStore) (execID : String) (wall : ℤ) :
    (execState s execID wall).1.1.decidedAt = (nowTx s wall).1 := by
  unfold execState
  dsimp only
  split
  · rfl
  · split <;> rfl

/-- What an answer of a transaction comes from. -/
lemma settleOps_eq {α : Type} {x : Except StoreError (Decided α)} {answer : α → OpsAnswer}
    {b : OpsAnswer} (hb : ∀ e, b ≠ .error e)
    (h : (settleOps s x answer).2 = b) :
    ∃ a s', x = .ok (.ok a, s') ∧ answer a = b ∧ (settleOps s x answer).1 = s' := by
  match x with
  | .ok (.ok a, s') => exact ⟨a, s', rfl, h, rfl⟩
  | .ok (.error e, s') => exact absurd h.symm (hb e)
  | .error e => exact absurd h.symm (hb e)

/-- **A transaction whose answer reports a decision time commits that time.** -/
lemma performOps_decidedAt {call : OpsCall} (h : (performOps w budget s call).2.decidedAt = some d) :
    (performOps w budget s call).1.clock = some d := by
  have hne : ∀ e, (performOps w budget s call).2 ≠ .error e := by
    intro e he
    rw [he] at h
    cases h
  cases call with
  | admitOp req wall =>
    obtain ⟨a, s', hx, ha, hs'⟩ := settleOps_eq hne rfl
    rw [← ha] at h
    rw [performOps, hs', admitOp_clock hx]
    exact h
  | lookupExec req wall =>
    obtain ⟨l, s', hx, hl, hs'⟩ := settleOps_eq hne rfl
    rw [← hl] at h
    rw [performOps, hs', lookupExec_eq_ok hx, nowTx_snd, ← lookupExec_decidedAt hx]
    exact h
  | execState execID wall =>
    change (execState s execID wall).2.clock = some d
    rw [execState_snd, nowTx_snd, ← execState_decidedAt s execID wall]
    exact h
  | recordExecState execID state code wall =>
    obtain ⟨a, s', -, ha, -⟩ := settleOps_eq hne rfl
    rw [← ha] at h
    cases h
  | recordAdmittedExecEnd execID state wall =>
    obtain ⟨a, s', -, ha, -⟩ := settleOps_eq hne rfl
    rw [← ha] at h
    cases h
  | renewLease r wall =>
    obtain ⟨o, s', hx, ho, hs'⟩ := settleOps_eq hne rfl
    rw [← ho] at h
    rw [performOps, hs']
    cases hr : renewLease w s r wall with
    | error e => rw [hr] at hx; cases hx
    | ok a =>
      obtain ⟨outcome, t⟩ := a
      rw [hr] at hx
      cases hx
      obtain ⟨o', leases, -, rfl, rfl⟩ := renewLease_eq_ok hr
      exact h
  | lease op => cases h

/-- A call that reports a decision time was committed. -/
lemma serveOps_decidedAt {q : OpsCall × Fate}
    (h : (Machine.answer (serveOps w budget) s q).decidedAt = some d) :
    (Machine.next (serveOps w budget) s q).clock = some d := by
  obtain ⟨call, fate⟩ := q
  cases fate with
  | commits => exact performOps_decidedAt h
  | rollsBack => cases h
  | unreported => cases h

/-- The high-water time never falls along a run. -/
lemma runOps_clock (hs : s.Sound) (qs : List (OpsCall × Fate)) :
    ClockLE s.clock (Machine.run (serveOps w budget) s qs).clock := by
  refine Machine.run_rel (P := OpsStore.Sound) (R := fun a b : OpsStore => ClockLE a.clock b.clock)
    (fun t => .refl t.clock) (fun _ _ _ => .trans) ?_ hs
  intro t ht q _
  have hstep : t.Step budget (Machine.next (serveOps w budget) t q) := serveOps_step ht q
  exact ⟨hstep.sound ht, hstep.clock⟩

/-- **Decision times never decrease in commit order**, whatever the wall clock shows and whatever is
rolled back between two decisions. -/
lemma decided_in_order (hs : s.Sound) {q₁ q₂ : OpsCall × Fate} {mid : List (OpsCall × Fate)}
    {d₁ d₂ : ℤ} (h₁ : (Machine.answer (serveOps w budget) s q₁).decidedAt = some d₁)
    (h₂ : (Machine.answer (serveOps w budget)
      (Machine.run (serveOps w budget) (Machine.next (serveOps w budget) s q₁) mid) q₂).decidedAt =
      some d₂) : d₁ ≤ d₂ := by
  have hfirst : s.Step budget (Machine.next (serveOps w budget) s q₁) := serveOps_step hs q₁
  have hrun : ClockLE _
      (Machine.run (serveOps w budget) (Machine.next (serveOps w budget) s q₁) mid).clock :=
    runOps_clock (hfirst.sound hs) mid
  have hlast : OpsStore.Step budget _ (Machine.next (serveOps w budget)
      (Machine.run (serveOps w budget) (Machine.next (serveOps w budget) s q₁) mid) q₂) :=
    serveOps_step (runOps_sound (hfirst.sound hs) mid) q₂
  obtain ⟨y, hy, hle⟩ := (hrun.trans hlast.clock) d₁ (serveOps_decidedAt h₁)
  rw [serveOps_decidedAt h₂] at hy
  cases hy
  exact hle

/-! ## Recorded documents -/

/-- No other document admitted in the calls shares the digest of `doc`. -/
def CollisionFree (w : OpWire) (calls : List (OpsCall × Fate)) (doc : SandboxOpRequestV1) : Prop :=
  ∀ q ∈ calls, ∀ other wall, q.1 = .admitOp other wall → w.opDigest other = w.opDigest doc → other = doc

/-- An op row records a document of the calls, admitted inside its window. -/
def OpRow.Records (w : OpWire) (calls : List (OpsCall × Fate)) (o : OpRow) : Prop :=
  ∃ q ∈ calls, ∃ req wall, q.1 = .admitOp req wall ∧ w.opDigest req = some o.documentDigest ∧
    o.leaseID = req.leaseID ∧ o.op = req.op ∧ o.admittedAtNs < req.expiresAt

/-- Every op row records a document of the calls. -/
def OpsStore.Recorded (w : OpWire) (calls : List (OpsCall × Fate)) (s : OpsStore) : Prop :=
  ∀ o ∈ s.ops, o.Records w calls

/-- **What a transaction does to the op rows**: nothing, or it records the document it was called
with, at its decision time and before the document expires. -/
lemma performOps_ops (call : OpsCall) :
    (performOps w budget s call).1.ops = s.ops ∨
      ∃ req wall digest, call = .admitOp req wall ∧ w.opDigest req = some digest ∧
        (nowTx s wall).1 < req.expiresAt ∧
        (performOps w budget s call).1.ops = s.ops ++ [opRow req digest (nowTx s wall).1] := by
  have hclock : ∀ wall, (nowTx s wall).2.ops = s.ops := by
    intro wall
    rw [nowTx_snd]
  cases call with
  | admitOp req wall =>
    simp only [performOps]
    rcases hx : admitOp w s req wall with e | ⟨a, s'⟩
    · exact .inl rfl
    · have hs' : (settleOps s (.ok (a, s')) OpsAnswer.admission).1 = s' := by cases a <;> rfl
      rw [hs']
      simp only [admitOp, Except.bind_eq_ok] at hx
      obtain ⟨_, -, digest, hdigest, hx⟩ := hx
      obtain ⟨rfl, -⟩ | ⟨rfl, -⟩ | ⟨rfl, -⟩ | ⟨-, hwindow, -, -, hins, -⟩ := admitAt_cases hx
      · exact .inl (hclock wall)
      · exact .inl (hclock wall)
      · exact .inl (hclock wall)
      · refine .inr ⟨req, wall, digest, rfl, digestOf_eq_ok hdigest, hwindow, ?_⟩
        obtain ⟨-, rfl⟩ | ⟨-, rfl⟩ := insertOp_eq_ok hins <;> simp only [hclock wall]
  | lookupExec req wall =>
    left
    simp only [performOps]
    rcases hx : lookupExec w s req wall with e | ⟨a, s'⟩
    · rfl
    · have hs' : (settleOps s (.ok (a, s')) OpsAnswer.lookup).1 = s' := by cases a <;> rfl
      rw [hs', lookupExec_eq_ok hx, hclock]
  | execState execID wall =>
    left
    change (execState s execID wall).2.ops = s.ops
    rw [execState_snd, hclock]
  | recordExecState execID state code wall =>
    left
    simp only [performOps]
    cases hr : recordExecState s execID state code wall with
    | error e => rfl
    | ok t =>
      change t.ops = s.ops
      obtain ⟨e, -, -, ⟨-, -, rfl⟩ | ⟨-, rfl⟩⟩ := recordExecState_eq_ok hr <;> exact hclock wall
  | recordAdmittedExecEnd execID state wall =>
    left
    simp only [performOps]
    cases hr : recordAdmittedExecEnd s execID state wall with
    | error e => rfl
    | ok t =>
      change t.2.ops = s.ops
      obtain ⟨-, e, -, ⟨-, -, ht⟩ | ⟨-, -, ht⟩⟩ := recordAdmittedExecEnd_eq_ok hr <;> rw [ht] <;>
        exact hclock wall
  | renewLease r wall =>
    left
    simp only [performOps]
    cases hr : renewLease w s r wall with
    | error e => rfl
    | ok t =>
      change t.2.ops = s.ops
      obtain ⟨o', leases, -, -, ht⟩ := renewLease_eq_ok hr
      rw [ht]
  | lease op => exact .inl rfl

lemma serveOps_ops (q : OpsCall × Fate) :
    (Machine.next (serveOps w budget) s q).ops = s.ops ∨
      ∃ req wall digest, q.1 = .admitOp req wall ∧ w.opDigest req = some digest ∧
        (nowTx s wall).1 < req.expiresAt ∧
        (Machine.next (serveOps w budget) s q).ops =
          s.ops ++ [opRow req digest (nowTx s wall).1] := by
  obtain ⟨call, fate⟩ := q
  cases fate with
  | commits => exact performOps_ops call
  | rollsBack => exact .inl rfl
  | unreported => exact performOps_ops call

/-- Every op row of a run records a document of the run. -/
lemma runOps_recorded {calls qs : List (OpsCall × Fate)} (hqs : ∀ q ∈ qs, q ∈ calls)
    (h : s.Recorded w calls) : (Machine.run (serveOps w budget) s qs).Recorded w calls := by
  refine Machine.run_invariant (P := OpsStore.Recorded w calls) (fun t ht q hq => ?_) h
  obtain heq | ⟨req, wall, digest, hcall, hdigest, hwindow, heq⟩ := serveOps_ops (w := w) (s := t) q
  · intro o ho
    rw [heq] at ho
    exact ht o ho
  · intro o ho
    rw [heq] at ho
    rcases List.mem_append.mp ho with ho | ho
    · exact ht o ho
    · rw [List.mem_singleton.mp ho]
      exact ⟨q, hqs q hq, req, wall, hcall, hdigest, rfl, rfl, hwindow⟩

lemma OpsStore.Recorded.empty (w : OpWire) (calls : List (OpsCall × Fate)) :
    OpsStore.empty.Recorded w calls := by
  intro o ho
  cases ho

/-! ## What a lookup that found nothing excludes -/

/-- Every op row was there at the lookup or is admitted at or after its decision, and so is every
later decision. -/
def OpsStore.Since (d : ℤ) (old : List OpRow) (s : OpsStore) : Prop :=
  ClockLE (some d) s.clock ∧ ∀ o ∈ s.ops, o ∈ old ∨ d ≤ o.admittedAtNs

lemma le_nowTx (h : ClockLE (some d) s.clock) (wall : ℤ) : d ≤ (nowTx s wall).1 := by
  obtain ⟨y, hy, hle⟩ := (h.trans (nowTx_mono s wall)) d rfl
  cases hy
  exact hle

lemma runOps_since {old : List OpRow} (hs : s.Sound) (h : s.Since d old)
    (qs : List (OpsCall × Fate)) : (Machine.run (serveOps w budget) s qs).Since d old := by
  have hinv : (Machine.run (serveOps w budget) s qs).Sound ∧
      (Machine.run (serveOps w budget) s qs).Since d old := by
    refine Machine.run_invariant (P := fun t : OpsStore => t.Sound ∧ t.Since d old) ?_ ⟨hs, h⟩
    rintro t ⟨ht, hclock, hrows⟩ q -
    have hstep : t.Step budget (Machine.next (serveOps w budget) t q) := serveOps_step ht q
    refine ⟨hstep.sound ht, hclock.trans hstep.clock, fun o ho => ?_⟩
    obtain heq | ⟨req, wall, digest, -, -, -, heq⟩ := serveOps_ops (w := w) (s := t) q
    · rw [heq] at ho
      exact hrows o ho
    · rw [heq] at ho
      rcases List.mem_append.mp ho with ho | ho
      · exact hrows o ho
      · rw [List.mem_singleton.mp ho]
        exact .inr (le_nowTx hclock wall)
  exact hinv.2

/-- **What a lookup that found nothing establishes**: it read the tables as they were, no exec with
the ID it names is on its lease, and its decision is the high-water time. -/
lemma lookup_not_found {read : SandboxOpRequestV1} {l : SandboxExecLookup}
    (h : Machine.answer (serveOps w budget) s (.lookupExec read wall, .commits) = .lookup l)
    (hfound : l.found = false) (havail : l.unavailable = none) :
    read.validate w.toWire = .ok () ∧
      Machine.next (serveOps w budget) s (.lookupExec read wall, .commits) =
        { s with clock := some l.decidedAt } ∧
      ∀ execID, read.execID = some execID →
        ∀ e ∈ s.execs, e.execID = execID → e.leaseID ≠ read.leaseID := by
  obtain ⟨l', s', hx, hl', hs'⟩ := settleOps_eq (by simp) h
  cases hl'
  have hnext : Machine.next (serveOps w budget) s (.lookupExec read wall, .commits) = s' := hs'
  rw [hnext, lookupExec_eq_ok hx, lookupExec_decidedAt hx, nowTx_snd]
  simp only [lookupExec, Except.bind_eq_ok] at hx
  obtain ⟨_, hvalid, hx⟩ := hx
  refine ⟨check_eq_ok hvalid, rfl, fun execID hexec e he hid hlease => ?_⟩
  simp only [hexec, nowTx_snd] at hx
  split at hx
  · cases hx
  split at hx
  · cases hx
    cases havail
  split at hx
  · rename_i hnone
    rw [List.find?_eq_none] at hnone
    exact absurd (by simp [hid, hlease]) (hnone e he)
  · cases hx
    cases hfound

/-- **What an admission that starts or replays comes from**: a start inserts an op and its exec before
the document expires, a replay answers a row with the ID and the digest of the document. -/
lemma admission_cases {doc : SandboxOpRequestV1} {a : SandboxOpAdmission}
    (h : (performOps w budget s (.admitOp doc wall)).2 = .admission a) :
    doc.validate w.toWire = .ok () ∧
    (a.start = true → (nowTx s wall).1 < doc.expiresAt ∧ a.replay = false ∧
      ∃ e ∈ (performOps w budget s (.admitOp doc wall)).1.execs,
        e.execID = sandboxOpIDV1 doc ∧ e.leaseID = doc.leaseID) ∧
    (a.replay = true → (performOps w budget s (.admitOp doc wall)).1.execs = s.execs ∧
      ∃ o ∈ s.ops, o.opID = sandboxOpIDV1 doc ∧ w.opDigest doc = some o.documentDigest) := by
  obtain ⟨a', s', hx, ha', hs'⟩ := settleOps_eq (by simp) h
  cases ha'
  rw [performOps, hs']
  simp only [admitOp, Except.bind_eq_ok] at hx
  obtain ⟨_, hvalid, digest, hdigest, hx⟩ := hx
  rw [nowTx_snd] at hx
  refine ⟨check_eq_ok hvalid, ?_⟩
  obtain ⟨-, e, he⟩ | ⟨rfl, adm, row, ha, -, hrep, hst, hrow, hd, -⟩ | ⟨rfl, adm, ha, -, hrep, hst, -⟩ |
    ⟨-, hwindow, -, -, hins, ha⟩ := admitAt_cases hx
  · cases he
  · cases ha
    rw [hrep, hst, digestOf_eq_ok hdigest]
    obtain ⟨hmem, hid⟩ := mem_of_opByID hrow
    exact ⟨by simp, fun _ => ⟨rfl, row, hmem, hid, by rw [hd]⟩⟩
  · cases ha
    simp [hrep, hst]
  · cases ha
    refine ⟨fun hstart => ⟨hwindow, rfl, ?_⟩, by simp⟩
    simp only [decide_eq_true_eq] at hstart
    obtain ⟨hop, -⟩ | ⟨-, rfl⟩ := insertOp_eq_ok hins
    · exact absurd hstart hop
    · exact ⟨execRow doc (nowTx s wall).1, by simp, rfl, rfl⟩

/-- The row an exact replay answers was recorded for the replayed document. -/
lemma records_of_collisionFree {calls : List (OpsCall × Fate)} {doc : SandboxOpRequestV1} {o : OpRow}
    (hfree : CollisionFree w calls doc) (ho : o.Records w calls)
    (hd : w.opDigest doc = some o.documentDigest) :
    o.leaseID = doc.leaseID ∧ o.op = doc.op ∧ o.admittedAtNs < doc.expiresAt := by
  obtain ⟨q, hq, req, wall, hcall, hdigest, hlease, hop, hwindow⟩ := ho
  obtain rfl := hfree q hq req wall hcall (hdigest.trans hd.symm)
  exact ⟨hlease, hop, hwindow⟩

/-- **No admission after the lookup.** -/
lemma no_admission_after {calls after : List (OpsCall × Fate)} {read doc : SandboxOpRequestV1}
    {l : SandboxExecLookup} {wall' : ℤ} {a : SandboxOpAdmission} (hs : s.Sound)
    (h : Machine.answer (serveOps w budget) s (.lookupExec read wall, .commits) = .lookup l)
    (hfound : l.found = false) (havail : l.unavailable = none)
    (hexec : read.execID = some (sandboxOpIDV1 doc)) (hexp : doc.expiresAt ≤ l.decidedAt)
    (hrec : s.Recorded w calls) (hafter : ∀ q ∈ after, q ∈ calls)
    (ha : (performOps w budget (Machine.run (serveOps w budget)
      (Machine.next (serveOps w budget) s (.lookupExec read wall, .commits)) after)
      (.admitOp doc wall')).2 = .admission a) :
    a.start = false ∧ (CollisionFree w calls doc → a.replay = true →
      doc.op ≠ .execStart ∧ ∃ o ∈ s.ops, o.opID = sandboxOpIDV1 doc ∧
        w.opDigest doc = some o.documentDigest) := by
  obtain ⟨hread, hnext, hnone⟩ := lookup_not_found h hfound havail
  have hstep : s.Step budget (Machine.next (serveOps w budget) s (.lookupExec read wall, .commits)) :=
    serveOps_step hs _
  have hs' := hstep.sound hs
  rw [hnext] at ha hs'
  have hsince : (Machine.run (serveOps w budget) { s with clock := some l.decidedAt } after).Since
      l.decidedAt s.ops :=
    runOps_since hs' ⟨.refl _, fun o ho => .inl ho⟩ after
  have hrecorded : (Machine.run (serveOps w budget) { s with clock := some l.decidedAt }
      after).Recorded w calls := runOps_recorded hafter hrec
  obtain ⟨hdoc, hstart, hreplay⟩ := admission_cases ha
  constructor
  · -- a start would decide before the document expires, hence before the lookup
    by_contra hne
    have hlt := (hstart (by simpa using hne)).1
    have hle := le_nowTx hsince.1 wall'
    omega
  · intro hfree hrep
    obtain ⟨-, o, ho, hid, hd⟩ := hreplay hrep
    obtain ⟨hlease, hop, hwindow⟩ := records_of_collisionFree hfree (hrecorded o ho) hd
    have hold : o ∈ s.ops := by
      rcases hsince.2 o ho with hold | hlate
      · exact hold
      · omega
    refine ⟨fun hopstart => ?_, o, hold, hid, hd⟩
    -- its exec would have been there for the lookup to find
    obtain ⟨e, he, heid, helease⟩ := hs.op_exec o hold (hop.trans hopstart)
    refine hnone _ hexec e he (heid.trans hid) ?_
    rw [helease, hlease, leaseID_of_execID hread hdoc hexec]

/-- **No admission before the lookup.** -/
lemma no_admission_before {calls rest : List (OpsCall × Fate)} {read start : SandboxOpRequestV1}
    {l : SandboxExecLookup} {wall' : ℤ} {fate : Fate} {a : SandboxOpAdmission} (hs : s.Sound)
    (hfate : fate ≠ .rollsBack)
    (h : Machine.answer (serveOps w budget)
      (Machine.run (serveOps w budget) s ((.admitOp start wall', fate) :: rest))
      (.lookupExec read wall, .commits) = .lookup l)
    (hfound : l.found = false) (havail : l.unavailable = none)
    (hexec : read.execID = some (sandboxOpIDV1 start)) (hop : start.op = .execStart)
    (hrec : s.Recorded w calls) (hfree : CollisionFree w calls start)
    (ha : (performOps w budget s (.admitOp start wall')).2 = .admission a) :
    a.start = false ∧ a.replay = false := by
  obtain ⟨hread, -, hnone⟩ := lookup_not_found h hfound havail
  obtain ⟨hstart, hadmitted, hreplay⟩ := admission_cases ha
  have hnext : Machine.next (serveOps w budget) s (.admitOp start wall', fate) =
      (performOps w budget s (.admitOp start wall')).1 := by
    cases fate with
    | commits => rfl
    | rollsBack => exact absurd rfl hfate
    | unreported => rfl
  have hs' : (performOps w budget s (.admitOp start wall')).1.Sound :=
    (performOps_step (w := w) hs _).sound hs
  have hlease := leaseID_of_execID hread hstart hexec
  rw [Machine.run_cons, hnext] at hnone
  -- an exec of the admission is still there at the lookup
  have hgone : ∀ e ∈ (performOps w budget s (.admitOp start wall')).1.execs,
      e.execID = sandboxOpIDV1 start → e.leaseID ≠ start.leaseID := by
    intro e he hid hl
    obtain ⟨e', he', hf⟩ := runOps_execs (w := w) hs' rest e he
    exact hnone _ hexec e' he' (hf.execID.trans hid) (hf.leaseID.trans (hl.trans hlease.symm))
  constructor
  · by_contra hne
    obtain ⟨-, -, e, he, hid, hl⟩ := hadmitted (by simpa using hne)
    exact hgone e he hid hl
  · by_contra hne
    obtain ⟨hsame, o, ho, hid, hd⟩ := hreplay (by simpa using hne)
    obtain ⟨hl, hop', -⟩ := records_of_collisionFree hfree (hrec o ho) hd
    obtain ⟨e, he, heid, hel⟩ := hs.op_exec o ho (hop'.trans hop)
    exact hgone e (hsame ▸ he) (heid.trans hid) (hel.trans hl)

end Runs

/-- **A lookup that found no exec is definitive.** For every run of ops and lease calls from empty
tables, with any wall-clock readings and any transactions rolled back or committed unreported:

* The decision times that answers report never decrease in commit order.
* Let a lookup of the op ID of `start` find nothing on a live lease, at or after the expiry of
  `start`. No later `AdmitOp` of a document with that op ID, with the same or an earlier expiry,
  starts an exec. If it answers a replay, the document is for another op and was recorded under that
  ID before the lookup.
* If the definitive non-start rule accepts an `exec_not_found` receipt observed at that decision,
  `start` was not admitted before the lookup and is not admitted after it.

The last two parts take for granted that no other document of the run shares the SHA-256 digest of
the one in question.

**Proof sketch.** Decisions are read off the high-water time, which never falls. A later admission
decides at or after the lookup, so it cannot be inside a window that closed before it. A row under the
op ID with the digest of the document was admitted inside the window of that document, hence before
the lookup; were the document an `exec_start`, its exec would be on the lease the lookup reads. -/
theorem non_start_definitive (w : OpWire) (budget : Capacity) :
    (∀ before q₁ mid q₂ d₁ d₂,
      let s := Machine.run (serveOps w budget) .empty before
      (Machine.answer (serveOps w budget) s q₁).decidedAt = some d₁ →
      (Machine.answer (serveOps w budget)
        (Machine.run (serveOps w budget) (Machine.next (serveOps w budget) s q₁) mid) q₂).decidedAt =
        some d₂ →
      d₁ ≤ d₂) ∧
    ∀ before read wall l start after,
      let s₀ := Machine.run (serveOps w budget) .empty before
      let s := Machine.run (serveOps w budget)
        (Machine.next (serveOps w budget) s₀ (.lookupExec read wall, .commits)) after
      Machine.answer (serveOps w budget) s₀ (.lookupExec read wall, .commits) = .lookup l →
      l.found = false → l.unavailable = none → read.execID = some (sandboxOpIDV1 start) →
      start.expiresAt ≤ l.decidedAt →
      (∀ doc wall' a, sandboxOpIDV1 doc = sandboxOpIDV1 start → doc.expiresAt ≤ start.expiresAt →
        (performOps w budget s (.admitOp doc wall')).2 = .admission a →
        a.start = false ∧ (CollisionFree w (before ++ after) doc → a.replay = true →
          doc.op ≠ .execStart ∧ ∃ o ∈ s₀.ops, o.opID = sandboxOpIDV1 doc ∧
            w.opDigest doc = some o.documentDigest)) ∧
      ∀ receipt key, sandboxExecNeverStartedV1 w receipt read start key = .ok true →
        receipt.observedAt = l.decidedAt → CollisionFree w (before ++ after) start →
        (∀ earlier wall' fate rest a, before = earlier ++ (.admitOp start wall', fate) :: rest →
          fate ≠ .rollsBack →
          (performOps w budget (Machine.run (serveOps w budget) .empty earlier)
            (.admitOp start wall')).2 = .admission a →
          a.start = false ∧ a.replay = false) ∧
        ∀ wall' a, (performOps w budget s (.admitOp start wall')).2 = .admission a →
          a.start = false ∧ a.replay = false := by
  constructor
  · intro before q₁ mid q₂ d₁ d₂ s h₁ h₂
    have hs : s.Sound := runOps_sound .empty before
    exact decided_in_order hs h₁ h₂
  intro before read wall l start after s₀ s hlookup hfound havail hexec hexp
  have hs₀ : s₀.Sound := runOps_sound .empty before
  have hrec : s₀.Recorded w (before ++ after) :=
    runOps_recorded (fun q hq => List.mem_append_left _ hq) (.empty w _)
  have hafter : ∀ q ∈ after, q ∈ before ++ after := fun q hq => List.mem_append_right _ hq
  refine ⟨fun doc wall' a hid hle ha => ?_, fun receipt key hnever hobs hfree => ⟨?_, ?_⟩⟩
  · exact no_admission_after hs₀ hlookup hfound havail (hid ▸ hexec) (hle.trans hexp) hrec hafter ha
  · intro earlier wall' fate rest a hsplit hfate ha
    obtain ⟨-, -, hop, -⟩ := sandboxExecNeverStartedV1_spec hnever
    have hsplit₀ : s₀ = Machine.run (serveOps w budget)
        (Machine.run (serveOps w budget) .empty earlier) ((.admitOp start wall', fate) :: rest) := by
      rw [← Machine.run_append, ← hsplit]
    have hrec' : (Machine.run (serveOps w budget) .empty earlier).Recorded w (before ++ after) := by
      refine runOps_recorded (fun q hq => ?_) (.empty w _)
      rw [hsplit]
      simp [hq]
    rw [hsplit₀] at hlookup
    have hs : (Machine.run (serveOps w budget) .empty earlier).Sound := runOps_sound .empty earlier
    exact no_admission_before hs hfate hlookup hfound havail hexec hop hrec' hfree ha
  · intro wall' a ha
    obtain ⟨-, -, hop, -⟩ := sandboxExecNeverStartedV1_spec hnever
    obtain ⟨hstart, hreplay⟩ :=
      no_admission_after hs₀ hlookup hfound havail hexec hexp hrec hafter ha
    refine ⟨hstart, ?_⟩
    by_contra hne
    exact (hreplay hfree (by simpa using hne)).1 hop

/-! ## Ops on the sample lease -/

namespace Sample

open Protocol.Sample

variable {c : Char} {validator : String} {n m : Char} {expires : ℤ} {ops : List OpRow}
  {execs : List ExecRow} {clock : Option ℤ}

/-- The sample lease in its raw state. -/
def leaseState (expires : ℤ) : SandboxOpLeaseState := ⟨.running, none, expires⟩

/-- A request on the sample lease targets it. -/
lemma leaseTx_running {r : SandboxOpRequestV1} (hd : r.leaseDigest = digest c)
    (hl : r.leaseID = leaseID c) (hs : r.sandboxID = "sbx-" ++ repeated c 32) (hg : r.generation = 1)
    (hm : r.minerID = "miner") (hb : r.subnet = some (binding validator)) :
    sandboxOpLeaseTx opWire ⟨running c validator expires, ops, execs, clock⟩ r =
      some (leaseState expires) := by
  have hid : (leaseRow c validator expires).leaseID = leaseID c := rfl
  have hrow : (running c validator expires).leaseByID (leaseID c) =
      some (leaseRow c validator expires) := by
    simp [LeaseStore.leaseByID, running, hid]
  have hlease : (leaseRow c validator expires).lease = lease c validator expires := rfl
  have hdigest : opWire.toWire.leaseDigest (lease c validator expires) = some (digest c) := rfl
  have htargets : sandboxOpTargetsLeaseV1 opWire.toWire r (lease c validator expires) = true := by
    simp only [sandboxOpTargetsLeaseV1, hdigest, hd, hl, hs, hg, hm, hb, leaseID_lease]
    simp [lease, sameSandboxParties]
  simp only [sandboxOpLeaseTx, hl, hrow, hlease, htargets, if_true]
  rfl

lemma nowTx_forward (s : OpsStore) (wall : ℤ) (h : ∀ x, s.clock = some x → x < wall) :
    nowTx s wall = (wall, { s with clock := some wall }) := by
  unfold nowTx
  split
  · rfl
  · rename_i x hx
    rw [if_neg (by have := h x hx; omega)]

/-- The row of the sample `file_stat`. -/
def statRow (c : Char) (validator : String) (n : Char) : OpRow :=
  opRow (stat c validator n 0 50) ("sha256:" ++ (repeated '5' 32 ++ repeated n 32)) 10

/-- The sample `file_stat` is admitted at time 10. -/
lemma admit_stat (hc : hexDigit c = true) (hv : validator ≠ "") (hn : hexDigit n = true) :
    serveOps opWire budget ⟨running c validator 100, [], [], none⟩
        (.admitOp (stat c validator n 0 50) 10, .commits) =
      (⟨running c validator 100, [statRow c validator n], [], some 10⟩,
        .admission { decidedAt := 10, admittedAt := some 10 }) := by
  have hvalid : (stat c validator n 0 50).validate opWire.toWire = .ok () :=
    stat_valid hc hv hn (by decide) (by decide)
  have hdigest : opWire.opDigest (stat c validator n 0 50) =
      some ("sha256:" ++ (repeated '5' 32 ++ repeated n 32)) := rfl
  have htx : sandboxOpLeaseTx opWire ⟨running c validator 100, [], [], some 10⟩
      (stat c validator n 0 50) = some (leaseState 100) := leaseTx_running rfl rfl rfl rfl rfl rfl
  have hlive : sandboxOpLeaseLive (leaseState 100) 10 = true := by decide
  have hwindow : (10 : ℤ) < (stat c validator n 0 50).expiresAt := show (10 : ℤ) < 50 by decide
  have hop : (stat c validator n 0 50).op = .fileStat := rfl
  simp only [serveOps, performOps, admitOp, check, hvalid, digestOf, hdigest, bind, Except.bind,
    nowTx_forward ⟨running c validator 100, [], [], none⟩ 10 (by simp), admitAt, htx,
    OpsStore.opByID, List.find?_nil, hwindow, hlive, hop, insertOp, settleOps]
  rfl

/-- A lookup on the running sample lease, in tables without execs, finds nothing. -/
lemma lookup_cancel {wall : ℤ} (hc : hexDigit c = true) (hv : validator ≠ "")
    (hn : hexDigit n = true) (hm : hexDigit m = true) (hclock : ∀ x, clock = some x → x < wall)
    (hlive : wall < expires) :
    serveOps opWire budget ⟨running c validator expires, ops, [], clock⟩
        (.lookupExec (cancel c validator n m 0 1) wall, .commits) =
      (⟨running c validator expires, ops, [], some wall⟩, .lookup { decidedAt := wall }) := by
  have hvalid : (cancel c validator n m 0 1).validate opWire.toWire = .ok () :=
    cancel_valid hc hv hn hm (by decide) (by decide)
  have hexec : (cancel c validator n m 0 1).execID = some (opID c m) := rfl
  have htx : sandboxOpLeaseTx opWire ⟨running c validator expires, ops, [], some wall⟩
      (cancel c validator n m 0 1) = some (leaseState expires) :=
    leaseTx_running rfl rfl rfl rfl rfl rfl
  have hstate : sandboxOpLeaseLive (leaseState expires) wall = true := by
    simp [sandboxOpLeaseLive, leaseState, hlive]
  simp only [serveOps, performOps, lookupExec, check, hvalid, bind, Except.bind, hexec,
    nowTx_forward ⟨running c validator expires, ops, [], clock⟩ wall hclock, htx, hstate,
    List.find?_nil, settleOps, not_true_eq_false, if_false]

/-- The sample `file_stat` is a replay once it is recorded. -/
lemma admit_stat_again (hc : hexDigit c = true) (hv : validator ≠ "") (hn : hexDigit n = true) :
    (performOps opWire budget ⟨running c validator 100, [statRow c validator n], [], some 60⟩
        (.admitOp (stat c validator n 0 50) 61)).2 =
      .admission { decidedAt := 61, admittedAt := some 10, replay := true } := by
  have hvalid : (stat c validator n 0 50).validate opWire.toWire = .ok () :=
    stat_valid hc hv hn (by decide) (by decide)
  have hdigest : opWire.opDigest (stat c validator n 0 50) =
      some (statRow c validator n).documentDigest := rfl
  have htx : sandboxOpLeaseTx opWire
      ⟨running c validator 100, [statRow c validator n], [], some 61⟩
      (stat c validator n 0 50) = some (leaseState 100) := leaseTx_running rfl rfl rfl rfl rfl rfl
  have hlive : sandboxOpLeaseLive (leaseState 100) 61 = true := by decide
  have hid : (statRow c validator n).opID = sandboxOpIDV1 (stat c validator n 0 50) := rfl
  have hat : (statRow c validator n).admittedAtNs = 10 := rfl
  simp only [performOps, admitOp, check, hvalid, digestOf, hdigest, bind, Except.bind,
    nowTx_forward ⟨running c validator 100, [statRow c validator n], [], some 60⟩ 61 (by simp), admitAt,
    htx, OpsStore.opByID, List.find?_cons, hid, decide_true, ne_eq, not_true_eq_false, if_false, hlive,
    if_true, hat, settleOps]

/-- The sample lease is started and a `file_stat` is admitted on it at time 10. -/
def statRun (c : Char) (validator : String) (n : Char) : List (OpsCall × Fate) :=
  opsStartup c validator 100 ++ [(.admitOp (stat c validator n 0 50) 10, .commits)]

lemma runOps_stat (hc : hexDigit c = true) (hv : validator ≠ "") (hn : hexDigit n = true) :
    Machine.run (serveOps opWire budget) .empty (statRun c validator n) =
      ⟨running c validator 100, [statRow c validator n], [], some 10⟩ := by
  rw [statRun, Machine.run_append, runOps_startup hc hv (by decide) (by decide), Machine.run_cons,
    Machine.run_nil, Machine.next, admit_stat hc hv hn]

/-- A lookup of the ID of the recorded `file_stat` finds no exec, and the `file_stat` is answered as a
replay after it. -/
lemma lookup_stat (hc : hexDigit c = true) (hv : validator ≠ "") (hn : hexDigit n = true)
    (hm : hexDigit m = true) :
    Machine.answer (serveOps opWire budget)
        (Machine.run (serveOps opWire budget) .empty (statRun c validator n))
        (.lookupExec (cancel c validator m n 0 1) 60, .commits) = .lookup { decidedAt := 60 } ∧
      (performOps opWire budget
        (Machine.next (serveOps opWire budget)
          (Machine.run (serveOps opWire budget) .empty (statRun c validator n))
          (.lookupExec (cancel c validator m n 0 1) 60, .commits))
        (.admitOp (stat c validator n 0 50) 61)).2 =
        .admission { decidedAt := 61, admittedAt := some 10, replay := true } := by
  rw [runOps_stat hc hv hn, Machine.answer, Machine.next, lookup_cancel hc hv hm hn (by simp) (by decide)]
  exact ⟨rfl, admit_stat_again hc hv hn⟩

/-- A lookup on the sample lease, until time 90 s, at time 60 s. -/
lemma lookup_startup (hc : hexDigit c = true) (hv : validator ≠ "") (hn : hexDigit n = true)
    (hm : hexDigit m = true) :
    Machine.answer (serveOps opWire budget)
        (Machine.run (serveOps opWire budget) .empty (opsStartup c validator (90 * second)))
        (.lookupExec (cancel c validator m n 0 1) (60 * second), .commits) =
      .lookup { decidedAt := 60 * second } := by
  rw [runOps_startup hc hv (by decide) (by decide), Machine.answer,
    lookup_cancel hc hv hm hn (by simp) (by decide)]

/-- The definitive non-start rule accepts the refusal of that lookup. -/
lemma neverStarted_late (hc : hexDigit c = true) (hv : validator ≠ "") (hn : hexDigit n = true)
    (hm : hexDigit m = true) :
    sandboxExecNeverStartedV1 opWire
      (notFound (cancel c validator m n 0 1) (cancelDigest m) (60 * second))
      (cancel c validator m n 0 1) (start c validator n 1000 1024 0 second) (repeated 'b' 64) =
      .ok true :=
  neverStarted hc hv hm
    (start_valid hc hv hn (show minExecTimeoutMS ≤ 1000 by decide)
      (show 1000 ≤ maxExecTimeoutMS by decide) (show minExecOutputBytes ≤ 1024 by decide)
      (show 1024 ≤ maxExecOutputBytes by decide) (show (0 : ℤ) < second by decide)
      (show second - 0 ≤ maxOpWindow by decide))
    (cancel_valid hc hv hm hn (show (0 : ℤ) < 1 by decide) (show 1 - 0 ≤ maxOpWindow by decide))
    (show second + issueSkew ≤ 60 * second by decide)

end Sample

/-- **An op ID may be recorded for another op.** A `file_stat` is recorded under the ID that the lookup
finds no exec for, at time 60; the exact replay of the `file_stat`, which expired at time 50, is
answered as a replay after the lookup. -/
theorem replay_after_lookup :
    let step := serveOps Protocol.Sample.opWire Protocol.Sample.budget
    let s := Machine.run step .empty (Sample.statRun 'a' "v" '1')
    let q := (OpsCall.lookupExec (Protocol.Sample.cancel 'a' "v" '2' '1' 0 1) 60, Fate.commits)
    let start := Protocol.Sample.start 'a' "v" '1' 1000 1024 0 50
    let stat := Protocol.Sample.stat 'a' "v" '1' 0 50
    (∃ l, Machine.answer step s q = .lookup l ∧ l.found = false ∧ l.unavailable = none ∧
      start.expiresAt ≤ l.decidedAt) ∧
    (Protocol.Sample.cancel 'a' "v" '2' '1' 0 1).execID = some (sandboxOpIDV1 start) ∧
    sandboxOpIDV1 stat = sandboxOpIDV1 start ∧ stat.expiresAt ≤ start.expiresAt ∧
    ∃ a, (performOps Protocol.Sample.opWire Protocol.Sample.budget (Machine.next step s q)
      (.admitOp stat 61)).2 = .admission a ∧ a.replay = true := by
  intro step s q start stat
  obtain ⟨hlookup, hadmission⟩ := Sample.lookup_stat (show hexDigit 'a' = true by decide)
    (show "v" ≠ "" by decide) (show hexDigit '1' = true by decide) (show hexDigit '2' = true by decide)
  exact ⟨⟨_, hlookup, rfl, rfl, show (50 : ℤ) ≤ 60 by decide⟩, rfl, rfl, le_rfl, _, hadmission, rfl⟩

/-- The lookup on the sample lease is definitive for the sample `exec_start`, which expired at
time 1 s. -/
theorem non_start_definitive_sample :
    sandboxExecNeverStartedV1 Protocol.Sample.opWire
        (Protocol.Sample.notFound (Protocol.Sample.cancel 'a' "v" '2' '1' 0 1)
          (Protocol.Sample.cancelDigest '2') (60 * second))
        (Protocol.Sample.cancel 'a' "v" '2' '1' 0 1)
        (Protocol.Sample.start 'a' "v" '1' 1000 1024 0 second) (repeated 'b' 64) =
      .ok true ∧
    ∀ wall' a, (performOps Protocol.Sample.opWire Protocol.Sample.budget
        (Machine.run (serveOps Protocol.Sample.opWire Protocol.Sample.budget)
          (Machine.next (serveOps Protocol.Sample.opWire Protocol.Sample.budget)
            (Machine.run (serveOps Protocol.Sample.opWire Protocol.Sample.budget) .empty
              (Sample.opsStartup 'a' "v" (90 * second)))
            (.lookupExec (Protocol.Sample.cancel 'a' "v" '2' '1' 0 1) (60 * second), .commits)) [])
        (.admitOp (Protocol.Sample.start 'a' "v" '1' 1000 1024 0 second) wall')).2 = .admission a →
      a.start = false ∧ a.replay = false := by
  have hc : hexDigit 'a' = true := by decide
  have hv : "v" ≠ "" := by decide
  have h1 : hexDigit '1' = true := by decide
  have h2 : hexDigit '2' = true := by decide
  have hnever := Sample.neverStarted_late hc hv h1 h2
  refine ⟨hnever, ?_⟩
  have h := (non_start_definitive Protocol.Sample.opWire Protocol.Sample.budget).2
    (Sample.opsStartup 'a' "v" (90 * second)) (Protocol.Sample.cancel 'a' "v" '2' '1' 0 1) (60 * second)
    { decidedAt := 60 * second } (Protocol.Sample.start 'a' "v" '1' 1000 1024 0 second) []
    (Sample.lookup_startup hc hv h1 h2) rfl rfl rfl (show second ≤ 60 * second by decide)
  refine (h.2 _ _ hnever rfl ?_).2
  intro q hq other wall hcall
  simp [Sample.opsStartup] at hq
  obtain ⟨op, -, rfl⟩ := hq
  cases hcall

end Misscomputer.Durable
