import Misscomputer.Durable.NonStart
import Misscomputer.Miner.OpsSteps

set_option relaxedAutoImplicit false
set_option autoImplicit false

/-!
# Receipts of one exec

Every receipt of an exec reports its durable state. The state is read in a transaction, and the time of
the receipt from the clock afterwards; the first answer to an `exec_start` does not read the state at
all. Between the two the exec can end, and another receipt can report that it ended before the time of
this one.

## Main definitions

* `Miner.execOf` — the exec that a request is about.
* `Miner.OpsProc.stamps` — the exec whose running state a step puts a time to.
* `Miner.StampedWhileRunning` — the exec has not ended at that moment.

## Main results

* `Miner.exec_receipts_agree` — where it has not, no two receipts contradict each other.
* `Miner.running_after_end` — a run where it has.

## References

* `pkg/miner/sandbox_ops.go`, `pkg/durable/sandbox_ops_v1.go`
-/

namespace Misscomputer.Miner

open Sandbox Protocol Durable Misscomputer.Runtime

variable {cfg : OpsConfig} {s s' : OpsLane} {p : OpsProc} {c : OpsChoice} {qs : List OpsProc}
  {obs observed : List OpsObservation}

/-- The exec that a request is about: its own op ID, or the exec that it names. -/
def execOf (r : SandboxOpRequestV1) : String :=
  if r.op = .execStart then sandboxOpIDV1 r else r.execID.getD ""

/-! ## What a moment of the lane says of an exec -/

namespace OpsLane

/-- A process holds an entry of its exec. -/
def Has (s : OpsLane) (x : ExecRef) : Prop := ∃ e, s.entries[x.ref]? = some e ∧ e.opID = x.opID

/-- The exec has ended in `state`, not after `t`. -/
def Ended (s : OpsLane) (execID : String) (state : ExecState) (t : ℤ) : Prop :=
  execTerminal state = true ∧
    ∃ row ∈ s.store.execs, row.execID = execID ∧ row.state = state ∧ row.updatedAtNs ≤ t

/-- The exec has not ended before `t`, which has come. -/
def Unended (s : OpsLane) (execID : String) (t : ℤ) : Prop :=
  t ≤ s.clock ∧ ∀ row ∈ s.store.execs, row.execID = execID → execTerminal row.state = true →
    t ≤ row.updatedAtNs

/-- What a lookup saw of an exec still holds, if it had ended. -/
def Saw (s : OpsLane) (execID : String) (seen : SandboxExecLookup) : Prop :=
  seen.decidedAt ≤ s.clock ∧ ∀ state, seen.state = some state → execTerminal state = true →
    s.Ended execID state s.clock

/-- The state that a lookup saw was the state of the exec at `t`. -/
def SawAt (s : OpsLane) (execID : String) (seen : SandboxExecLookup) (t : ℤ) : Prop :=
  ∀ state, seen.state = some state →
    (execTerminal state = true → s.Ended execID state t) ∧
      (execTerminal state = false → s.Unended execID t)

/-- An end that an entry notes was recorded, not after the time it notes. -/
def EndsNoted (s : OpsLane) : Prop :=
  ∀ (ref : ℕ) (e : OpExec), s.entries[ref]? = some e → ∀ t, e.endedAt = some t →
    ∃ state, s.Ended e.opID state t

variable {execID : String} {state : ExecState} {t t' : ℤ} {seen : SandboxExecLookup} {x : ExecRef}

lemma Ended.mono (h : s.Ended execID state t) (hle : t ≤ t') : s.Ended execID state t' := by
  obtain ⟨hterm, row, hrow, hid, hstate, htime⟩ := h
  exact ⟨hterm, row, hrow, hid, hstate, htime.trans hle⟩

lemma Later.has (h : s.Later s') (hx : s.Has x) : s'.Has x := by
  obtain ⟨e, he, hid⟩ := hx
  obtain ⟨e', he', hkept⟩ := h.entries he
  exact ⟨e', he', hkept.opID.trans hid⟩

lemma Later.ended_of (h : s.Later s') (he : s.Ended execID state t) : s'.Ended execID state t := by
  obtain ⟨hterm, row, hrow, hid, hstate, htime⟩ := he
  exact ⟨hterm, row, h.ended row hrow (hstate ▸ hterm), hid, hstate, htime⟩

/-- An end that is written later carries a time that is not before. -/
lemma Later.unended_of (h : s.Later s') (hu : s.Unended execID t) : s'.Unended execID t := by
  refine ⟨hu.1.trans h.clock, fun row hrow hid hterm => ?_⟩
  rcases h.rows row hrow with hrow | hrow
  · exact hu.2 row hrow hid hterm
  · exact hu.1.trans hrow

lemma Later.saw_of (h : s.Later s') (hs : s.Saw execID seen) : s'.Saw execID seen :=
  ⟨hs.1.trans h.clock, fun state hstate hterm =>
    (h.ended_of (hs.2 state hstate hterm)).mono h.clock⟩

lemma Later.sawAt_of (h : s.Later s') (hs : s.SawAt execID seen t) : s'.SawAt execID seen t :=
  fun state hstate => ⟨fun hterm => h.ended_of ((hs state hstate).1 hterm),
    fun hterm => h.unended_of ((hs state hstate).2 hterm)⟩

end OpsLane

/-! ## The condition -/

/-- The exec whose running state a step of `p` puts a time to: `exec_start` at its own answer, and
`execAnswer` when it saw the exec admitted or running. -/
def OpsProc.stamps : OpsProc → Option String
  | .startNow r _ _ => some (sandboxOpIDV1 r)
  | .answerNow _ x _ seen => if seen.state.any execTerminal then none else some x.opID
  | _ => none

/-- Where a step puts a time to the running state of an exec, its row has not ended. -/
def StampedWhileRunning (s : OpsLane) (p : OpsProc) (_ : OpsChoice) : Prop :=
  ∀ execID ∈ p.stamps, ∀ row ∈ s.store.execs, row.execID = execID → execTerminal row.state = false

/-! ## The invariant -/

/-- What a signed receipt says of its exec is so. -/
def OpsObservation.Holds (s : OpsLane) : OpsObservation → Prop
  | .exec _ => True
  | .receipt r signed => ∀ status, signed.exec = some status →
    if status.state = .running then s.Unended (execOf r) signed.observedAt
    else ∃ t, status.endedAt = some t ∧ s.Ended (execOf r) status.state t

/-- The shared state and the receipts. -/
structure ExecLedger (s : OpsLane) (obs : List OpsObservation) : Prop where
  current : s.store.Current s.clock
  ends : s.EndsNoted
  execs : ∀ a ∈ s.execs, s.Has ⟨a.1, a.2⟩
  receipts : ∀ o ∈ obs, o.Holds s

/-- What the local values of a process say. -/
def OpsProc.Knows (s : OpsLane) : OpsProc → Prop
  | .launch _ _ _ a | .startStatus _ _ a => a.decidedAt ≤ s.clock
  | .startNow _ status decidedAt => decidedAt ≤ s.clock ∧ status.state = .running
  | .sign _ receipt => receipt.exec = none
  | .drop _ refused | .dropping _ refused => ∀ a ∈ refused, a.2.exec = none
  | .answerEntry _ execID _ seen => s.Saw execID seen
  | .answerNow _ x _ seen => s.Saw x.opID seen
  | .answerStatus _ x _ seen observed => s.SawAt x.opID seen observed
  | .markEnded x _ => ∃ state, s.Ended x.opID state s.clock
  | _ => True

/-- The assertion of a process: it holds an entry of its exec, its exec is the one its request is about,
and its local values are right. -/
structure OpsProc.Fits (s : OpsLane) (p : OpsProc) : Prop where
  has : ∀ x ∈ p.ref, s.Has x
  about : ∀ a ∈ p.answers, execOf a.1 = a.2
  knows : p.Knows s

lemma OpsObservation.Holds.later {o : OpsObservation} (h : o.Holds s) (hle : s.Later s') :
    o.Holds s' := by
  cases o with
  | exec call => trivial
  | receipt r receipt =>
    intro status hstatus
    have h := h status hstatus
    split at h
    · rw [if_pos ‹_›]
      exact hle.unended_of h
    · obtain ⟨t, ht, hended⟩ := h
      rw [if_neg ‹_›]
      exact ⟨t, ht, hle.ended_of hended⟩

lemma OpsProc.Knows.later (h : p.Knows s) (hle : s.Later s') : p.Knows s' := by
  cases p with
  | launch r command ref a => exact le_trans h hle.clock
  | startStatus r ref a => exact le_trans h hle.clock
  | startNow r status decidedAt => exact ⟨h.1.trans hle.clock, h.2⟩
  | answerEntry r execID result seen => exact hle.saw_of h
  | answerNow r x result seen => exact hle.saw_of h
  | answerStatus r x result seen observed => exact hle.sawAt_of h
  | markEnded x k =>
    obtain ⟨state, hended⟩ := h
    exact ⟨state, (hle.ended_of hended).mono hle.clock⟩
  | _ => exact h

/-- What a process knows it knows later. -/
lemma OpsProc.Fits.later (h : p.Fits s) (hle : s.Later s') : p.Fits s' :=
  ⟨fun x hx => hle.has (h.has x hx), h.about, h.knows.later hle⟩

/-! ## One step -/

/-- A later moment in which no entry has noted an end since. -/
lemma OpsLane.EndsNoted.later (h : s.EndsNoted) (hle : s.Later s')
    (hsame : ∀ (ref : ℕ) (e' : OpExec), s'.entries[ref]? = some e' → e'.endedAt = none ∨
      ∃ e, s.entries[ref]? = some e ∧ e'.opID = e.opID ∧ e'.endedAt = e.endedAt) : s'.EndsNoted := by
  intro ref e' he' t ht
  rcases hsame ref e' he' with hnone | ⟨e, he, hid, hended⟩
  · rw [hnone] at ht
    cases ht
  · obtain ⟨state, h⟩ := h ref e he t (hended ▸ ht)
    exact ⟨state, hid ▸ hle.ended_of h⟩

/-- An entry after an update. -/
lemma entry_of_update {ref i : ℕ} {f : OpExec → OpExec} {e' : OpExec}
    (h : (s.update ref f).entries[i]? = some e') :
    ∃ e, s.entries[i]? = some e ∧ e' = if ref = i then f e else e := by
  simp only [OpsLane.update, List.getElem?_modify] at h
  cases he : s.entries[i]? with
  | none => simp [he] at h
  | some e => exact ⟨e, rfl, by simp [he] at h; exact h.symm⟩

/-- The map of entries after a step. -/
lemma OpsEffect.execs (h : OpsEffect cfg s p s') :
    (∀ a ∈ s'.execs, a ∈ s.execs ∨ ∃ r command, p = .start r command ∧
      s'.entries[a.2]? = some (opExec r) ∧ a.1 = sandboxOpIDV1 r) := by
  cases h with
  | join r command at_start =>
    intro a ha
    unfold OpsLane.join at ha ⊢
    split at ha
    · exact .inl ha
    · rcases List.mem_cons.mp ha with rfl | ha
      · exact .inr ⟨r, command, at_start, by simp, rfl⟩
      · exact .inl ha
  | delete x refused => exact fun a ha => .inl (List.mem_of_mem_filter ha)
  | _ => exact fun a ha => .inl ha

/-- **One step keeps the entries right**: an end is noted after it was recorded. -/
lemma OpsEffect.endsNoted (h : OpsEffect cfg s p s') (hI : ExecLedger s obs) (hp : p.Fits s) :
    s'.EndsNoted := by
  have hle := h.later hI.current
  have hupdate : ∀ {ref : ℕ} {f : OpExec → OpExec},
      (∀ e : OpExec, (f e).opID = e.opID ∧ (f e).endedAt = e.endedAt) →
      ∀ (i : ℕ) (e' : OpExec), (s.update ref f).entries[i]? = some e' → e'.endedAt = none ∨
        ∃ e : OpExec, s.entries[i]? = some e ∧ e'.opID = e.opID ∧ e'.endedAt = e.endedAt := by
    intro ref f hf i e' he'
    obtain ⟨e, he, rfl⟩ := entry_of_update he'
    refine .inr ⟨e, he, ?_⟩
    split
    · exact hf e
    · exact ⟨rfl, rfl⟩
  cases h with
  | join r command =>
    refine hI.ends.later hle fun ref e' he' => ?_
    unfold OpsLane.join at he'
    split at he'
    · exact .inr ⟨e', he', rfl, rfl⟩
    · simp only [List.getElem?_append] at he'
      split at he'
      · exact .inr ⟨e', he', rfl, rfl⟩
      · have he' := List.mem_of_getElem? he'
        rw [List.mem_singleton.mp he']
        exact .inl rfl
  | touch ref f same => exact hI.ends.later hle (hupdate fun e => ⟨(same e).opID, (same e).endedAt⟩)
  | own r command ref adm => exact hI.ends.later hle (hupdate fun e => ⟨rfl, rfl⟩)
  | claim x seen =>
    refine hI.ends.later hle (hupdate fun e => ?_)
    unfold OpExec.claim
    split <;> exact ⟨rfl, rfl⟩
  | ended x k at_markEnded =>
    subst at_markEnded
    obtain ⟨state, hended⟩ := hp.knows
    intro ref e' he' t ht
    obtain ⟨e, he, rfl⟩ := entry_of_update he'
    split at ht
    · rename_i href
      subst href
      obtain ⟨e₀, he₀, hid⟩ := hp.has x rfl
      rw [he, Option.some.injEq] at he₀
      subst he₀
      rw [if_pos rfl]
      unfold OpExec.markEnded at ht ⊢
      split at ht
      · -- the end is noted now, and it was recorded before
        rw [if_pos ‹_›]
        cases ht
        refine ⟨state, ?_⟩
        change s.Ended e.opID state _
        rw [hid]
        exact hended.mono (le_max_left _ _)
      · rw [if_neg ‹_›]
        exact hI.ends _ e he t ht
    · rw [if_neg ‹_›]
      exact hI.ends ref e he t ht
  | _ => exact hI.ends.later hle fun _ e' he' => .inr ⟨e', he', rfl, rfl⟩

/-! ## Receipts without an exec -/

lemma opBase_exec {r : SandboxOpRequestV1} {stage : OpStage} {t : ℤ} {doc : SandboxOpReceiptV1}
    (h : cfg.opBase r stage t = some doc) : doc.exec = none ∧ doc.observedAt = t := by
  unfold OpsConfig.opBase at h
  cases hd : cfg.wire.opDigest r with
  | none =>
    rw [hd] at h
    cases h
  | some digest =>
    rw [hd] at h
    cases h
    exact ⟨rfl, rfl⟩

lemma opReceipt_exec {r : SandboxOpRequestV1} {stage : OpStage} {code : String} {t : ℤ}
    {doc : SandboxOpReceiptV1} (h : cfg.opReceipt r stage code t = some doc) : doc.exec = none := by
  unfold OpsConfig.opReceipt at h
  obtain ⟨base, hbase, rfl⟩ := Option.map_eq_some_iff.mp h
  exact (opBase_exec hbase).1

lemma leaseRefusal_exec {r : SandboxOpRequestV1} {state : SandboxOpLeaseState} {t : ℤ}
    {doc : SandboxOpReceiptV1} (h : cfg.leaseRefusal r state t = some doc) : doc.exec = none :=
  opReceipt_exec h

lemma refusal_exec {r : SandboxOpRequestV1} {a : SandboxOpAdmission} {doc : SandboxOpReceiptV1}
    (h : OpsProc.refusal cfg r a = some doc) : doc.exec = none := by
  unfold OpsProc.refusal at h
  split at h
  · exact leaseRefusal_exec h
  · exact opReceipt_exec h

lemma signing_knows {r : SandboxOpRequestV1} {receipt : Option SandboxOpReceiptV1}
    (h : ∀ doc, receipt = some doc → doc.exec = none) :
    ∀ q ∈ OpsProc.signing r receipt, q.Knows s := by
  cases receipt with
  | none => simp [OpsProc.signing]
  | some doc => simpa [OpsProc.signing, OpsProc.Knows] using h doc rfl

lemma refused_knows {refused : Option (SandboxOpRequestV1 × SandboxOpReceiptV1)}
    (h : ∀ a ∈ refused, a.2.exec = none) :
    ∀ q ∈ refused.elim [] fun a => [OpsProc.sign a.1 a.2], q.Knows s := by
  cases refused with
  | none => simp
  | some a => simpa [OpsProc.Knows] using h a rfl

/-! ## What the successors know -/

section Knows

variable (hI : ExecLedger s obs) (hp : p.Fits s)

include hI hp

lemma execStartStep_knows (h : OpsProc.startStep cfg s p c = some (s', qs, observed)) :
    ∀ q ∈ qs, q.Knows s' := by
  unfold OpsProc.startStep at h
  split at h
  case h_2 r command ref fate =>
    dsimp only at h
    split at h
    · rename_i adm hadm
      have hat : adm.decidedAt = s.clock := (admission_answer hI.current hadm).1
      split at h
      · cases h
        simp only [List.mem_singleton, forall_eq, OpsProc.Knows]
        intro a ha
        obtain ⟨doc, hdoc, rfl⟩ := Option.map_eq_some_iff.mp ha
        exact refusal_exec hdoc
      split at h
      · cases h
        exact signing_knows fun doc hdoc => refusal_exec hdoc
      · cases h
        simp only [List.mem_singleton, forall_eq]
        exact hat.le
    · cases h
      simp [OpsProc.Knows]
  case h_4 x refused =>
    split at h
    · cases h
    split at h
    · cases h
    split at h
    · cases h
      simpa [OpsProc.Knows] using hp.knows
    · cases h
      exact refused_knows hp.knows
  case h_5 x refused =>
    cases h
    exact refused_knows hp.knows
  case h_6 r command ref adm =>
    have hat : adm.decidedAt ≤ s.clock := hp.knows
    split at h
    · cases h
    dsimp only at h
    repeat' split at h
    all_goals cases h; simp [OpsProc.Knows]
    all_goals exact hat
  case h_7 r ref adm =>
    split at h
    · cases h
    · cases h
      simpa [OpsProc.Knows, OpExec.status] using hp.knows
  all_goals
    repeat' split at h
    all_goals first | (cases h; simp [OpsProc.Knows]) | cases h

omit hI hp in
lemma lookupStep_knows (h : OpsProc.lookupStep cfg s p c = some (s', qs, observed)) :
    ∀ q ∈ qs, q.Knows s' := by
  unfold OpsProc.lookupStep at h
  split at h
  all_goals
    try dsimp only at h
    repeat' split at h
    all_goals
      first
        | (cases h; exact signing_knows fun doc hdoc => leaseRefusal_exec hdoc)
        | (cases h; exact signing_knows fun doc hdoc => opReceipt_exec hdoc)
        | (cases h; simp [OpsProc.Knows])
        | cases h

/-- The time of an answer: what was seen ended has ended by then; what was seen running has not ended
before, where the condition is met. -/
lemma answerStep_knows (h : OpsProc.answerStep cfg s p c = some (s', qs, observed))
    (hG : StampedWhileRunning s p c) : ∀ q ∈ qs, q.Knows s' := by
  unfold OpsProc.answerStep at h
  split at h
  case h_1 r execID result fate =>
    dsimp only at h
    split at h
    · rename_i seen expires hseen
      split at h
      · cases h
        exact signing_knows fun doc hdoc => leaseRefusal_exec hdoc
      · cases h
        simp only [List.mem_singleton, forall_eq]
        obtain ⟨hat, hstate⟩ := execState_answer hI.current hseen
        refine ⟨hat.le, fun state hs hterm => ⟨hterm, ?_⟩⟩
        obtain ⟨row, hrow, hid, hrs⟩ := hstate state hs
        have hwritten := OpsLane.tx_written cfg hI.current (.execState execID)
          (by simp [OpsCall.wall]) fate
        exact ⟨row, hrow, hid, hrs, hwritten.current.updated row hrow⟩
    · cases h
      simp
  case h_2 r execID result seen =>
    split at h
    · cases h
    split at h
    · cases h
      simp [OpsProc.Knows]
    split at h
    · cases h
      simp [OpsProc.Knows]
    · cases h
      simp only [List.mem_singleton, forall_eq]
      exact hp.knows
  case h_3 r x result seen =>
    cases h
    simp only [List.mem_singleton, forall_eq]
    obtain ⟨hat, hterminal⟩ := hp.knows
    have hlater : later s.clock seen.decidedAt = s.clock := max_eq_left hat
    intro state hstate
    rw [hlater]
    refine ⟨fun hterm => hterminal state hstate hterm, fun hterm => ⟨le_rfl, fun row hrow hid ht => ?_⟩⟩
    -- the row has not ended at this moment
    have hstamps : OpsProc.stamps (.answerNow r x result seen) = some x.opID := by
      simp [OpsProc.stamps, hstate, hterm]
    rw [hG x.opID hstamps row hrow hid] at ht
    cases ht
  all_goals
    repeat' split at h
    all_goals first | (cases h; simp [OpsProc.Knows]) | cases h

omit hI hp in
lemma afterRecord_knows (x : ExecRef) (result : OpsProc.Recorded) (k : Recording) :
    ∀ q ∈ OpsProc.afterRecord x result k, q.Knows s := by
  cases k with
  | starting state =>
    cases result <;> simp only [OpsProc.afterRecord]
    · split <;> simp [OpsProc.Knows]
    all_goals simp [OpsProc.Knows]
  | _ => cases result <;> simp [OpsProc.afterRecord, OpsProc.Knows]

omit hI hp in
lemma ownerStep_knows (h : OpsProc.ownerStep cfg s p c = some (s', qs, observed)) :
    ∀ q ∈ qs, q.Knows s' := by
  unfold OpsProc.ownerStep at h
  split at h
  all_goals
    try dsimp only at h
    repeat' split at h
    all_goals first | (cases h; simp [OpsProc.Knows]) | cases h

omit hp in
/-- A row that a transaction of the lane leaves was written by now. -/
lemma ended_of_row (call : ℤ → OpsCall) {fate : Fate} (hwall : ∀ t ∈ (call s.clock).wall, t = s.clock)
    {row : ExecRow} (hrow : row ∈ (s.tx cfg call fate).1.store.execs)
    (hterm : execTerminal row.state = true) :
    (s.tx cfg call fate).1.Ended row.execID row.state (s.tx cfg call fate).1.clock :=
  ⟨hterm, row, hrow, rfl, rfl, (OpsLane.tx_written cfg hI.current call hwall fate).current.updated row hrow⟩

omit hp in
lemma recordStep_knows (h : OpsProc.recordStep cfg s p c = some (s', qs, observed)) :
    ∀ q ∈ qs, q.Knows s' := by
  unfold OpsProc.recordStep at h
  split at h
  case h_1 x state code attempt k fate =>
    dsimp only at h
    split at h
    · rename_i hrecorded
      split at h
      · cases h
        exact afterRecord_knows x _ k
      · rename_i hrunning
        cases h
        obtain ⟨hadm, row, hrow, hid, hstate⟩ := recorded_answer hrecorded
        have hterm : execTerminal row.state = true := by
          rw [hstate]
          cases state <;> simp_all [execTerminal]
        simp only [List.mem_singleton, forall_eq]
        exact ⟨row.state, hid ▸ ended_of_row hI (.recordExecState x.opID state code)
          (by simp [OpsCall.wall]) hrow hterm⟩
    · cases h
      exact afterRecord_knows x _ k
    · split at h
      · cases h
        simp [OpsProc.Knows]
      · cases h
        exact afterRecord_knows x _ k
  case h_2 x k =>
    cases h
    exact afterRecord_knows x _ k
  case h_3 => cases h

omit hI hp in
lemma timerStep_knows (h : OpsProc.timerStep cfg s p c = some (s', qs, observed)) :
    ∀ q ∈ qs, q.Knows s' := by
  unfold OpsProc.timerStep at h
  split at h
  all_goals
    try dsimp only at h
    repeat' split at h
    all_goals first | (cases h; simp [OpsProc.Knows]) | cases h

omit hp in
lemma killStep_knows (h : OpsProc.killStep cfg s p c = some (s', qs, observed)) :
    ∀ q ∈ qs, q.Knows s' := by
  unfold OpsProc.killStep at h
  split at h
  case h_5 x trigger attempt k fate =>
    dsimp only at h
    split at h
    · rename_i hended
      cases h
      obtain ⟨row, hrow, hid, hterm⟩ := ended_answer hended
      simp only [List.mem_singleton, forall_eq]
      exact ⟨row.state, hid ▸ ended_of_row hI (.recordAdmittedExecEnd x.opID trigger)
        (by simp [OpsCall.wall]) hrow hterm⟩
    · cases h
      simp [OpsProc.Knows]
    · split at h <;> cases h <;> simp [OpsProc.Knows]
  case h_11 x rearm k =>
    cases h
    cases k <;> cases rearm <;> simp [OpsProc.Knows]
  all_goals
    try dsimp only at h
    repeat' split at h
    all_goals first | (cases h; simp [OpsProc.Knows]) | cases h

/-- **What the successors of a process know.** -/
lemma step_knows_exec (h : OpsProc.step cfg s p c = some (s', qs, observed))
    (hG : StampedWhileRunning s p c) : ∀ q ∈ qs, q.Knows s' := by
  unfold OpsProc.step at h
  split at h
  all_goals
    first
      | exact execStartStep_knows hI hp h
      | exact lookupStep_knows h
      | exact answerStep_knows hI hp h hG
      | exact ownerStep_knows h
      | exact recordStep_knows hI h
      | exact timerStep_knows h
      | exact killStep_knows hI h

end Knows

/-! ## What the receipts of a step say -/

/-- A signed receipt is the receipt of the request, with its signature. -/
lemma signed_eq {r : SandboxOpRequestV1} {receipt : Option SandboxOpReceiptV1} {o : OpsObservation}
    (h : o ∈ OpsProc.signed cfg r receipt) :
    ∃ doc, receipt = some doc ∧ o = .receipt r { doc with signature := cfg.sign doc } := by
  cases receipt with
  | none => simp [OpsProc.signed] at h
  | some doc =>
    refine ⟨doc, rfl, ?_⟩
    simp only [OpsProc.signed, Option.bind_some, Option.mem_toList, Option.map_eq_some_iff] at h
    obtain ⟨signed, hsigned, rfl⟩ := h
    unfold OpsConfig.signOp at hsigned
    split at hsigned <;> cases hsigned
    rfl

/-- A receipt without an exec says nothing of one. -/
lemma signed_holds {r : SandboxOpRequestV1} {receipt : Option SandboxOpReceiptV1}
    (h : ∀ doc, receipt = some doc → doc.exec = none) :
    ∀ o ∈ OpsProc.signed cfg r receipt, o.Holds s := by
  intro o ho
  obtain ⟨doc, hdoc, rfl⟩ := signed_eq ho
  intro status hstatus
  rw [h doc hdoc] at hstatus
  cases hstatus

lemma execReceipt_exec {r : SandboxOpRequestV1} {seen : SandboxExecLookup} {status : ExecStatus}
    {t : ℤ} {result : Option (List UInt8)} {doc : SandboxOpReceiptV1}
    (h : cfg.execReceipt r seen status t result = some doc) :
    doc.exec = some status ∧ doc.observedAt = t := by
  unfold OpsConfig.execReceipt at h
  obtain ⟨base, hbase, rfl⟩ := Option.map_eq_some_iff.mp h
  dsimp only
  split
  · exact ⟨rfl, (opBase_exec hbase).2⟩
  · split <;> exact ⟨rfl, (opBase_exec hbase).2⟩

/-- Two ends of one exec are the same row. -/
lemma OpsLane.Ended.row_unique {execID : String} {state state' : ExecState} {t t' : ℤ}
    (hs : s.store.Sound) (h : s.Ended execID state t) (h' : s.Ended execID state' t') :
    state = state' ∧ s.Ended execID state (min t t') := by
  obtain ⟨hterm, row, hrow, hid, hstate, htime⟩ := h
  obtain ⟨-, row', hrow', hid', hstate', htime'⟩ := h'
  obtain rfl := hs.exec_unique.eq_of_key hrow hrow' (hid.trans hid'.symm)
  exact ⟨hstate.symm.trans hstate', hterm, row, hrow, hid, hstate, le_min htime htime'⟩

lemma reported_eq_running {state : ExecState} : reported state = .running ↔ execTerminal state = false := by
  cases state <;> simp [reported, execTerminal]

lemma reported_of_terminal {state : ExecState} (h : execTerminal state = true) :
    reported state = state := by
  cases state <;> simp_all [reported, execTerminal]

/-- **The status of an answer holds**: the end it reports is not before the recorded one. -/
lemma status_holds (hI : ExecLedger s obs) {e : OpExec} {ref : ℕ} {seen : SandboxExecLookup}
    {state : ExecState} {admittedAt t : ℤ} (he : s.entries[ref]? = some e)
    (hstate : seen.state = some state) (hseen : s.SawAt e.opID seen t) :
    if (e.status (reported state) admittedAt t).state = .running then s.Unended e.opID t
    else ∃ t', (e.status (reported state) admittedAt t).endedAt = some t' ∧
      s.Ended e.opID (e.status (reported state) admittedAt t).state t' := by
  obtain ⟨hended, hunended⟩ := hseen state hstate
  by_cases hterm : execTerminal state = true
  · have hne : state ≠ .running := by
      rintro rfl
      cases hterm
    have hrep := reported_of_terminal hterm
    rw [hrep]
    simp only [OpExec.status, if_neg hne, Option.some.injEq, exists_eq_left']
    have hmin : s.Ended e.opID state (min (e.endedAt.getD t) t) := by
      cases hnoted : e.endedAt with
      | none => exact (hended hterm).mono (by simp)
      | some t₀ =>
        obtain ⟨state₀, h₀⟩ := hI.ends ref e he t₀ hnoted
        rw [Option.getD_some, min_comm]
        exact ((hended hterm).row_unique hI.current.sound h₀).2
    exact hmin.mono (le_max_left _ _)
  · rw [Bool.not_eq_true] at hterm
    rw [reported_eq_running.mpr hterm]
    simp only [OpExec.status, if_true]
    exact hunended hterm

section Holds

variable (hI : ExecLedger s obs) (hp : p.Fits s)

include hp

/-- The first answer to an `exec_start` holds where the condition is met. -/
lemma startStep_holds (h : OpsProc.startStep cfg s p c = some (s', qs, observed))
    (hG : StampedWhileRunning s p c) : ∀ o ∈ observed, o.Holds s := by
  unfold OpsProc.startStep at h
  split at h
  case h_8 r status decidedAt =>
    cases h
    obtain ⟨hat, hrunning⟩ := hp.knows
    have habout : execOf r = sandboxOpIDV1 r := hp.about (r, sandboxOpIDV1 r) rfl
    intro o ho
    obtain ⟨doc, hdoc, rfl⟩ := signed_eq ho
    obtain ⟨base, hbase, rfl⟩ := Option.map_eq_some_iff.mp hdoc
    intro st hst
    cases hst
    rw [if_pos hrunning, habout]
    change s.Unended _ base.observedAt
    rw [(opBase_exec hbase).2, show later s.clock decidedAt = s.clock from max_eq_left hat]
    refine ⟨le_rfl, fun row hrow hid hterm => ?_⟩
    rw [hG (sandboxOpIDV1 r) rfl row hrow hid] at hterm
    cases hterm
  case h_9 r receipt =>
    cases h
    exact signed_holds fun doc hdoc => Option.some.inj hdoc ▸ hp.knows
  case h_10 r stage code decidedAt =>
    cases h
    exact signed_holds fun doc hdoc => opReceipt_exec hdoc
  all_goals
    try dsimp only at h
    repeat' split at h
    all_goals first | (cases h; simp) | cases h

omit hp in
lemma lookupStep_holds (h : OpsProc.lookupStep cfg s p c = some (s', qs, observed)) :
    ∀ o ∈ observed, o.Holds s := by
  unfold OpsProc.lookupStep at h
  split at h
  all_goals
    try dsimp only at h
    repeat' split at h
    all_goals first | (cases h; simp) | cases h

include hI in
lemma answerStep_holds (h : OpsProc.answerStep cfg s p c = some (s', qs, observed)) :
    ∀ o ∈ observed, o.Holds s := by
  unfold OpsProc.answerStep at h
  split at h
  case h_4 r x result seen t =>
    split at h
    · rename_i e state he hstate
      cases h
      obtain ⟨e₀, he₀, hid⟩ := hp.has x rfl
      rw [he, Option.some.injEq] at he₀
      subst he₀
      have habout : execOf r = x.opID := hp.about (r, x.opID) rfl
      intro o ho
      obtain ⟨doc, hdoc, rfl⟩ := signed_eq ho
      obtain ⟨hexec, hat⟩ := execReceipt_exec hdoc
      intro status hstatus
      replace hstatus : doc.exec = some status := hstatus
      rw [hexec, Option.some.injEq] at hstatus
      subst hstatus
      change if _ then s.Unended _ doc.observedAt else _
      rw [habout, hat, ← hid]
      exact status_holds hI he hstate (hid ▸ hp.knows)
    · cases h
  all_goals
    try dsimp only at h
    repeat' split at h
    all_goals first | (cases h; simp) | cases h

omit hp in
lemma ownerStep_holds (h : OpsProc.ownerStep cfg s p c = some (s', qs, observed)) :
    ∀ o ∈ observed, o.Holds s := by
  unfold OpsProc.ownerStep at h
  split at h
  all_goals
    try dsimp only at h
    repeat' split at h
    all_goals first | (cases h; simp [OpsObservation.Holds]) | cases h

omit hp in
lemma recordStep_holds (h : OpsProc.recordStep cfg s p c = some (s', qs, observed)) :
    ∀ o ∈ observed, o.Holds s := by
  unfold OpsProc.recordStep at h
  split at h
  all_goals
    try dsimp only at h
    repeat' split at h
    all_goals first | (cases h; simp) | cases h

omit hp in
lemma timerStep_holds (h : OpsProc.timerStep cfg s p c = some (s', qs, observed)) :
    ∀ o ∈ observed, o.Holds s := by
  unfold OpsProc.timerStep at h
  split at h
  all_goals
    try dsimp only at h
    repeat' split at h
    all_goals first | (cases h; simp) | cases h

omit hp in
lemma killStep_holds (h : OpsProc.killStep cfg s p c = some (s', qs, observed)) :
    ∀ o ∈ observed, o.Holds s := by
  unfold OpsProc.killStep at h
  split at h
  all_goals
    try dsimp only at h
    repeat' split at h
    all_goals first | (cases h; simp) | cases h

include hI in
/-- **What the receipts of one step say is so.** -/
lemma step_holds (h : OpsProc.step cfg s p c = some (s', qs, observed))
    (hG : StampedWhileRunning s p c) : ∀ o ∈ observed, o.Holds s := by
  unfold OpsProc.step at h
  split at h
  all_goals
    first
      | exact startStep_holds hp h hG
      | exact lookupStep_holds h
      | exact answerStep_holds hI hp h
      | exact ownerStep_holds h
      | exact recordStep_holds h
      | exact timerStep_holds h
      | exact killStep_holds h

end Holds

/-! ## Runs -/

/-- The map finds an entry that it holds. -/
lemma mem_of_execEntry {opID : String} {ref : ℕ} (h : s.execEntry opID = some ref) :
    (opID, ref) ∈ s.execs := by
  obtain ⟨before, after, heq, -⟩ := List.lookup_eq_some_iff.mp h
  rw [heq]
  simp

/-- The entry that a request joins is one of its op. -/
lemma join_has (hexecs : ∀ a ∈ s.execs, s.Has ⟨a.1, a.2⟩) (r : SandboxOpRequestV1) :
    (s.join r).1.Has ⟨sandboxOpIDV1 r, (s.join r).2⟩ := by
  unfold OpsLane.join
  split
  · rename_i ref href
    exact hexecs _ (mem_of_execEntry href)
  · exact ⟨opExec r, by simp, rfl⟩

/-- The successors of a process hold entries of their execs, for their requests. -/
lemma step_fits (hI : ExecLedger s obs) (hp : p.Fits s)
    (h : OpsProc.step cfg s p c = some (s', qs, observed)) (hG : StampedWhileRunning s p c) :
    ∀ q ∈ qs, q.Fits s' := by
  intro q hq
  obtain ⟨href, hans⟩ := step_follows h q hq
  have hle := (opsStep_effect h).later hI.current
  refine ⟨fun x hx => ?_, fun a ha => hp.about a (hans a ha), step_knows_exec hI hp h hG q hq⟩
  rcases href x hx with hx | hx | ⟨r, command, rfl, rfl⟩
  · exact hle.has (hp.has x hx)
  · exact hle.has (hI.execs _ (mem_of_execEntry hx))
  · have hs' : s' = (s.join r).1 := by
      cases c <;> simp only [OpsProc.step, OpsProc.startStep] at h <;> try cases h
      split at h <;> cases h
      rfl
    rw [hs']
    exact join_has hI.execs r

/-- **The ledger of the receipts is kept by every step** that puts a time to a running state only while
the exec has not ended. -/
lemma exec_history (cfg : OpsConfig) :
    Pool.History (opsLane cfg) StampedWhileRunning (fun _ => True) ExecLedger
      (fun s p => OpsProc.Fits s p) where
  spawn := by
    intro s obs q p _ _ h
    obtain ⟨r, payload⟩ := q
    simp only [opsLane, OpsConfig.spawn] at h
    split at h
    · split at h
      · rename_i hop
        obtain ⟨command, -, rfl⟩ := Option.map_eq_some_iff.mp h
        refine ⟨by simp [OpsProc.ref], ?_, trivial⟩
        simp only [OpsProc.answers, Option.mem_def, Option.some.injEq, forall_eq', execOf]
        exact if_pos hop
      all_goals try cases h
      all_goals
        rename_i hop
        refine ⟨by simp [OpsProc.ref], ?_, trivial⟩
        simp only [OpsProc.answers, Option.mem_def, Option.some.injEq, forall_eq', execOf]
        exact if_neg (by simp [show r.op = _ from hop])
    · cases h
  env := by
    intro s obs e hI
    obtain ⟨hle, hcur, hentries, hexecs⟩ := env_later cfg e hI.current
    refine ⟨⟨hcur, ?_, ?_, fun o ho => (hI.receipts o ho).later hle⟩, fun p hp => hp.later hle⟩
    · refine hI.ends.later hle fun ref e' he' => .inr ⟨e', ?_, rfl, rfl⟩
      rw [← hentries]
      exact he'
    · intro a ha
      replace ha : a ∈ (cfg.env s e).execs := ha
      rw [hexecs] at ha
      exact hle.has (hI.execs a ha)
  step := by
    intro s obs p c s' qs observed hI hp h hG
    have heffect := opsStep_effect h
    have hle := heffect.later hI.current
    refine ⟨⟨heffect.current hI.current, heffect.endsNoted hI hp, fun a ha => ?_, fun o ho => ?_⟩,
      step_fits hI hp h hG⟩
    · rcases heffect.execs a ha with ha | ⟨r, command, -, hentry, hid⟩
      · exact hle.has (hI.execs a ha)
      · exact ⟨opExec r, hentry, hid.symm⟩
    · rcases List.mem_append.mp ho with ho | ho
      · exact (hI.receipts o ho).later hle
      · exact (step_holds hI hp h hG o ho).later hle
  stable := by
    intro s obs p c s' qs observed q hI _ h _ hq
    exact hq.later ((opsStep_effect h).later hI.current)

/-- **Receipts of one exec do not contradict each other**, in every run in which the exec has not ended
where a time is put to its running state. For every interleaving of `exec_start`, `exec_read` and
`exec_cancel` requests, start owners, deadlines, kills and resolutions, with transactions that fail or
commit unreported, helper calls that answer anything, and a clock that does not go back: no receipt
reports the exec running after the end that another one reports, and the receipts that report an end
report the same one.

**Proof sketch.** The ledger: a receipt that reports the exec running was observed before the row ended,
since a row that ends later carries a later time; a receipt that reports an end reports a time from the
end of the row on, since the entry notes an end after it was recorded. The row of an exec ends once. -/
theorem exec_receipts_agree (cfg : OpsConfig) (clock : ℤ) (events : List OpsEvent)
    (hmeets : Pool.MeetsAt (opsLane cfg) StampedWhileRunning (OpsLane.init clock) events) :
    let trace := Machine.trace (opsLane cfg).serve (OpsLane.init clock) events
    ∀ r a r' b status status', .receipt r a ∈ trace → .receipt r' b ∈ trace → execOf r = execOf r' →
      a.exec = some status → b.exec = some status' → execTerminal status'.state = true →
      (status.state = .running → ∀ t, status'.endedAt = some t → ¬ t < a.observedAt) ∧
        (execTerminal status.state = true → status.state = status'.state) := by
  intro trace r a r' b status status' ha hb hexec hstatus hstatus' hterm
  obtain ⟨hI, -⟩ := (exec_history cfg).run_holds (s := OpsLane.init clock)
    ⟨.empty clock, by intro ref e he; simp [OpsLane.init] at he, by simp [OpsLane.init], by simp⟩
    (by simp [OpsLane.init]) (fun _ _ => trivial) hmeets
  have hne : ∀ {state : ExecState}, execTerminal state = true → state ≠ .running := by
    rintro _ hstate rfl
    cases hstate
  have hb' := hI.receipts _ hb status' hstatus'
  rw [if_neg (hne hterm)] at hb'
  obtain ⟨t', ht', hended'⟩ := hb'
  have ha' := hI.receipts _ ha status hstatus
  refine ⟨fun hrunning t ht hlt => ?_, fun hstate => ?_⟩
  · rw [if_pos hrunning, hexec] at ha'
    obtain ⟨-, row, hrow, hid, hrs, htime⟩ := hended'
    have hle := ha'.2 row hrow hid (hrs ▸ hterm)
    rw [ht', Option.some.injEq] at ht
    omega
  · rw [if_neg (hne hstate), hexec] at ha'
    obtain ⟨t, -, hended⟩ := ha'
    exact (hended.row_unique hI.current.sound hended').1

/-! ## An answer that waited -/

namespace Sample

open Protocol.Sample
open Durable.Sample (running)

variable {c n : Char} {validator : String}

/-- The sample documents, with a digest that tells a request with a timeout of 2 s from the others. -/
def execWire (c : Char) : OpWire :=
  { opWire with
    opDigest := fun r => some ("sha256:" ++
      (repeated (if r.timeoutMS = some 2000 then '9' else opDigit r.op) 32 ++ r.opNonce))
    contentDigest := fun _ => "sha256:" ++ (repeated c 32 ++ repeated c 32) }

def command : ExecCommand := ⟨["true"], "/", [], none⟩

/-- A lane with the sample documents. -/
def execConfig (c : Char) : OpsConfig where
  wire := execWire c
  budget := budget
  minerID := "miner"
  verify _ _ := true
  decodeExecCommand _ := some command
  sign _ := repeated 'e' 128

/-- An `exec_start` with a timeout of 1 s. -/
def first (c : Char) (validator : String) (n : Char) : SandboxOpRequestV1 :=
  start c validator n 1000 1024 0 second

def firstDigest (n : Char) : String := "sha256:" ++ (repeated '0' 32 ++ repeated n 32)

/-- Its rows, admitted at time 10. -/
def firstOp (c : Char) (validator : String) (n : Char) : OpRow :=
  opRow (first c validator n) (firstDigest n) 10

def firstExec (c : Char) (validator : String) (n : Char) : ExecRow := execRow (first c validator n) 10

/-- The exec ended at its deadline, at time 2 s. -/
def firstEnded (c : Char) (validator : String) (n : Char) : ExecRow :=
  { firstExec c validator n with state := .timedOut, updatedAtNs := 2 * second }

/-- The running sample lease until time 90 s, with the op. -/
def execStore (c : Char) (validator : String) (n : Char) (exec : ExecRow) (clock : ℤ) : OpsStore :=
  ⟨running c validator (90 * second), [firstOp c validator n], [exec], some clock⟩

lemma first_valid (hc : hexDigit c = true) (hv : validator ≠ "") (hn : hexDigit n = true) :
    (first c validator n).validate wire = .ok () :=
  start_valid hc hv hn (by decide) (by decide) (by decide) (by decide) (by decide) (by decide)

lemma digest_first : (execWire c).opDigest (first c validator n) = some (firstDigest n) := by
  simp [execWire, first, start, firstDigest, opDigit, request]

/-- A request of the lease targets it, whatever is recorded. -/
lemma leaseTx_exec (c : Char) (validator : String) (n : Char) (r : SandboxOpRequestV1) (hr : r = { first c validator n with
      timeoutMS := r.timeoutMS, maxOutputBytes := r.maxOutputBytes }) (ops : List OpRow)
    (execs : List ExecRow) (clock : Option ℤ) :
    sandboxOpLeaseTx (execWire c) ⟨running c validator (90 * second), ops, execs, clock⟩ r =
      some (Durable.Sample.leaseState (90 * second)) := by
  rw [hr]
  exact Durable.Sample.leaseTx_running rfl rfl rfl rfl rfl rfl

lemma serve_admit (hc : hexDigit c = true) (hv : validator ≠ "") (hn : hexDigit n = true) :
    serveOps (execWire c) budget ⟨running c validator (90 * second), [], [], none⟩
        (.admitOp (first c validator n) 10, .commits) =
      (execStore c validator n (firstExec c validator n) 10,
        .admission { decidedAt := 10, admittedAt := some 10, start := true }) := by
  have hvalid : (first c validator n).validate (execWire c).toWire = .ok () := first_valid hc hv hn
  have htx := leaseTx_exec c validator n (first c validator n) rfl [] []
    (some 10)
  have hlive : sandboxOpLeaseLive (Durable.Sample.leaseState (90 * second)) 10 = true := by decide
  have hwindow : (10 : ℤ) < (first c validator n).expiresAt := show (10 : ℤ) < second by decide
  have hop : (first c validator n).op = .execStart := rfl
  have hnow : nowTx ⟨running c validator (90 * second), [], [], none⟩ 10 =
      (10, ⟨running c validator (90 * second), [], [], some 10⟩) := rfl
  have hcaps : ¬ (maxRunningExecs ≤ 0 ∨ maxExecSessions ≤ 0) := by decide
  simp only [serveOps, performOps, admitOp, check, hvalid, digestOf, digest_first, bind, Except.bind,
    hnow, admitAt, htx, OpsStore.opByID, List.find?_nil, hwindow, hlive, hop, insertOp, settleOps,
    OpsStore.execCounts, List.countP_nil, hcaps, OpsStore.execByID]
  rfl

/-- What `ExecState` reads of the exec. -/
def seenAt (now : ℤ) (state : ExecState) : SandboxExecLookup :=
  { decidedAt := now, found := true, state := some state, admittedAt := some 10 }

lemma serve_execState (validator : String) (exec : ExecRow) {clock now : ℤ} (hid : exec.execID = opID c n)
    (hl : exec.leaseID = leaseID c) (hcode : exec.errorCode = none) (hat : exec.admittedAtNs = 10)
    (hclock : clock ≤ now) (hnow : now < 90 * second) :
    serveOps (execWire c) budget (execStore c validator n exec clock)
        (.execState (opID c n) now, .commits) =
      (execStore c validator n exec now, .execState (seenAt now exec.state) (some (90 * second))) := by
  have htx : nowTx (execStore c validator n exec clock) now =
      (now, execStore c validator n exec now) := by
    simp only [nowTx, execStore]
    split
    · rename_i hle
      obtain rfl : clock = now := le_antisymm hclock hle
      rfl
    · rfl
  have hexec : (execStore c validator n exec now).execByID (opID c n) = some exec := by
    simp [OpsStore.execByID, execStore, hid]
  have hlease : (execStore c validator n exec now).leases.leaseByID exec.leaseID =
      some (Durable.Sample.leaseRow c validator (90 * second)) := by
    have hid : (Durable.Sample.leaseRow c validator (90 * second)).leaseID = leaseID c := rfl
    simp [LeaseStore.leaseByID, execStore, running, hid, hl]
  have hstate : (Durable.Sample.leaseRow c validator (90 * second)).opState =
      Durable.Sample.leaseState (90 * second) := rfl
  have hlive : sandboxOpLeaseLive (Durable.Sample.leaseRow c validator (90 * second)).opState now =
      true := by
    simp [hstate, sandboxOpLeaseLive, Durable.Sample.leaseState, hnow]
  simp only [serveOps, performOps, execState, htx, hexec, hlease, hlive, if_true, ExecRow.lookup,
    hcode, hat]
  rfl

lemma serve_record :
    serveOps (execWire c) budget (execStore c validator n (firstExec c validator n) (2 * second))
        (.recordExecState (opID c n) .timedOut none (2 * second), .commits) =
      (execStore c validator n (firstEnded c validator n) (2 * second), .recorded) := by
  have hnow : nowTx (execStore c validator n (firstExec c validator n) (2 * second)) (2 * second) =
      (2 * second, execStore c validator n (firstExec c validator n) (2 * second)) := by
    simp [nowTx, execStore]
  have hid : (firstExec c validator n).execID = opID c n := rfl
  have hexec : (execStore c validator n (firstExec c validator n) (2 * second)).execByID (opID c n) =
      some (firstExec c validator n) := by
    simp [OpsStore.execByID, execStore, hid]
  have hstate : (firstExec c validator n).state = .admitted := rfl
  have hupdate : (execStore c validator n (firstExec c validator n) (2 * second)).setExec (opID c n)
      .timedOut none (2 * second) = execStore c validator n (firstEnded c validator n) (2 * second) := by
    simp only [OpsStore.setExec, execStore, Table.updateWhere, List.map_cons, List.map_nil, hid,
      BEq.rfl, if_true]
    rfl
  simp only [serveOps, performOps, recordExecState, checkTransition, bind, Except.bind, hnow, hexec,
    hstate, reduceCtorEq, false_and, if_false, execTerminal, hupdate, Bool.false_eq_true, or_self, Except.map, settleOps]

lemma serve_replay (hc : hexDigit c = true) (hv : validator ≠ "") (hn : hexDigit n = true) :
    serveOps (execWire c) budget (execStore c validator n (firstEnded c validator n) (2 * second))
        (.admitOp (first c validator n) (2 * second), .commits) =
      (execStore c validator n (firstEnded c validator n) (2 * second),
        .admission { decidedAt := 2 * second, admittedAt := some 10, replay := true }) := by
  have hvalid : (first c validator n).validate (execWire c).toWire = .ok () := first_valid hc hv hn
  have hnow : nowTx (execStore c validator n (firstEnded c validator n) (2 * second)) (2 * second) =
      (2 * second, execStore c validator n (firstEnded c validator n) (2 * second)) := by
    simp [nowTx, execStore]
  have htx : sandboxOpLeaseTx (execWire c)
      (execStore c validator n (firstEnded c validator n) (2 * second)) (first c validator n) = _ :=
    leaseTx_exec c validator n (first c validator n) rfl _ _ _
  have hlive : sandboxOpLeaseLive (Durable.Sample.leaseState (90 * second)) (2 * second) = true := by
    decide
  have hid : (firstOp c validator n).opID = sandboxOpIDV1 (first c validator n) := rfl
  have hop : (execStore c validator n (firstEnded c validator n) (2 * second)).opByID
      (sandboxOpIDV1 (first c validator n)) = some (firstOp c validator n) := by
    simp [OpsStore.opByID, execStore, hid]
  have hdigest : (firstOp c validator n).documentDigest = firstDigest n := rfl
  have hat : (firstOp c validator n).admittedAtNs = 10 := rfl
  simp only [serveOps, performOps, admitOp, check, hvalid, digestOf, digest_first, bind, Except.bind,
    hnow, admitAt, htx, hop, hdigest, ne_eq, not_true_eq_false, if_false, hlive, if_true, hat, settleOps]

/-- The receipt of the request that reports its exec in `status`. -/
def execDoc (c : Char) (validator : String) (n : Char) (stage : OpStage) (status : ExecStatus)
    (observed : ℤ) : SandboxOpReceiptV1 where
  documentDigest := firstDigest n
  eof := false
  errorCode := none
  exec := some status
  file := none
  generation := 1
  leaseID := leaseID c
  minerID := "miner"
  nextOffset := none
  observedAt := observed
  op := .execStart
  opID := opID c n
  resultBytes := 0
  resultDigest := none
  sandboxID := "sbx-" ++ repeated c 32
  schema := sandboxOpReceiptSchema
  schemaVersion := 1
  signature := ""
  stage := stage
  subnet := some (binding validator)

lemma firstDigest_valid (hn : hexDigit n = true) : validDigest (firstDigest n) = true := by
  rw [validDigest, firstDigest, hexAfter_append]
  simp only [lowercaseHex, repeated, String.toList_append, String.toList_ofList, List.length_append,
    List.length_replicate, List.all_append, List.all_replicate, Bool.and_eq_true]
  exact ⟨rfl, by simp [hn, show hexDigit '0' = true by decide]⟩

lemma execDoc_valid {stage : OpStage} {status : ExecStatus} {observed : ℤ} (hc : hexDigit c = true)
    (hv : validator ≠ "") (hn : hexDigit n = true) (hstage : execStateOfStage stage = some status.state)
    (hstatus : validExecStatus status observed = .ok ()) :
    (execDoc c validator n stage status observed).validateUnsigned wire = .ok () := by
  have hnames : opIDNames (opID c n) (leaseID c) = true := opIDNames_opID c hn
  have hlease : leaseIDNames (leaseID c) ("sbx-" ++ repeated c 32) "miner" 1 = true := leaseID_valid hc
  have hplain : stage ≠ .completed ∧ stage ≠ .refused ∧ stage ≠ .failed := by
    refine ⟨?_, ?_, ?_⟩ <;> rintro rfl <;> cases hstage
  obtain ⟨hcompleted, hrefused, hfailed⟩ := hplain
  simp only [SandboxOpReceiptV1.validateUnsigned, Except.bind_eq_ok]
  refine ⟨(), ?_, (), ?_, (), ?_, (), ?_, (), ?_, (), ?_, (), ?_, (), ?_, (), ?_, (), ?_, (), ?_,
    binding_valid hv⟩
  · simp [execDoc]
  · simp [execDoc, identity_valid hc, hlease, hnames, firstDigest_valid hn]
  · simp [execDoc, stageAnswers, isExecOp, hcompleted]
  · simp [execDoc, SandboxOpReceiptV1.wantCode, hrefused, hfailed, isExecOp]
  · simp [execDoc]
  · simp [execDoc, isExecOp]
  · simp [execDoc, SandboxOpReceiptV1.fileInfo]
  · simp [execDoc]
  · simp [execDoc, SandboxOpReceiptV1.result, opHasResult]
  · simp [execDoc, SandboxOpReceiptV1.resultCheck, SandboxOpReceiptV1.result, opHasResult]
  · simp [execDoc, SandboxOpReceiptV1.validateExec, isExecOp, hrefused, hstage, hstatus]

/-- The status of the exec that the lane has seen nothing of. -/
def statusAt (state : ExecState) (ended : Option ℤ) : ExecStatus where
  state := state
  startedAt := 10
  stdoutBytes := 0
  stdoutRetained := 0
  stderrBytes := 0
  stderrRetained := 0
  endedAt := ended
  exitCode := none

/-- The signed receipt. -/
def execSigned (c : Char) (validator : String) (n : Char) (stage : OpStage) (status : ExecStatus)
    (observed : ℤ) : SandboxOpReceiptV1 :=
  { execDoc c validator n stage status observed with signature := repeated 'e' 128 }

lemma signed_execDoc (stage : OpStage) (status : ExecStatus) (observed : ℤ) (hc : hexDigit c = true)
    (hv : validator ≠ "") (hn : hexDigit n = true) (hstage : execStateOfStage stage = some status.state)
    (hstatus : validExecStatus status observed = .ok ()) :
    OpsProc.signed (execConfig c) (first c validator n)
        (some (execDoc c validator n stage status observed)) =
      [.receipt (first c validator n) (execSigned c validator n stage status observed)] := by
  have hvalid : (execDoc c validator n stage status observed).validateUnsigned
      (execConfig c).wire.toWire = .ok () := execDoc_valid hc hv hn hstage hstatus
  simp only [OpsProc.signed, Option.bind_some, OpsConfig.signOp, hvalid]
  rfl

/-- The entry of the exec: joined, owned from time 10 on, ended at time 2 s. -/
def joined (c : Char) (validator : String) (n : Char) : OpExec := opExec (first c validator n)

def owned (c : Char) (validator : String) (n : Char) : OpExec := (joined c validator n).own 10

def noted (c : Char) (validator : String) (n : Char) : OpExec :=
  { owned c validator n with endedAt := some (2 * second) }

/-- The lane with that entry. -/
def laneAt (c n : Char) (clock : ℤ) (store : OpsStore) (entry : OpExec) : OpsLane :=
  ⟨clock, store, [entry], [(opID c n, 0)], false⟩

/-- The tables before the admission. -/
def leased (c : Char) (validator : String) : OpsStore := ⟨running c validator (90 * second), [], [], none⟩

/-- The exec with its entry. -/
def ref (c n : Char) : ExecRef := ⟨opID c n, 0⟩

def admitted : SandboxOpAdmission := { decidedAt := 10, admittedAt := some 10, start := true }

def replayed : SandboxOpAdmission := { decidedAt := 2 * second, admittedAt := some 10, replay := true }

section Steps

variable (hc : hexDigit c = true) (hv : validator ≠ "") (hn : hexDigit n = true)

lemma step_start :
    (opsLane (execConfig c)).step ⟨10, leased c validator, [], [], false⟩
        (.start (first c validator n) command) .next =
      some (laneAt c n 10 (leased c validator) (joined c validator n),
        [.startAdmit (first c validator n) command 0], []) := rfl

include hc hv hn in
lemma step_startAdmit :
    (opsLane (execConfig c)).step (laneAt c n 10 (leased c validator) (joined c validator n))
        (.startAdmit (first c validator n) command 0) (.tx .commits) =
      some (laneAt c n 10 (execStore c validator n (firstExec c validator n) 10) (joined c validator n),
        [.launch (first c validator n) command 0 admitted], []) := by
  simp only [opsLane, OpsProc.step, OpsProc.startStep, OpsLane.tx, execConfig, laneAt, leased,
    serve_admit hc hv hn]
  rfl

lemma step_launch {store : OpsStore} :
    (opsLane (execConfig c)).step (laneAt c n 10 store (joined c validator n))
        (.launch (first c validator n) command 0 admitted) .next =
      some (laneAt c n 10 store (owned c validator n),
        [.owner (ref c n) command 0, .startStatus (first c validator n) 0 admitted], []) := rfl

lemma step_startStatus {store : OpsStore} :
    (opsLane (execConfig c)).step (laneAt c n 10 store (owned c validator n))
        (.startStatus (first c validator n) 0 admitted) .next =
      some (laneAt c n 10 store (owned c validator n),
        [.startNow (first c validator n) (statusAt .running none) 10], []) := rfl

lemma step_owner :
    (opsLane (execConfig c)).step
        (laneAt c n (2 * second) (execStore c validator n (firstExec c validator n) 10)
          (owned c validator n)) (.owner (ref c n) command 0) (.tx .commits) =
      some (laneAt c n (2 * second) (execStore c validator n (firstExec c validator n) (2 * second))
          (owned c validator n),
        [.ownerDecide (ref c n) command (seenAt (2 * second) .admitted) (some (90 * second))], []) := by
  have h := serve_execState validator (firstExec c validator n) rfl rfl rfl rfl
    (show (10 : ℤ) ≤ 2 * second by decide) (by decide)
  simp only [opsLane, OpsProc.step, OpsProc.ownerStep, OpsLane.tx, execConfig, laneAt, ref, h]
  rfl

lemma step_ownerDecide {store : OpsStore} :
    (opsLane (execConfig c)).step (laneAt c n (2 * second) store (owned c validator n))
        (.ownerDecide (ref c n) command (seenAt (2 * second) .admitted) (some (90 * second))) .next =
      some (laneAt c n (2 * second) store (owned c validator n),
        [.record (ref c n) .timedOut none 0 .failing], []) := by
  have hdeadline : (owned c validator n).deadline (some (90 * second)) ≤ 2 * second :=
    show min (10 + ((1000 : ℕ) : ℤ) * millisecond) (90 * second) ≤ 2 * second by decide
  have hentry : (laneAt c n (2 * second) store (owned c validator n)).entries[(ref c n).ref]? =
      some (owned c validator n) := rfl
  have hcancel : (owned c validator n).cancelPending = false := rfl
  simp only [opsLane, OpsProc.step, OpsProc.ownerStep, hentry, hcancel, seenAt, hdeadline]
  rfl

lemma step_record :
    (opsLane (execConfig c)).step
        (laneAt c n (2 * second) (execStore c validator n (firstExec c validator n) (2 * second))
          (owned c validator n)) (.record (ref c n) .timedOut none 0 .failing) (.tx .commits) =
      some (laneAt c n (2 * second) (execStore c validator n (firstEnded c validator n) (2 * second))
          (owned c validator n), [.markEnded (ref c n) .failing], []) := by
  simp only [opsLane, OpsProc.step, OpsProc.recordStep, OpsLane.tx, execConfig, laneAt, ref, serve_record]
  rfl

lemma step_markEnded {store : OpsStore} :
    (opsLane (execConfig c)).step (laneAt c n (2 * second) store (owned c validator n))
        (.markEnded (ref c n) .failing) .next =
      some (laneAt c n (2 * second) store (noted c validator n), [], []) := rfl

lemma step_join {store : OpsStore} {entry : OpExec} :
    (opsLane (execConfig c)).step (laneAt c n (2 * second) store entry)
        (.start (first c validator n) command) .next =
      some (laneAt c n (2 * second) store entry, [.startAdmit (first c validator n) command 0], []) := by
  have hentry : (laneAt c n (2 * second) store entry).execEntry
      (sandboxOpIDV1 (first c validator n)) = some 0 := by
    have hid : sandboxOpIDV1 (first c validator n) = opID c n := rfl
    simp [OpsLane.execEntry, laneAt, hid]
  simp only [opsLane, OpsProc.step, OpsProc.startStep, OpsLane.join, hentry]
  rfl

include hc hv hn in
lemma step_replay :
    (opsLane (execConfig c)).step
        (laneAt c n (2 * second) (execStore c validator n (firstEnded c validator n) (2 * second))
          (noted c validator n)) (.startAdmit (first c validator n) command 0) (.tx .commits) =
      some (laneAt c n (2 * second) (execStore c validator n (firstEnded c validator n) (2 * second))
          (noted c validator n), [.launch (first c validator n) command 0 replayed], []) := by
  simp only [opsLane, OpsProc.step, OpsProc.startStep, OpsLane.tx, execConfig, laneAt, serve_replay hc hv hn]
  rfl

lemma step_relaunch {store : OpsStore} :
    (opsLane (execConfig c)).step (laneAt c n (2 * second) store (noted c validator n))
        (.launch (first c validator n) command 0 replayed) .next =
      some (laneAt c n (2 * second) store (noted c validator n),
        [.answer (first c validator n) (opID c n) none], []) := rfl

lemma step_answer :
    (opsLane (execConfig c)).step
        (laneAt c n (2 * second) (execStore c validator n (firstEnded c validator n) (2 * second))
          (noted c validator n)) (.answer (first c validator n) (opID c n) none) (.tx .commits) =
      some (laneAt c n (2 * second) (execStore c validator n (firstEnded c validator n) (2 * second))
          (noted c validator n),
        [.answerEntry (first c validator n) (opID c n) none (seenAt (2 * second) .timedOut)], []) := by
  have h := serve_execState validator (firstEnded c validator n) rfl rfl rfl rfl
    (le_refl (2 * second)) (by decide)
  simp only [opsLane, OpsProc.step, OpsProc.answerStep, OpsLane.tx, execConfig, laneAt, h]
  rfl

lemma step_answerEntry {store : OpsStore} {entry : OpExec} :
    (opsLane (execConfig c)).step (laneAt c n (2 * second) store entry)
        (.answerEntry (first c validator n) (opID c n) none (seenAt (2 * second) .timedOut)) .next =
      some (laneAt c n (2 * second) store entry,
        [.answerNow (first c validator n) (ref c n) none (seenAt (2 * second) .timedOut)], []) := by
  have hentry : (laneAt c n (2 * second) store entry).execEntry (opID c n) = some 0 := by
    simp [OpsLane.execEntry, laneAt]
  simp only [opsLane, OpsProc.step, OpsProc.answerStep, hentry]
  rfl

lemma step_answerNow {store : OpsStore} {entry : OpExec} :
    (opsLane (execConfig c)).step (laneAt c n (2 * second) store entry)
        (.answerNow (first c validator n) (ref c n) none (seenAt (2 * second) .timedOut)) .next =
      some (laneAt c n (2 * second) store entry,
        [.answerStatus (first c validator n) (ref c n) none (seenAt (2 * second) .timedOut) (2 * second)], []) := rfl

include hc hv hn in
lemma step_answerStatus {store : OpsStore} :
    (opsLane (execConfig c)).step (laneAt c n (2 * second) store (noted c validator n))
        (.answerStatus (first c validator n) (ref c n) none (seenAt (2 * second) .timedOut) (2 * second)) .next =
      some (laneAt c n (2 * second) store (noted c validator n), [],
        [.receipt (first c validator n)
          (execSigned c validator n .timedOut (statusAt .timedOut (some (2 * second))) (2 * second))]) := by
  have hdoc : (execConfig c).execReceipt (first c validator n) (seenAt (2 * second) .timedOut)
      ((noted c validator n).status (reported .timedOut) 10 (2 * second)) (2 * second) none =
      some (execDoc c validator n .timedOut (statusAt .timedOut (some (2 * second))) (2 * second)) := by
    simp only [OpsConfig.execReceipt, OpsConfig.opBase, execConfig, digest_first]
    rfl
  have hsigned := signed_execDoc .timedOut (statusAt .timedOut (some (2 * second)))
    (2 * second) hc hv hn rfl (by decide)
  rw [← hsigned, ← hdoc]
  rfl

include hc hv hn in
lemma step_startNow {store : OpsStore} {entry : OpExec} {clock : ℤ} (hclock : 10 ≤ clock) :
    (opsLane (execConfig c)).step (laneAt c n clock store entry)
        (.startNow (first c validator n) (statusAt .running none) 10) .next =
      some (laneAt c n clock store entry, [],
        [.receipt (first c validator n)
          (execSigned c validator n .running (statusAt .running none) clock)]) := by
  have hdoc : ((execConfig c).opBase (first c validator n) .running (later clock 10)).map
      ({ · with exec := some (statusAt .running none) }) =
      some (execDoc c validator n .running (statusAt .running none) clock) := by
    rw [show later clock 10 = clock from max_eq_left hclock]
    simp only [OpsConfig.opBase, execConfig, digest_first]
    rfl
  have hstatus : validExecStatus (statusAt .running none) clock = .ok () := by
    simp [validExecStatus, statusAt, hclock, maxSafeInteger]
  have hsigned := signed_execDoc .running (statusAt .running none) clock hc hv hn rfl hstatus
  rw [← hsigned, ← hdoc]
  rfl

end Steps

/-- The lease lane starts the sample lease. -/
def leaseEvents (c : Char) (validator : String) : List OpsEvent :=
  (Durable.Sample.startup c validator (90 * second)).map fun op => .env (.lease op)

lemma runs_leases {cfg : OpsConfig} {s : OpsLane} {ops : List LeaseOp} {events : List OpsEvent}
    {t : Pool.Config OpsLane OpsProc} {obs : List OpsObservation}
    (h : Pool.Runs (opsLane cfg)
      ⟨⟨s.clock, Machine.run (serveOps cfg.wire cfg.budget) s.store
        (ops.map fun op => (.lease op, .commits)), s.entries, s.execs, s.mu⟩, []⟩ events t obs) :
    Pool.Runs (opsLane cfg) ⟨s, []⟩ (ops.map (fun op => .env (.lease op)) ++ events) t obs := by
  induction ops generalizing s with
  | nil => exact h
  | cons op ops ih =>
    rw [List.map_cons, List.cons_append]
    exact .env rfl (ih h)

/-- The lease is running. -/
lemma run_leased (hc : hexDigit c = true) (hv : validator ≠ "") :
    Machine.run (serveOps (execConfig c).wire (execConfig c).budget) .empty
      ((Durable.Sample.startup c validator (90 * second)).map fun op => (.lease op, .commits)) =
      leased c validator := by
  rw [Durable.Sample.runOps_leases]
  have h := Durable.Sample.run_startup hc hv (show 3 < 90 * second by decide)
    (show 90 * second ≤ maxLeaseWindow by decide)
  exact congrArg (fun l : LeaseStore => (⟨l, [], [], none⟩ : OpsStore)) h

lemma runs_leased {events : List OpsEvent} {t : Pool.Config OpsLane OpsProc}
    {obs : List OpsObservation} (hc : hexDigit c = true) (hv : validator ≠ "")
    (h : Pool.Runs (opsLane (execConfig c)) ⟨⟨0, leased c validator, [], [], false⟩, []⟩ events t obs) :
    Pool.Runs (opsLane (execConfig c)) (OpsLane.init 0) (leaseEvents c validator ++ events) t obs := by
  refine runs_leases ?_
  have hrun := run_leased hc hv
  change Pool.Runs (opsLane (execConfig c))
    ⟨⟨0, Machine.run _ OpsStore.empty _, [], [], false⟩, []⟩ events t obs
  rw [hrun]
  exact h

/-- The request with its payload. -/
def firstRequest (c : Char) (validator : String) (n : Char) : OpsRequest := ⟨first c validator n, [0]⟩

lemma spawn_first (s : OpsLane) : (opsLane (execConfig c)).spawn s (firstRequest c validator n) =
    some (.start (first c validator n) command) := by
  have hmatches : payloadMatches (execWire c) (first c validator n) [0] = true := by
    simp [payloadMatches, first, start, execWire]
  simp only [opsLane, OpsConfig.spawn, firstRequest, execConfig, hmatches]
  rfl

/-- The exec is started at time 10, and ends at its deadline, at time 2 s, before its helper call; a
replay is answered; the first answer is signed at time 3 s. -/
def waitedEvents (c : Char) (validator : String) (n : Char) : List OpsEvent :=
  [.env (.clock 10), .arrive (firstRequest c validator n), .run 0 .next, .run 0 (.tx .commits),
    .run 0 .next, .run 1 .next,
    .env (.clock (2 * second)), .run 0 (.tx .commits), .run 0 .next, .run 0 (.tx .commits), .run 0 .next,
    .arrive (firstRequest c validator n), .run 1 .next, .run 1 (.tx .commits), .run 1 .next,
    .run 1 (.tx .commits), .run 1 .next, .run 1 .next, .run 1 .next,
    .env (.clock (3 * second)), .run 0 .next]

lemma runs_waited (hc : hexDigit c = true) (hv : validator ≠ "") (hn : hexDigit n = true) :
    Pool.Runs (opsLane (execConfig c)) (OpsLane.init 0)
      (leaseEvents c validator ++ waitedEvents c validator n)
      ⟨laneAt c n (3 * second) (execStore c validator n (firstEnded c validator n) (2 * second))
        (noted c validator n), []⟩
      [.receipt (first c validator n)
          (execSigned c validator n .timedOut (statusAt .timedOut (some (2 * second))) (2 * second)),
        .receipt (first c validator n)
          (execSigned c validator n .running (statusAt .running none) (3 * second))] := by
  refine runs_leased hc hv ?_
  refine .env (show _ = (⟨10, leased c validator, [], [], false⟩ : OpsLane) from rfl) ?_
  refine .arrive (spawn_first _) ?_
  refine .step step_start rfl rfl ?_
  refine .step (step_startAdmit hc hv hn) rfl rfl ?_
  refine .step step_launch rfl rfl ?_
  refine .step step_startStatus rfl rfl ?_
  refine .env rfl ?_
  refine .step step_owner rfl rfl ?_
  refine .step step_ownerDecide rfl rfl ?_
  refine .step step_record rfl rfl ?_
  refine .step step_markEnded rfl rfl ?_
  change Pool.Runs (opsLane (execConfig c))
    ⟨_, [.startNow (first c validator n) (statusAt .running none) 10]⟩ _ _ _
  refine .arrive (spawn_first _) ?_
  refine .step step_join rfl rfl ?_
  refine .step (step_replay hc hv hn) rfl rfl ?_
  refine .step step_relaunch rfl rfl ?_
  change Pool.Runs (opsLane (execConfig c))
    ⟨_, [.startNow (first c validator n) (statusAt .running none) 10,
      .answer (first c validator n) (opID c n) none]⟩ _ _ _
  refine .step step_answer rfl rfl ?_
  refine .step step_answerEntry rfl rfl ?_
  refine .step step_answerNow rfl rfl ?_
  change Pool.Runs (opsLane (execConfig c))
    ⟨_, [.startNow (first c validator n) (statusAt .running none) 10,
      .answerStatus (first c validator n) (ref c n) none (seenAt (2 * second) .timedOut) (2 * second)]⟩ _ _ _
  refine .step (step_answerStatus hc hv hn) rfl rfl ?_
  change Pool.Runs (opsLane (execConfig c))
    ⟨_, [.startNow (first c validator n) (statusAt .running none) 10]⟩ _ _ _
  refine .env rfl ?_
  refine .step (step_startNow hc hv hn (show 10 ≤ 3 * second by decide)) rfl rfl .nil

/-- The exec is started at time 10, and the first answer is signed at once. -/
def promptEvents (c : Char) (validator : String) (n : Char) : List OpsEvent :=
  [.env (.clock 10), .arrive (firstRequest c validator n), .run 0 .next, .run 0 (.tx .commits),
    .run 0 .next, .run 1 .next, .run 1 .next]

lemma meetsAt_leases {cfg : OpsConfig} {G : OpsLane → OpsProc → OpsChoice → Prop} {s : OpsLane}
    {ops : List LeaseOp} {events : List OpsEvent}
    (h : Pool.MeetsAt (opsLane cfg) G
      ⟨⟨s.clock, Machine.run (serveOps cfg.wire cfg.budget) s.store
        (ops.map fun op => (.lease op, .commits)), s.entries, s.execs, s.mu⟩, []⟩ events) :
    Pool.MeetsAt (opsLane cfg) G ⟨s, []⟩ (ops.map (fun op => .env (.lease op)) ++ events) := by
  induction ops generalizing s with
  | nil => exact h
  | cons op ops ih =>
    rw [List.map_cons, List.cons_append]
    exact .env rfl (ih h)

lemma meetsAt_leased {G : OpsLane → OpsProc → OpsChoice → Prop} {events : List OpsEvent}
    (hc : hexDigit c = true) (hv : validator ≠ "")
    (h : Pool.MeetsAt (opsLane (execConfig c)) G ⟨⟨0, leased c validator, [], [], false⟩, []⟩ events) :
    Pool.MeetsAt (opsLane (execConfig c)) G (OpsLane.init 0) (leaseEvents c validator ++ events) := by
  refine meetsAt_leases ?_
  have hrun := run_leased hc hv
  change Pool.MeetsAt (opsLane (execConfig c)) G
    ⟨⟨0, Machine.run _ OpsStore.empty _, [], [], false⟩, []⟩ events
  rw [hrun]
  exact h

lemma meetsAt_prompt (hc : hexDigit c = true) (hv : validator ≠ "") (hn : hexDigit n = true) :
    Pool.MeetsAt (opsLane (execConfig c)) StampedWhileRunning (OpsLane.init 0)
      (leaseEvents c validator ++ promptEvents c validator n) := by
  have hquiet : ∀ {s : OpsLane} {p : OpsProc} {c : OpsChoice}, p.stamps = none →
      StampedWhileRunning s p c := by
    intro s p c hp execID hid
    rw [hp] at hid
    cases hid
  refine meetsAt_leased hc hv ?_
  refine .env (show _ = (⟨10, leased c validator, [], [], false⟩ : OpsLane) from rfl) ?_
  refine .arrive (spawn_first _) ?_
  refine .run step_start rfl (hquiet rfl) ?_
  refine .run (step_startAdmit hc hv hn) rfl (hquiet rfl) ?_
  refine .run step_launch rfl (hquiet rfl) ?_
  refine .run step_startStatus rfl (hquiet rfl) ?_
  refine .run (step_startNow hc hv hn le_rfl) rfl ?_ .nil
  intro execID _ row hrow _
  rw [List.mem_singleton.mp hrow]
  rfl

end Sample

/-- A run whose first answer is signed while the exec is admitted. -/
theorem exec_receipts_agree_prompt :
    let trace := Machine.trace (opsLane (Sample.execConfig 'a')).serve (OpsLane.init 0)
      (Sample.leaseEvents 'a' "validator" ++ Sample.promptEvents 'a' "validator" '1')
    ∀ r a r' b status status', .receipt r a ∈ trace → .receipt r' b ∈ trace → execOf r = execOf r' →
      a.exec = some status → b.exec = some status' → execTerminal status'.state = true →
      (status.state = .running → ∀ t, status'.endedAt = some t → ¬ t < a.observedAt) ∧
        (execTerminal status.state = true → status.state = status'.state) :=
  exec_receipts_agree (Sample.execConfig 'a') 0 _
    (Sample.meetsAt_prompt (by decide) (by decide) (by decide))

/-- **The first answer can report an exec running after its end.** An `exec_start` is admitted at time 10
and its handler waits before it reads the clock. The exec is past its deadline when its start owner
reads it, at time 2 s: it ends, and a replay reports that it ended at 2 s. The handler signs its own
answer at time 3 s: the exec is running. -/
theorem running_after_end :
    let trace := Machine.trace (opsLane (Sample.execConfig 'a')).serve (OpsLane.init 0)
      (Sample.leaseEvents 'a' "validator" ++ Sample.waitedEvents 'a' "validator" '1')
    ∃ r a b status status', .receipt r a ∈ trace ∧ .receipt r b ∈ trace ∧
      a.exec = some status ∧ status.state = .running ∧ a.observedAt = 3 * second ∧
      b.exec = some status' ∧ status'.state = .timedOut ∧ status'.endedAt = some (2 * second) := by
  intro trace
  have hruns := Sample.runs_waited (show hexDigit 'a' = true by decide)
    (show "validator" ≠ "" by decide) (show hexDigit '1' = true by decide)
  rw [show trace = _ from hruns.trace]
  exact ⟨_, _, _, _, _, List.Mem.tail _ (List.Mem.head _), List.Mem.head _, rfl, rfl, rfl, rfl, rfl, rfl⟩

end Misscomputer.Miner
