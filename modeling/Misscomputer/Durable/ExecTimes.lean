import Misscomputer.Durable.Execs

set_option relaxedAutoImplicit false
set_option autoImplicit false

/-!
# When an exec row was last written

On a clock that does not go back every transaction decides at its own reading of the clock. A row that
a transaction writes carries that reading, a row that has ended is not written again, and the answers
of a transaction describe the rows it leaves.

## Main definitions

* `Durable.OpsStore.Current` — the tables hold no time after `now`.
* `Durable.OpsStore.Written` — what a transaction at `now` writes to the exec rows.

## Main results

* `Durable.serveOps_written` — every call at `now` is such a transaction.
* `Durable.execState_answer`, `Durable.recorded_answer`, `Durable.ended_answer`,
  `Durable.admission_answer` — what an answer says of the tables.
-/

namespace Misscomputer.Durable

open Sandbox Protocol

variable {w : OpWire} {budget : Capacity} {s s' : OpsStore} {now : ℤ}

/-- The tables are sound and hold no time after `now`. -/
structure OpsStore.Current (now : ℤ) (s : OpsStore) : Prop where
  sound : s.Sound
  clock : ∀ c, s.clock = some c → c ≤ now
  updated : ∀ e ∈ s.execs, e.updatedAtNs ≤ now

lemma OpsStore.Current.empty (now : ℤ) : OpsStore.empty.Current now :=
  ⟨.empty, by simp [OpsStore.empty], by simp [OpsStore.empty]⟩

lemma OpsStore.Current.later (h : s.Current now) {now' : ℤ} (hle : now ≤ now') : s.Current now' :=
  ⟨h.sound, fun c hc => (h.clock c hc).trans hle, fun e he => (h.updated e he).trans hle⟩

/-- **What a transaction at `now` writes to the exec rows**: a row that is not an old one carries `now`,
and a row that has ended stays. No op row is removed. -/
structure OpsStore.Written (now : ℤ) (s s' : OpsStore) : Prop where
  current : s'.Current now
  rows : ∀ e ∈ s'.execs, e ∈ s.execs ∨ e.updatedAtNs = now
  ended : ∀ e ∈ s.execs, execTerminal e.state = true → e ∈ s'.execs
  ops : ∀ o ∈ s.ops, o ∈ s'.ops

/-- The clock reading of a call. -/
def OpsCall.wall : OpsCall → Option ℤ
  | .admitOp _ wall | .lookupExec _ wall | .execState _ wall | .recordExecState _ _ _ wall
  | .recordAdmittedExecEnd _ _ wall | .renewLease _ wall => some wall
  | .lease _ => none

/-- On a clock that does not go back a transaction decides at its reading. -/
lemma OpsStore.Current.nowTx (h : s.Current now) :
    Durable.nowTx s now = (now, { s with clock := some now }) := by
  obtain ⟨leases, ops, execs, clock⟩ := s
  cases clock with
  | none => rfl
  | some c =>
    have hc : c ≤ now := h.clock c rfl
    by_cases hle : now ≤ c
    · obtain rfl : c = now := le_antisymm hc hle
      simp [Durable.nowTx]
    · simp [Durable.nowTx, hle]

/-! ## What is written -/

/-- What the tables keep in a step. -/
lemma OpsStore.Step.keeps (hstep : s.Step budget s') :
    (∀ e ∈ s.execs, execTerminal e.state = true → e ∈ s'.execs) ∧ ∀ o ∈ s.ops, o ∈ s'.ops := by
  cases hstep with
  | evolve leases f clock lease_step execs mono =>
    refine ⟨fun e he ht => ?_, fun o ho => ho⟩
    have hfe : f e = e := (execs e he).of_terminal ht
    exact List.mem_map.mpr ⟨e, he, hfe⟩
  | enter row clock other fresh mono => exact ⟨fun e he _ => he, fun o ho => List.mem_append_left _ ho⟩
  | start row exec clock =>
    exact ⟨fun e he _ => List.mem_append_left _ he, fun o ho => List.mem_append_left _ ho⟩

/-- A transaction at `now` that leaves the tables `t`: a row that is not an old one carries `now`, and
the high-water time is not after `now`. -/
def OpsStore.StampedBy (now : ℤ) (s t : OpsStore) : Prop :=
  (∀ e ∈ t.execs, e ∈ s.execs ∨ e.updatedAtNs = now) ∧ ∀ c, t.clock = some c → c ≤ now

/-- What holds of the tables before a transaction and of those it decides holds of those it leaves. -/
lemma settleOps_rule {α : Type} {Q : OpsStore → Prop} {x : Except StoreError (Decided α)}
    {answer : α → OpsAnswer} (hs : Q s) (hx : ∀ a t, x = .ok (a, t) → Q t) :
    Q (settleOps s x answer).1 := by
  match x, hx with
  | .ok (.ok a, t), hx => exact hx _ t rfl
  | .ok (.error e, t), hx => exact hx _ t rfl
  | .error e, _ => exact hs

/-- An update that stamps what it touches. -/
lemma stampedBy_updateWhere (leases : LeaseStore) (ops : List OpRow) {p : ExecRow → Bool}
    {f : ExecRow → ExecRow} (hf : ∀ e, (f e).updatedAtNs = now) :
    s.StampedBy now ⟨leases, ops, Table.updateWhere p f s.execs, some now⟩ := by
  refine ⟨fun e he => ?_, fun c hc => (Option.some.inj hc).ge⟩
  obtain ⟨y, hy, rfl⟩ := List.mem_map.mp he
  split
  · exact .inr (hf y)
  · exact .inl hy

lemma admitAt_stampedBy {req : SandboxOpRequestV1} {digest : String}
    {a : Except StoreError SandboxOpAdmission} {t : OpsStore}
    (h : admitAt w { s with clock := some now } req digest now = .ok (a, t)) : s.StampedBy now t := by
  have hsame : s.StampedBy now { s with clock := some now } :=
    ⟨fun e he => .inl he, fun c hc => (Option.some.inj hc).ge⟩
  obtain ⟨rfl, -⟩ | ⟨rfl, -⟩ | ⟨rfl, -⟩ | ⟨-, -, -, -, hins, -⟩ := admitAt_cases h
  · exact hsame
  · exact hsame
  · exact hsame
  · obtain ⟨-, rfl⟩ | ⟨-, rfl⟩ := insertOp_eq_ok hins
    · exact hsame
    · refine ⟨fun e he => ?_, hsame.2⟩
      rcases List.mem_append.mp he with he | he
      · exact .inl he
      · rw [List.mem_singleton.mp he]
        exact .inr rfl

/-- A call that commits at `now` writes at `now`. -/
lemma performOps_stampedBy (w : OpWire) (budget : Capacity) (h : s.Current now) {call : OpsCall} (hwall : ∀ t ∈ call.wall, t = now) :
    s.StampedBy now (performOps w budget s call).1 := by
  have hsame : s.StampedBy now s := ⟨fun e he => .inl he, h.clock⟩
  have hclock : s.StampedBy now { s with clock := some now } :=
    ⟨fun e he => .inl he, fun c hc => (Option.some.inj hc).ge⟩
  cases call with
  | admitOp req wall =>
    obtain rfl : wall = now := hwall wall rfl
    refine settleOps_rule hsame fun a t ha => ?_
    simp only [admitOp, Except.bind_eq_ok, h.nowTx] at ha
    obtain ⟨_, -, digest, -, ha⟩ := ha
    exact admitAt_stampedBy ha
  | lookupExec req wall =>
    obtain rfl : wall = now := hwall wall rfl
    refine settleOps_rule hsame fun a t ha => ?_
    rw [lookupExec_eq_ok ha, h.nowTx]
    exact hclock
  | execState execID wall =>
    obtain rfl : wall = now := hwall wall rfl
    change s.StampedBy wall (execState s execID wall).2
    rw [execState_snd, h.nowTx]
    exact hclock
  | recordExecState execID state code wall =>
    obtain rfl : wall = now := hwall wall rfl
    refine settleOps_rule hsame fun a t ha => ?_
    cases hr : recordExecState s execID state code wall with
    | error err => rw [hr] at ha; cases ha
    | ok u =>
      rw [hr] at ha
      cases ha
      obtain ⟨e, -, -, ⟨-, -, rfl⟩ | ⟨-, rfl⟩⟩ := recordExecState_eq_ok hr
      · rw [h.nowTx]
        exact hclock
      · rw [h.nowTx]
        exact stampedBy_updateWhere _ _ fun _ => rfl
  | recordAdmittedExecEnd execID state wall =>
    obtain rfl : wall = now := hwall wall rfl
    refine settleOps_rule hsame fun a t ha => ?_
    cases hr : recordAdmittedExecEnd s execID state wall with
    | error err => rw [hr] at ha; cases ha
    | ok u =>
      rw [hr] at ha
      cases ha
      obtain ⟨-, e, -, ⟨-, -, hu⟩ | ⟨-, -, hu⟩⟩ := recordAdmittedExecEnd_eq_ok hr
      · rw [hu, h.nowTx]
        exact hclock
      · rw [hu, h.nowTx]
        exact stampedBy_updateWhere _ _ fun _ => rfl
  | renewLease r wall =>
    obtain rfl : wall = now := hwall wall rfl
    refine settleOps_rule hsame fun a t ha => ?_
    cases hr : renewLease w s r wall with
    | error err => rw [hr] at ha; cases ha
    | ok u =>
      rw [hr] at ha
      cases ha
      simp only [renewLease, Except.bind_eq_ok, h.nowTx] at hr
      obtain ⟨⟨o, leases⟩, -, hr⟩ := hr
      cases hr
      exact hclock
  | lease op => exact hsame

/-- **Every call at `now` writes at `now`**, whatever becomes of its transaction. -/
lemma serveOps_written (w : OpWire) (budget : Capacity) (h : s.Current now) {call : OpsCall}
    (hwall : ∀ t ∈ call.wall, t = now) (fate : Fate) :
    s.Written now (serveOps w budget s (call, fate)).1 := by
  have hperform : s.Written now (performOps w budget s call).1 := by
    have hstep : s.Step budget (performOps w budget s call).1 := performOps_step h.sound call
    obtain ⟨hrows, hclock⟩ := performOps_stampedBy w budget h hwall
    refine ⟨⟨hstep.sound h.sound, hclock, fun e he => ?_⟩, hrows, hstep.keeps.1, hstep.keeps.2⟩
    rcases hrows e he with he | he
    · exact h.updated e he
    · exact he.le
  cases fate with
  | commits => exact hperform
  | rollsBack => exact ⟨h, fun e he => .inl he, fun e he _ => he, fun o ho => ho⟩
  | unreported => exact hperform

/-! ## What the answers say -/

/-- Only a transaction that commits answers other than with an error. -/
lemma serveOps_eq_perform {call : OpsCall} {fate : Fate} {a : OpsAnswer}
    (h : (serveOps w budget s (call, fate)).2 = a) (ha : ∀ e, a ≠ .error e) :
    (performOps w budget s call).2 = a ∧
      (serveOps w budget s (call, fate)).1 = (performOps w budget s call).1 := by
  cases fate with
  | commits => exact ⟨h, rfl⟩
  | rollsBack => exact absurd h.symm (ha _)
  | unreported => exact absurd h.symm (ha _)

/-- A transaction that answers with a value decided it. -/
lemma settleOps_eq_some {α : Type} {x : Except StoreError (Decided α)} {answer : α → OpsAnswer}
    {a : OpsAnswer} (h : (settleOps s x answer).2 = a) (ha : ∀ e, a ≠ .error e) :
    ∃ b t, x = .ok (.ok b, t) ∧ answer b = a ∧ (settleOps s x answer).1 = t := by
  match x, h with
  | .ok (.ok b, t), h => exact ⟨b, t, rfl, h, rfl⟩
  | .ok (.error e, t), h => exact absurd h.symm (ha e)
  | .error e, h => exact absurd h.symm (ha e)

/-- **What `ExecState` reports** is in the tables it leaves. -/
lemma execState_answer {execID : String} {fate : Fate} {seen : SandboxExecLookup}
    {expires : Option ℤ} (h : s.Current now)
    (ha : (serveOps w budget s (.execState execID now, fate)).2 = .execState seen expires) :
    seen.decidedAt = now ∧ ∀ state, seen.state = some state →
      ∃ e ∈ (serveOps w budget s (.execState execID now, fate)).1.execs,
        e.execID = execID ∧ e.state = state := by
  obtain ⟨hp, hs⟩ := serveOps_eq_perform ha (by simp)
  have hexecs : (performOps w budget s (.execState execID now)).1.execs = s.execs := by
    change (execState s execID now).2.execs = s.execs
    rw [execState_snd, nowTx_snd]
  rw [hs, hexecs]
  simp only [performOps, execState, h.nowTx] at hp
  split at hp
  · cases hp
    exact ⟨rfl, by simp⟩
  rename_i e he
  obtain ⟨hmem, hid⟩ := mem_of_execByID he
  split at hp
  · cases hp
    exact ⟨rfl, by simp⟩
  · cases hp
    refine ⟨rfl, fun state hstate => ⟨e, hmem, hid, ?_⟩⟩
    exact Option.some.inj hstate

/-- **What a recorded transition leaves**: the exec in that state, which is not `admitted`. -/
lemma recorded_answer {execID : String} {state : ExecState} {code : Option String} {fate : Fate}
    (ha : (serveOps w budget s (.recordExecState execID state code now, fate)).2 = .recorded) :
    state ≠ .admitted ∧
      ∃ e ∈ (serveOps w budget s (.recordExecState execID state code now, fate)).1.execs,
        e.execID = execID ∧ e.state = state := by
  obtain ⟨hp, hs⟩ := serveOps_eq_perform ha (by simp)
  obtain ⟨_, t, hr, -, ht⟩ := settleOps_eq_some hp (by simp)
  rw [hs]
  replace ht : (performOps w budget s (.recordExecState execID state code now)).1 = t := ht
  rw [ht]
  cases hr' : recordExecState s execID state code now with
  | error err => rw [hr'] at hr; cases hr
  | ok u =>
    rw [hr'] at hr
    cases hr
    have hadm : state ≠ .admitted := by
      simp only [recordExecState, Except.bind_eq_ok] at hr'
      obtain ⟨_, hcheck, -⟩ := hr'
      exact (checkTransition_eq_ok hcheck).2
    refine ⟨hadm, ?_⟩
    obtain ⟨e, he, -, ⟨hstate, -, rfl⟩ | ⟨-, rfl⟩⟩ := recordExecState_eq_ok hr'
    · obtain ⟨hmem, hid⟩ := mem_of_execByID he
      rw [nowTx_snd]
      exact ⟨e, hmem, hid, hstate⟩
    · obtain ⟨hmem, hid⟩ := mem_of_execByID he
      rw [nowTx_snd]
      refine ⟨_, List.mem_map.mpr ⟨e, hmem, rfl⟩, ?_⟩
      simp [hid]

/-- **What an end that was applied leaves**: the exec has ended. -/
lemma ended_answer {execID : String} {state : ExecState} {fate : Fate}
    (ha : (serveOps w budget s (.recordAdmittedExecEnd execID state now, fate)).2 = .ended true) :
    ∃ e ∈ (serveOps w budget s (.recordAdmittedExecEnd execID state now, fate)).1.execs,
      e.execID = execID ∧ execTerminal e.state = true := by
  obtain ⟨hp, hs⟩ := serveOps_eq_perform ha (by simp)
  obtain ⟨applied, t, hr, happlied, ht⟩ := settleOps_eq_some hp (by simp)
  cases happlied
  rw [hs]
  replace ht : (performOps w budget s (.recordAdmittedExecEnd execID state now)).1 = t := ht
  rw [ht]
  cases hr' : recordAdmittedExecEnd s execID state now with
  | error err => rw [hr'] at hr; cases hr
  | ok u =>
    obtain ⟨applied, u⟩ := u
    rw [hr'] at hr
    cases hr
    obtain ⟨hstate, e, he, ⟨happlied, -⟩ | ⟨-, hadm, rfl⟩⟩ := recordAdmittedExecEnd_eq_ok hr'
    · cases happlied
    · obtain ⟨hmem, hid⟩ := mem_of_execByID he
      refine ⟨_, List.mem_map.mpr ⟨e, hmem, rfl⟩, ?_⟩
      rcases hstate with rfl | rfl <;> simp [hid, hadm, execTerminal]

/-- **What an admission reports**: its decision time, and of an op that is recorded the digest and the
admission time of its row. -/
lemma admission_answer {req : SandboxOpRequestV1} {fate : Fate} {a : SandboxOpAdmission}
    (h : s.Current now) (ha : (serveOps w budget s (.admitOp req now, fate)).2 = .admission a) :
    a.decidedAt = now ∧ (a.start = true ∨ a.replay = true →
      ∃ o ∈ (serveOps w budget s (.admitOp req now, fate)).1.ops, o.opID = sandboxOpIDV1 req ∧
        w.opDigest req = some o.documentDigest ∧ a.admittedAt = some o.admittedAtNs) := by
  obtain ⟨hp, hs⟩ := serveOps_eq_perform ha (by simp)
  obtain ⟨b, t, hr, hb, ht⟩ := settleOps_eq_some hp (by simp)
  cases hb
  rw [hs]
  replace ht : (performOps w budget s (.admitOp req now)).1 = t := ht
  rw [ht]
  simp only [admitOp, Except.bind_eq_ok, h.nowTx] at hr
  obtain ⟨_, -, digest, hdigest, hr⟩ := hr
  obtain ⟨-, e, he⟩ | ⟨rfl, adm, row, he, hat, -, -, hrow, hrd, hra⟩ |
    ⟨-, adm, he, hat, hrep, hst, -⟩ | ⟨-, -, -, -, hins, he⟩ := admitAt_cases hr
  · cases he
  · cases he
    obtain ⟨hmem, hid⟩ := mem_of_opByID hrow
    exact ⟨hat, fun _ => ⟨row, hmem, hid, hrd ▸ digestOf_eq_ok hdigest, hra⟩⟩
  · cases he
    refine ⟨hat, fun hor => ?_⟩
    rw [hrep, hst] at hor
    simp at hor
  · cases he
    refine ⟨rfl, fun _ => ⟨opRow req digest now, ?_, rfl, digestOf_eq_ok hdigest, rfl⟩⟩
    obtain ⟨-, rfl⟩ | ⟨-, rfl⟩ := insertOp_eq_ok hins <;> simp

end Misscomputer.Durable
