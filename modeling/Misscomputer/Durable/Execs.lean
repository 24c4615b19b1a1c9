import Misscomputer.Durable.OpsStep

set_option relaxedAutoImplicit false
set_option autoImplicit false

/-!
# Exec rows: caps and monotone states

The caps on the execs of a lease are enforced where an exec row is inserted, while two other writers
change which rows count. Whatever the order of the calls, an exec row never leaves the table, its
state only moves forward, and the state and error code it ends with never change.

## Main definitions

* `Durable.ExecRow.Follows` — what an exec row becomes along a run.

## Main results

* `Durable.runOps_execs` — every exec row is followed along every run.
* `Durable.exec_rows` — caps, references, moves, and what a refused transition leaves alone.
-/

namespace Misscomputer.Durable

open Sandbox Protocol

variable {w : OpWire} {budget : Capacity} {s s' : OpsStore}

/-- What an exec row becomes along a run: the same exec of the same lease, and once it has ended
with the same state and error code. -/
structure ExecRow.Follows (e e' : ExecRow) : Prop where
  execID : e'.execID = e.execID
  leaseID : e'.leaseID = e.leaseID
  ended : execTerminal e.state = true → e'.state = e.state ∧ e'.errorCode = e.errorCode

lemma ExecRow.Follows.refl (e : ExecRow) : e.Follows e := ⟨rfl, rfl, fun _ => ⟨rfl, rfl⟩⟩

lemma ExecRow.Follows.trans {a b c : ExecRow} (hab : a.Follows b) (hbc : b.Follows c) :
    a.Follows c where
  execID := hbc.execID.trans hab.execID
  leaseID := hbc.leaseID.trans hab.leaseID
  ended ha := by
    obtain ⟨hst, hcode⟩ := hab.ended ha
    obtain ⟨hst', hcode'⟩ := hbc.ended (hst ▸ ha)
    exact ⟨hst'.trans hst, hcode'.trans hcode⟩

lemma ExecRow.Evolves.follows {e e' : ExecRow} (h : e.Evolves e') : e.Follows e' :=
  ⟨h.execID, h.leaseID, fun ht => by rw [h.of_terminal ht]; exact ⟨rfl, rfl⟩⟩

lemma ExecRow.Evolves.moves {e e' : ExecRow} (h : e.Evolves e') :
    (e'.state = e.state ∧ e'.errorCode = e.errorCode) ∨ ExecMoves e.state e'.state := by
  cases h with
  | same => exact .inl ⟨rfl, rfl⟩
  | move state code now moves code_iff => exact .inr moves

namespace OpsStore

/-- What a step does to the exec rows: each one moves in place, and a new one is admitted. -/
lemma Step.execs (hstep : s.Step budget s') (hs : s.Sound) :
    ∃ f : ExecRow → ExecRow, (∀ e ∈ s.execs, e.Evolves (f e)) ∧
      (s'.execs = s.execs.map f ∨
        ∃ row, row.state = .admitted ∧ (∀ e ∈ s.execs, e.execID ≠ row.execID) ∧
          s'.execs = s.execs.map f ++ [row]) := by
  cases hstep with
  | evolve leases f clock lease_step execs mono => exact ⟨f, execs, .inl rfl⟩
  | enter row clock other fresh mono => exact ⟨id, fun e _ => .same e, .inl (by simp)⟩
  | start row exec clock exec_start fresh execID leaseID admitted =>
    refine ⟨id, fun e _ => .same e, .inr ⟨exec, admitted, fun e he hid => ?_, by simp⟩⟩
    obtain ⟨o, ho, hoid, -⟩ := hs.exec_op e he
    exact fresh o ho (hoid.trans (hid.trans execID))

lemma Step.exec_follows (hstep : s.Step budget s') (hs : s.Sound) {e : ExecRow} (he : e ∈ s.execs) :
    ∃ e' ∈ s'.execs, e.Follows e' := by
  obtain ⟨f, hf, heq | ⟨row, -, -, heq⟩⟩ := hstep.execs hs
  · exact ⟨f e, heq ▸ List.mem_map_of_mem he, (hf e he).follows⟩
  · exact ⟨f e, heq ▸ List.mem_append_left _ (List.mem_map_of_mem he), (hf e he).follows⟩

/-- The state of every row after a step: moved from the row with its ID, or admitted in a row with
a new ID. -/
lemma Step.exec_state (hstep : s.Step budget s') (hs : s.Sound) {e' : ExecRow}
    (he' : e' ∈ s'.execs) :
    (∃ e ∈ s.execs, e.execID = e'.execID ∧
        ((e'.state = e.state ∧ e'.errorCode = e.errorCode) ∨ ExecMoves e.state e'.state)) ∨
      ((∀ e ∈ s.execs, e.execID ≠ e'.execID) ∧ e'.state = .admitted) := by
  have hmoved : ∀ f : ExecRow → ExecRow, (∀ e ∈ s.execs, e.Evolves (f e)) →
      e' ∈ s.execs.map f → ∃ e ∈ s.execs, e.execID = e'.execID ∧
        ((e'.state = e.state ∧ e'.errorCode = e.errorCode) ∨ ExecMoves e.state e'.state) := by
    intro f hf hmem
    obtain ⟨e, he, rfl⟩ := List.mem_map.mp hmem
    exact ⟨e, he, (hf e he).execID.symm, (hf e he).moves⟩
  obtain ⟨f, hf, heq | ⟨row, hadm, hnew, heq⟩⟩ := hstep.execs hs
  · exact .inl (hmoved f hf (heq ▸ he'))
  · rw [heq] at he'
    rcases List.mem_append.mp he' with he' | he'
    · exact .inl (hmoved f hf he')
    · obtain rfl := List.mem_singleton.mp he'
      exact .inr ⟨hnew, hadm⟩

end OpsStore

/-- **Every exec row is followed along every run.** -/
lemma runOps_execs (hs : s.Sound) (qs : List (OpsCall × Fate)) :
    ∀ e ∈ s.execs, ∃ e' ∈ (Machine.run (serveOps w budget) s qs).execs, e.Follows e' := by
  refine Machine.run_rel (P := OpsStore.Sound)
    (R := fun a b : OpsStore => ∀ e ∈ a.execs, ∃ e' ∈ b.execs, e.Follows e')
    (fun t e he => ⟨e, he, .refl e⟩) ?_ ?_ hs
  · intro a b c hab hbc e he
    obtain ⟨e', he', h⟩ := hab e he
    obtain ⟨e'', he'', h'⟩ := hbc e' he'
    exact ⟨e'', he'', h.trans h'⟩
  · intro t ht q _
    have hstep : t.Step budget (Machine.next (serveOps w budget) t q) := serveOps_step ht q
    exact ⟨hstep.sound ht, fun e he => hstep.exec_follows ht he⟩

/-! ## What a refused transition leaves alone -/

/-- `RecordAdmittedExecEnd` that returns false leaves every exec row alone. -/
lemma execs_of_ended_false {execID : String} {state : ExecState} {wall : ℤ}
    (h : (performOps w budget s (.recordAdmittedExecEnd execID state wall)).2 = .ended false) :
    (performOps w budget s (.recordAdmittedExecEnd execID state wall)).1.execs = s.execs := by
  simp only [performOps] at h ⊢
  cases hr : recordAdmittedExecEnd s execID state wall with
  | error e => rfl
  | ok a =>
    obtain ⟨applied, t⟩ := a
    rw [hr] at h
    cases h
    obtain ⟨-, e, -, ⟨-, -, rfl⟩ | ⟨happlied, -⟩⟩ := recordAdmittedExecEnd_eq_ok hr
    · change (nowTx s wall).2.execs = s.execs
      rw [nowTx_snd]
    · cases happlied

/-- `RecordExecState` that returns an error leaves every table alone. -/
lemma store_of_recordExecState_error {execID : String} {state : ExecState} {code : Option String}
    {wall : ℤ} {err : StoreError}
    (h : (performOps w budget s (.recordExecState execID state code wall)).2 = .error err) :
    (performOps w budget s (.recordExecState execID state code wall)).1 = s := by
  simp only [performOps] at h ⊢
  cases hr : recordExecState s execID state code wall with
  | error e => rfl
  | ok t => rw [hr] at h; cases h

/-! ## Runs -/

/-- **Exec rows: caps and monotone states**, after any calls in any order, with any arguments, wall
clock readings and rolled-back transactions.

* Every lease has at most `MaxRunningExecs` execs that have not ended and at most `MaxExecSessions`
  execs.
* Every exec row has an op row with its ID, which is an `exec_start` on its lease, and its error code
  is set exactly in state `failed`.
* The next call removes no exec row, moves every state along `ExecMoves` or not at all, and gives a
  new exec the state `admitted`.
* The state and error code of an exec that has ended never change.
* `RecordAdmittedExecEnd` that returns false and `RecordExecState` that returns an error leave the
  exec rows unchanged.

**Proof sketch.** The first two parts are the soundness of the ops tables. The moves are those of one
step, and a row that has ended does not move, so it is followed unchanged along the run. -/
theorem exec_rows (w : OpWire) (budget : Capacity) (qs : List (OpsCall × Fate)) :
    let s := Machine.run (serveOps w budget) .empty qs
    (∀ leaseID,
      s.execs.countP (fun e => e.leaseID = leaseID && (e.state = .admitted || e.state = .running)) ≤
        maxRunningExecs ∧
      s.execs.countP (fun e => decide (e.leaseID = leaseID)) ≤ maxExecSessions) ∧
    (∀ e ∈ s.execs,
      (∃ o ∈ s.ops, o.opID = e.execID ∧ o.op = .execStart ∧ o.leaseID = e.leaseID) ∧
      (e.errorCode.isSome = true ↔ e.state = .failed)) ∧
    (∀ q, let s' := Machine.next (serveOps w budget) s q
      (∀ e ∈ s.execs, ∃ e' ∈ s'.execs, e'.execID = e.execID) ∧
      ∀ e' ∈ s'.execs,
        (∃ e ∈ s.execs, e.execID = e'.execID ∧
          ((e'.state = e.state ∧ e'.errorCode = e.errorCode) ∨ ExecMoves e.state e'.state)) ∨
        ((∀ e ∈ s.execs, e.execID ≠ e'.execID) ∧ e'.state = .admitted)) ∧
    (∀ e ∈ s.execs, execTerminal e.state = true → ∀ after,
      ∀ e' ∈ (Machine.run (serveOps w budget) s after).execs, e'.execID = e.execID →
        e'.state = e.state ∧ e'.errorCode = e.errorCode) ∧
    (∀ execID state wall,
      (performOps w budget s (.recordAdmittedExecEnd execID state wall)).2 = .ended false →
      (performOps w budget s (.recordAdmittedExecEnd execID state wall)).1.execs = s.execs) ∧
    (∀ execID state code wall err,
      (performOps w budget s (.recordExecState execID state code wall)).2 = .error err →
      (performOps w budget s (.recordExecState execID state code wall)).1.execs = s.execs) := by
  intro s
  have hs : s.Sound := runOps_sound .empty qs
  refine ⟨fun leaseID => ⟨?_, hs.session_cap leaseID⟩, fun e he => ⟨hs.exec_op e he, hs.code_set e he⟩,
    fun q => ?_, ?_, ?_, ?_⟩
  · have hunended : (fun e : ExecRow => decide (e.leaseID = leaseID) &&
        (decide (e.state = .admitted) || decide (e.state = .running))) =
        fun e => decide (e.leaseID = leaseID) && e.unended := by
      funext e
      cases hst : e.state <;> simp [ExecRow.unended, execTerminal, hst]
    rw [hunended]
    exact hs.running_cap leaseID
  · have hstep : s.Step budget (Machine.next (serveOps w budget) s q) := serveOps_step hs q
    refine ⟨fun e he => ?_, fun e' he' => hstep.exec_state hs he'⟩
    obtain ⟨e', he', hf⟩ := hstep.exec_follows hs he
    exact ⟨e', he', hf.execID⟩
  · intro e he ht after e' he' hid
    have hs' : (Machine.run (serveOps w budget) s after).Sound := runOps_sound hs after
    obtain ⟨e'', he'', hf⟩ := runOps_execs (w := w) (s := s) hs after e he
    obtain rfl := hs'.exec_unique.eq_of_key he' he'' (hid.trans hf.execID.symm)
    exact hf.ended ht
  · exact fun execID state wall h => execs_of_ended_false h
  · intro execID state code wall err h
    rw [store_of_recordExecState_error h]

end Misscomputer.Durable
