import Misscomputer.Durable.LeaseRefinement
import Misscomputer.Durable.Ops

set_option relaxedAutoImplicit false
set_option autoImplicit false

/-!
# What one ops transaction may do

A transaction on the ops store moves lease rows and exec rows in place, or records one op, together
with its exec when the op is an `exec_start`; and it never lowers the high-water time. This module
states that as a relation, states the soundness of the ops tables, and shows that every call of
`SandboxOps` is a step.

## Main definitions

* `Durable.ExecRow.Evolves` — the moves of one exec row.
* `Durable.OpsStore.Sound` — the integrity of the ops tables.
* `Durable.OpsStore.Step` — the ways a transaction changes the tables.

## Main results

* `Durable.OpsStore.Step.sound` — steps keep the tables sound.
* `Durable.serveOps_step`, `Durable.runOps_sound` — every call is a step, every run is sound.
-/

namespace Misscomputer.Durable

open Sandbox Protocol

/-! ## Exec rows -/

/-- An error code is set exactly in state `failed`. -/
def ExecRow.CodeSet (e : ExecRow) : Prop := e.errorCode.isSome = true ↔ e.state = .failed

/-- The state moves of an exec: `admitted → running → terminal` or `admitted → terminal`. -/
inductive ExecMoves : ExecState → ExecState → Prop
  | start : ExecMoves .admitted .running
  | finish {state : ExecState} (terminal : execTerminal state = true) : ExecMoves .running state
  | abandon {state : ExecState} (terminal : execTerminal state = true) : ExecMoves .admitted state

/-- An exec row is left alone, or its state moves and the code is set with it. -/
inductive ExecRow.Evolves : ExecRow → ExecRow → Prop
  | same (e : ExecRow) : Evolves e e
  | move (e : ExecRow) (state : ExecState) (code : Option String) (now : ℤ)
      (moves : ExecMoves e.state state) (code_iff : code.isSome = true ↔ state = .failed) :
      Evolves e { e with state := state, errorCode := code, updatedAtNs := now }

namespace ExecRow.Evolves

variable {e e' : ExecRow}

lemma execID (h : e.Evolves e') : e'.execID = e.execID := by cases h <;> rfl

lemma leaseID (h : e.Evolves e') : e'.leaseID = e.leaseID := by cases h <;> rfl

lemma codeSet (h : e.Evolves e') (hc : e.CodeSet) : e'.CodeSet := by
  cases h with
  | same => exact hc
  | move state code now moves code_iff => exact code_iff

/-- An exec that has ended does not move. -/
lemma of_terminal (h : e.Evolves e') (ht : execTerminal e.state = true) : e' = e := by
  cases h with
  | same => rfl
  | move state code now moves code_iff =>
    generalize e.state = current at moves ht
    cases moves <;> cases ht

/-- An exec that has not ended had not ended before. -/
lemma unended (h : e.Evolves e') (hu : e'.unended = true) : e.unended = true := by
  by_cases ht : execTerminal e.state = true
  · rwa [h.of_terminal ht] at hu
  · simp [ExecRow.unended, ht]

end ExecRow.Evolves

/-! ## Sound tables -/

/-- The high-water time does not fall. -/
def ClockLE (a b : Option ℤ) : Prop := ∀ x, a = some x → ∃ y, b = some y ∧ x ≤ y

lemma ClockLE.refl (a : Option ℤ) : ClockLE a a := fun x hx => ⟨x, hx, le_rfl⟩

lemma ClockLE.trans {a b c : Option ℤ} (hab : ClockLE a b) (hbc : ClockLE b c) : ClockLE a c := by
  intro x hx
  obtain ⟨y, hy, hxy⟩ := hab x hx
  obtain ⟨z, hz, hyz⟩ := hbc y hy
  exact ⟨z, hz, hxy.trans hyz⟩

/-- **The integrity of the ops tables.** -/
structure OpsStore.Sound (s : OpsStore) : Prop where
  leases : s.leases.Sound
  op_unique : Table.UniqueOn OpRow.opID s.ops
  exec_unique : Table.UniqueOn ExecRow.execID s.execs
  exec_op : ∀ e ∈ s.execs, ∃ o ∈ s.ops, o.opID = e.execID ∧ o.op = .execStart ∧ o.leaseID = e.leaseID
  op_exec : ∀ o ∈ s.ops, o.op = .execStart → ∃ e ∈ s.execs, e.execID = o.opID ∧ e.leaseID = o.leaseID
  code_set : ∀ e ∈ s.execs, e.CodeSet
  running_cap : ∀ leaseID, (s.execCounts leaseID).1 ≤ maxRunningExecs
  session_cap : ∀ leaseID, (s.execCounts leaseID).2 ≤ maxExecSessions

/-- **The ways a transaction changes the ops tables.**

* `evolve`: lease rows take a lease step, exec rows move in place.
* `enter`: an op other than `exec_start` is recorded under a new ID.
* `start`: an `exec_start` is recorded under a new ID with its exec, admitted on the same lease, which
  was below both caps. -/
inductive OpsStore.Step (budget : Capacity) : OpsStore → OpsStore → Prop
  | evolve (s : OpsStore) (leases : LeaseStore) (f : ExecRow → ExecRow) (clock : Option ℤ)
      (lease_step : ∃ now, s.leases.Step budget now leases) (execs : ∀ e ∈ s.execs, e.Evolves (f e))
      (mono : ClockLE s.clock clock) : Step budget s ⟨leases, s.ops, s.execs.map f, clock⟩
  | enter (s : OpsStore) (row : OpRow) (clock : Option ℤ) (other : row.op ≠ .execStart)
      (fresh : ∀ o ∈ s.ops, o.opID ≠ row.opID) (mono : ClockLE s.clock clock) :
      Step budget s ⟨s.leases, s.ops ++ [row], s.execs, clock⟩
  | start (s : OpsStore) (row : OpRow) (exec : ExecRow) (clock : Option ℤ)
      (exec_start : row.op = .execStart) (fresh : ∀ o ∈ s.ops, o.opID ≠ row.opID)
      (execID : exec.execID = row.opID) (leaseID : exec.leaseID = row.leaseID)
      (admitted : exec.state = .admitted) (code : exec.errorCode = none)
      (running_cap : (s.execCounts row.leaseID).1 < maxRunningExecs)
      (session_cap : (s.execCounts row.leaseID).2 < maxExecSessions)
      (mono : ClockLE s.clock clock) :
      Step budget s ⟨s.leases, s.ops ++ [row], s.execs ++ [exec], clock⟩

namespace OpsStore

variable {budget : Capacity} {s s' : OpsStore}

lemma Sound.empty : OpsStore.empty.Sound where
  leases := .empty
  op_unique := .nil
  exec_unique := .nil
  exec_op := by simp [OpsStore.empty]
  op_exec := by simp [OpsStore.empty]
  code_set := by simp [OpsStore.empty]
  running_cap _ := Nat.zero_le _
  session_cap _ := Nat.zero_le _

/-- A step that moves the clock only. -/
lemma Step.of_clock (hs : s.Sound) {clock : Option ℤ} (mono : ClockLE s.clock clock) :
    s.Step budget { s with clock := clock } := by
  have h : s.Step budget ⟨s.leases, s.ops, s.execs.map id, clock⟩ :=
    .evolve s s.leases id clock ⟨0, .refl hs.leases⟩ (fun e _ => .same e) mono
  rwa [List.map_id] at h

lemma Step.refl (hs : s.Sound) : s.Step budget s := Step.of_clock hs (.refl s.clock)

lemma Step.clock (hstep : s.Step budget s') : ClockLE s.clock s'.clock := by
  cases hstep <;> assumption

/-! ## Steps keep the tables sound -/

/-- Exec rows that move in place do not raise the counts of a lease. -/
lemma execCounts_map_le {f : ExecRow → ExecRow} (hf : ∀ e ∈ s.execs, e.Evolves (f e))
    (leases : LeaseStore) (ops : List OpRow) (clock : Option ℤ) (leaseID : String) :
    ((⟨leases, ops, s.execs.map f, clock⟩ : OpsStore).execCounts leaseID).1 ≤
        (s.execCounts leaseID).1 ∧
      ((⟨leases, ops, s.execs.map f, clock⟩ : OpsStore).execCounts leaseID).2 ≤
        (s.execCounts leaseID).2 := by
  simp only [execCounts, List.countP_map]
  constructor
  · refine List.countP_mono_left fun e he h => ?_
    simp only [Function.comp_apply, Bool.and_eq_true, decide_eq_true_eq] at h ⊢
    exact ⟨(hf e he).leaseID ▸ h.1, (hf e he).unended h.2⟩
  · refine List.countP_mono_left fun e he h => ?_
    simp only [Function.comp_apply, decide_eq_true_eq] at h ⊢
    exact (hf e he).leaseID ▸ h

lemma Sound.evolve (hs : s.Sound) {leases : LeaseStore} {f : ExecRow → ExecRow}
    (hleases : leases.Sound) (hf : ∀ e ∈ s.execs, e.Evolves (f e)) (clock : Option ℤ) :
    (⟨leases, s.ops, s.execs.map f, clock⟩ : OpsStore).Sound where
  leases := hleases
  op_unique := hs.op_unique
  exec_unique := hs.exec_unique.map fun e he => (hf e he).execID
  exec_op := by
    simp only [List.forall_mem_map]
    intro e he
    rw [(hf e he).execID, (hf e he).leaseID]
    exact hs.exec_op e he
  op_exec := by
    intro o ho hop
    obtain ⟨e, he, hid, hlease⟩ := hs.op_exec o ho hop
    exact ⟨f e, List.mem_map_of_mem he, (hf e he).execID.trans hid, (hf e he).leaseID.trans hlease⟩
  code_set := by
    simp only [List.forall_mem_map]
    exact fun e he => (hf e he).codeSet (hs.code_set e he)
  running_cap leaseID := (execCounts_map_le hf _ _ _ leaseID).1.trans (hs.running_cap leaseID)
  session_cap leaseID := (execCounts_map_le hf _ _ _ leaseID).2.trans (hs.session_cap leaseID)

lemma Sound.enter (hs : s.Sound) {row : OpRow} (other : row.op ≠ .execStart)
    (fresh : ∀ o ∈ s.ops, o.opID ≠ row.opID) (clock : Option ℤ) :
    (⟨s.leases, s.ops ++ [row], s.execs, clock⟩ : OpsStore).Sound where
  leases := hs.leases
  op_unique := hs.op_unique.append fresh
  exec_unique := hs.exec_unique
  exec_op := by
    intro e he
    obtain ⟨o, ho, h⟩ := hs.exec_op e he
    exact ⟨o, List.mem_append_left _ ho, h⟩
  op_exec := by
    intro o ho hop
    rcases List.mem_append.mp ho with ho | ho
    · exact hs.op_exec o ho hop
    · rw [List.mem_singleton.mp ho] at hop
      exact absurd hop other
  code_set := hs.code_set
  running_cap := hs.running_cap
  session_cap := hs.session_cap

/-- One more exec raises the counts of its own lease by one, and of no other. -/
lemma execCounts_append_le (s : OpsStore) {exec : ExecRow} (leases : LeaseStore) (ops : List OpRow)
    (clock : Option ℤ) {leaseID : String} {m n : ℕ} (hm : (s.execCounts leaseID).1 ≤ m)
    (hn : (s.execCounts leaseID).2 ≤ n)
    (hlt : exec.leaseID = leaseID → (s.execCounts leaseID).1 < m ∧ (s.execCounts leaseID).2 < n) :
    ((⟨leases, ops, s.execs ++ [exec], clock⟩ : OpsStore).execCounts leaseID).1 ≤ m ∧
      ((⟨leases, ops, s.execs ++ [exec], clock⟩ : OpsStore).execCounts leaseID).2 ≤ n := by
  simp only [execCounts, List.countP_append, List.countP_singleton] at hm hn hlt ⊢
  by_cases h : exec.leaseID = leaseID
  · obtain ⟨h1, h2⟩ := hlt h
    constructor <;> split <;> omega
  · simp only [h, decide_false, Bool.false_and, Bool.false_eq_true, if_false, Nat.add_zero]
    exact ⟨hm, hn⟩

lemma Sound.start (hs : s.Sound) {row : OpRow} {exec : ExecRow} (exec_start : row.op = .execStart)
    (fresh : ∀ o ∈ s.ops, o.opID ≠ row.opID) (execID : exec.execID = row.opID)
    (leaseID : exec.leaseID = row.leaseID) (admitted : exec.state = .admitted)
    (code : exec.errorCode = none) (running_cap : (s.execCounts row.leaseID).1 < maxRunningExecs)
    (session_cap : (s.execCounts row.leaseID).2 < maxExecSessions) (clock : Option ℤ) :
    (⟨s.leases, s.ops ++ [row], s.execs ++ [exec], clock⟩ : OpsStore).Sound := by
  have hcaps : ∀ id, exec.leaseID = id →
      (s.execCounts id).1 < maxRunningExecs ∧ (s.execCounts id).2 < maxExecSessions := by
    rintro id rfl
    rw [leaseID]
    exact ⟨running_cap, session_cap⟩
  refine
    { leases := hs.leases
      op_unique := hs.op_unique.append fresh
      exec_unique := hs.exec_unique.append fun e he hid => ?_
      exec_op := fun e he => ?_
      op_exec := fun o ho hop => ?_
      code_set := fun e he => ?_
      running_cap := fun id => (execCounts_append_le s _ _ _ (hs.running_cap id) (hs.session_cap id)
        (hcaps id)).1
      session_cap := fun id => (execCounts_append_le s _ _ _ (hs.running_cap id) (hs.session_cap id)
        (hcaps id)).2 }
  · -- an exec with this ID would have an op with this ID
    obtain ⟨o, ho, hoid, -⟩ := hs.exec_op e he
    exact fresh o ho (hoid.trans (hid.trans execID))
  · rcases List.mem_append.mp he with he | he
    · obtain ⟨o, ho, h⟩ := hs.exec_op e he
      exact ⟨o, List.mem_append_left _ ho, h⟩
    · rw [List.mem_singleton.mp he]
      exact ⟨row, by simp, execID.symm, exec_start, leaseID.symm⟩
  · rcases List.mem_append.mp ho with ho | ho
    · obtain ⟨e, he, h⟩ := hs.op_exec o ho hop
      exact ⟨e, List.mem_append_left _ he, h⟩
    · rw [List.mem_singleton.mp ho]
      exact ⟨exec, by simp, execID, leaseID⟩
  · rcases List.mem_append.mp he with he | he
    · exact hs.code_set e he
    · rw [List.mem_singleton.mp he, ExecRow.CodeSet, code, admitted]
      simp

/-- **Every step keeps the ops tables sound.** -/
lemma Step.sound (hstep : s.Step budget s') (hs : s.Sound) : s'.Sound := by
  cases hstep with
  | evolve leases f clock lease_step execs mono =>
    obtain ⟨now, hl⟩ := lease_step
    exact hs.evolve (hl.sound hs.leases) execs clock
  | enter row clock other fresh mono => exact hs.enter other fresh clock
  | start row exec clock exec_start fresh execID leaseID admitted code running_cap session_cap mono =>
    exact hs.start exec_start fresh execID leaseID admitted code running_cap session_cap clock

end OpsStore

/-! ## What the operations do -/

variable {w : OpWire} {budget : Capacity} {s s' : OpsStore} {wall now : ℤ}

/-- The clock after a decision is the decision. -/
lemma nowTx_snd (s : OpsStore) (wall : ℤ) :
    (nowTx s wall).2 = { s with clock := some (nowTx s wall).1 } := by
  obtain ⟨leases, ops, execs, clock⟩ := s
  cases clock with
  | none => rfl
  | some highWater =>
    simp only [nowTx]
    split <;> rfl

/-- A decision is not before any earlier one. -/
lemma nowTx_mono (s : OpsStore) (wall : ℤ) : ClockLE s.clock (some (nowTx s wall).1) := by
  intro x hx
  refine ⟨_, rfl, ?_⟩
  simp only [nowTx, hx]
  split
  · exact le_rfl
  · omega

lemma opByID_eq_none {opID : String} (h : s.opByID opID = none) : ∀ o ∈ s.ops, o.opID ≠ opID := by
  simpa [OpsStore.opByID] using h

lemma mem_of_opByID {opID : String} {o : OpRow} (h : s.opByID opID = some o) :
    o ∈ s.ops ∧ o.opID = opID :=
  ⟨List.mem_of_find?_eq_some h, by simpa using List.find?_some h⟩

lemma mem_of_execByID {execID : String} {e : ExecRow} (h : s.execByID execID = some e) :
    e ∈ s.execs ∧ e.execID = execID :=
  ⟨List.mem_of_find?_eq_some h, by simpa using List.find?_some h⟩

/-- **What `AdmitOp` does**, at its decision time: it refuses, answers a recorded op with this
digest, reports the lease or the caps, and in each case writes nothing; or it records a new op of a
live lease inside its window. -/
lemma admitAt_cases {req : SandboxOpRequestV1} {digest : String}
    {a : Except StoreError SandboxOpAdmission} (h : admitAt w s req digest now = .ok (a, s')) :
    (s' = s ∧ ∃ e, a = .error e) ∨
    (s' = s ∧ ∃ adm row, a = .ok adm ∧ adm.decidedAt = now ∧ adm.replay = true ∧ adm.start = false ∧
      s.opByID (sandboxOpIDV1 req) = some row ∧ row.documentDigest = digest ∧
      adm.admittedAt = some row.admittedAtNs) ∨
    (s' = s ∧ ∃ adm, a = .ok adm ∧ adm.decidedAt = now ∧ adm.replay = false ∧ adm.start = false ∧
      (adm.unavailable.isSome = true ∨ adm.limited = true)) ∨
    (s.opByID (sandboxOpIDV1 req) = none ∧ now < req.expiresAt ∧
      (∃ state, sandboxOpLeaseTx w s req = some state ∧ sandboxOpLeaseLive state now = true) ∧
      (req.op = .execStart → (s.execCounts req.leaseID).1 < maxRunningExecs ∧
        (s.execCounts req.leaseID).2 < maxExecSessions) ∧
      insertOp s req digest now = .ok s' ∧
      a = .ok { decidedAt := now
                admittedAt := some now
                start := decide (req.op = .execStart) }) := by
  unfold admitAt at h
  split at h
  · cases h
    exact .inl ⟨rfl, _, rfl⟩
  rename_i state hstate
  dsimp only at h
  split at h
  · rename_i row hrow
    split at h
    · cases h
      exact .inl ⟨rfl, _, rfl⟩
    · rename_i hdigest
      cases h
      exact .inr (.inl ⟨rfl, _, row, rfl, rfl, rfl, rfl, hrow, by simpa using hdigest, rfl⟩)
  rename_i hnone
  split at h
  · cases h
    exact .inl ⟨rfl, _, rfl⟩
  rename_i hwindow
  split at h
  · cases h
    exact .inr (.inr (.inl ⟨rfl, _, rfl, rfl, rfl, rfl, .inl rfl⟩))
  rename_i hlive
  split at h
  · cases h
    exact .inr (.inr (.inl ⟨rfl, _, rfl, rfl, rfl, rfl, .inr rfl⟩))
  rename_i hcaps
  rw [Except.bind_eq_ok] at h
  obtain ⟨t, ht, h⟩ := h
  cases h
  refine .inr (.inr (.inr ⟨hnone, by simpa using hwindow, ⟨state, hstate, by simpa using hlive⟩, ?_,
    ht, rfl⟩))
  intro hop
  simp only [hop, true_and, not_or, not_le] at hcaps
  exact hcaps

/-- The insert of an admitted op: the op alone, or the op with its exec. -/
lemma insertOp_eq_ok {req : SandboxOpRequestV1} {digest : String}
    (h : insertOp s req digest now = .ok s') :
    (req.op ≠ .execStart ∧ s' = { s with ops := s.ops ++ [opRow req digest now] }) ∨
      (req.op = .execStart ∧
        s' = { s with ops := s.ops ++ [opRow req digest now], execs := s.execs ++ [execRow req now] }) := by
  unfold insertOp at h
  dsimp only at h
  split at h
  · cases h
    exact .inl ⟨‹_›, rfl⟩
  rename_i hop
  split at h
  · cases h
  · cases h
    exact .inr ⟨by simpa using hop, rfl⟩

lemma admitAt_step (hs : s.Sound) {clock : Option ℤ} (mono : ClockLE clock s.clock)
    {req : SandboxOpRequestV1} {digest : String} {a : Except StoreError SandboxOpAdmission}
    (h : admitAt w s req digest now = .ok (a, s')) :
    ({ s with clock := clock } : OpsStore).Step budget s' := by
  have hs' : ({ s with clock := clock } : OpsStore).Sound :=
    ⟨hs.leases, hs.op_unique, hs.exec_unique, hs.exec_op, hs.op_exec, hs.code_set, hs.running_cap,
      hs.session_cap⟩
  have hsame : ({ s with clock := clock } : OpsStore).Step budget s := .of_clock hs' mono
  obtain ⟨rfl, -⟩ | ⟨rfl, -⟩ | ⟨rfl, -⟩ | ⟨hnone, -, -, hcaps, hins, -⟩ := admitAt_cases h
  · exact hsame
  · exact hsame
  · exact hsame
  · have hfresh := opByID_eq_none hnone
    obtain ⟨hop, rfl⟩ | ⟨hop, rfl⟩ := insertOp_eq_ok hins
    · exact .enter _ _ _ hop hfresh mono
    · exact .start _ _ _ _ hop hfresh rfl rfl rfl rfl (hcaps hop).1 (hcaps hop).2 mono

/-- An exec update that follows `ExecMoves` is a step. -/
lemma setExec_step (hs : s.Sound) {clock : Option ℤ} (mono : ClockLE s.clock clock)
    {p : ExecRow → Bool} {f : ExecRow → ExecRow}
    (hf : ∀ e ∈ s.execs, p e = true → e.Evolves (f e)) :
    s.Step budget { s with execs := Table.updateWhere p f s.execs, clock := clock } := by
  refine .evolve s s.leases _ clock ⟨0, .refl hs.leases⟩ (fun e he => ?_) mono
  split
  · exact hf e he ‹_›
  · exact .same e

/-- The code of a checked transition. -/
lemma checkTransition_eq_ok {state : ExecState} {code : Option String} {u : Unit}
    (h : checkTransition state code = .ok u) :
    (code.isSome = true ↔ state = .failed) ∧ state ≠ .admitted := by
  unfold checkTransition at h
  split at h
  · cases h
  · simp
  · cases h
  · cases h
  · rename_i _ hfailed hadmitted
    exact ⟨by simpa using hfailed, hadmitted⟩

/-- A state that is neither terminal nor moved back follows `ExecMoves`. -/
lemma execMoves_of_guard {current state : ExecState} (hadm : state ≠ .admitted)
    (hguard : ¬ (execTerminal current = true ∨ state = .running ∧ current ≠ .admitted)) :
    ExecMoves current state := by
  cases current <;> cases state <;> simp_all [execTerminal] <;>
    first
      | exact .start
      | exact .finish rfl
      | exact .abandon rfl

/-- **What `RecordExecState` does**: it repeats the current state, or moves it forward. -/
lemma recordExecState_eq_ok {execID : String} {state : ExecState} {code : Option String}
    (h : recordExecState s execID state code wall = .ok s') :
    ∃ e, s.execByID execID = some e ∧ (code.isSome = true ↔ state = .failed) ∧
      ((e.state = state ∧ e.errorCode = code ∧ s' = (nowTx s wall).2) ∨
        (ExecMoves e.state state ∧
          s' = (nowTx s wall).2.setExec execID state code (nowTx s wall).1)) := by
  simp only [recordExecState, Except.bind_eq_ok] at h
  obtain ⟨_, hcheck, h⟩ := h
  obtain ⟨hcode, hadm⟩ := checkTransition_eq_ok hcheck
  rw [nowTx_snd] at h ⊢
  split at h
  · cases h
  rename_i e he
  refine ⟨e, he, hcode, ?_⟩
  split at h
  · rename_i hrep
    cases h
    exact .inl ⟨hrep.1, hrep.2, rfl⟩
  split at h
  · cases h
  · rename_i hguard
    cases h
    exact .inr ⟨execMoves_of_guard hadm hguard, rfl⟩

lemma recordExecState_step (hs : s.Sound) {execID : String} {state : ExecState}
    {code : Option String} (h : recordExecState s execID state code wall = .ok s') :
    s.Step budget s' := by
  obtain ⟨e, he, hcode, ⟨-, -, rfl⟩ | ⟨hmoves, rfl⟩⟩ := recordExecState_eq_ok h
  · rw [nowTx_snd]
    exact .of_clock hs (nowTx_mono s wall)
  · rw [nowTx_snd]
    refine setExec_step hs (nowTx_mono s wall) fun e' he' hp => ?_
    obtain ⟨hmem, hid⟩ := mem_of_execByID he
    obtain rfl := hs.exec_unique.eq_of_key he' hmem (by simpa [hid] using hp)
    exact .move e' state code _ hmoves hcode

/-- **What `RecordAdmittedExecEnd` does**: it ends an admitted exec, or writes nothing. -/
lemma recordAdmittedExecEnd_eq_ok {execID : String} {state : ExecState} {applied : Bool}
    (h : recordAdmittedExecEnd s execID state wall = .ok (applied, s')) :
    (state = .cancelled ∨ state = .timedOut) ∧ ∃ e, s.execByID execID = some e ∧
      ((applied = false ∧ e.state ≠ .admitted ∧ s' = (nowTx s wall).2) ∨
        (applied = true ∧ e.state = .admitted ∧ s' = { (nowTx s wall).2 with
          execs := Table.updateWhere (fun e => e.execID == execID && e.state == .admitted)
            (fun e => { e with state := state, updatedAtNs := (nowTx s wall).1 }) s.execs })) := by
  unfold recordAdmittedExecEnd at h
  rw [nowTx_snd] at h ⊢
  split at h
  · cases h
  rename_i hstate
  refine ⟨by by_cases hc : state = .cancelled <;> simp_all, ?_⟩
  dsimp only at h
  split at h
  · cases h
  rename_i e he
  refine ⟨e, he, ?_⟩
  split at h
  · rename_i hadm
    cases h
    exact .inr ⟨rfl, hadm, rfl⟩
  · rename_i hadm
    cases h
    exact .inl ⟨rfl, hadm, rfl⟩

lemma recordAdmittedExecEnd_step (hs : s.Sound) {execID : String} {state : ExecState}
    {applied : Bool} (h : recordAdmittedExecEnd s execID state wall = .ok (applied, s')) :
    s.Step budget s' := by
  obtain ⟨hstate, e, he, ⟨-, -, rfl⟩ | ⟨-, hadm, rfl⟩⟩ := recordAdmittedExecEnd_eq_ok h
  · rw [nowTx_snd]
    exact .of_clock hs (nowTx_mono s wall)
  · rw [nowTx_snd]
    refine setExec_step hs (nowTx_mono s wall) fun e' he' hp => ?_
    simp only [Bool.and_eq_true, beq_iff_eq] at hp
    -- an admitted row has no code, so the update that leaves the code alone sets none
    have hcode : e'.errorCode = none := by
      have hc := hs.code_set e' he'
      rw [ExecRow.CodeSet, hp.2] at hc
      simpa using hc
    have hrow : { e' with state := state, updatedAtNs := (nowTx s wall).1 } =
        { e' with state := state, errorCode := none, updatedAtNs := (nowTx s wall).1 } := by
      rw [← hcode]
    have hterm : execTerminal state = true ∧ state ≠ .failed := by
      rcases hstate with rfl | rfl <;> simp [execTerminal]
    rw [hrow]
    refine .move e' state none _ ?_ (by simp [hterm.2])
    rw [hp.2]
    exact .abandon hterm.1

lemma renewLease_step (hs : s.Sound) {r : SandboxRenewalV1} {o : SandboxOutcome}
    (h : renewLease w s r wall = .ok (o, s')) : s.Step budget s' := by
  simp only [renewLease, Except.bind_eq_ok] at h
  obtain ⟨⟨o', leases⟩, hrenew, h⟩ := h
  rw [nowTx_snd] at hrenew h
  cases h
  have hstep : s.Step budget ⟨leases, s.ops, s.execs.map id, some (nowTx s wall).1⟩ :=
    .evolve s leases id _ ⟨_, renew_step hs.leases hrenew⟩ (fun e _ => .same e) (nowTx_mono s wall)
  rwa [List.map_id] at hstep

/-- `LookupExec` writes its decision time only. -/
lemma lookupExec_eq_ok {req : SandboxOpRequestV1} {a : Except StoreError SandboxExecLookup}
    (h : lookupExec w s req wall = .ok (a, s')) : s' = (nowTx s wall).2 := by
  simp only [lookupExec, Except.bind_eq_ok] at h
  obtain ⟨_, -, h⟩ := h
  split at h
  · cases h
  split at h
  · cases h; rfl
  split at h
  · cases h; rfl
  split at h <;> cases h <;> rfl

/-- `ExecState` writes its decision time only. -/
lemma execState_snd (s : OpsStore) (execID : String) (wall : ℤ) :
    (execState s execID wall).2 = (nowTx s wall).2 := by
  unfold execState
  dsimp only
  split
  · rfl
  · split <;> rfl

/-! ## Every call -/

lemma settleOps_step {α : Type} (hs : s.Sound) {x : Except StoreError (Decided α)}
    {answer : α → OpsAnswer} (hx : ∀ a s', x = .ok (a, s') → s.Step budget s') :
    s.Step budget (settleOps s x answer).1 := by
  match x, hx with
  | .ok (.ok a, s'), hx => exact hx _ s' rfl
  | .ok (.error e, s'), hx => exact hx _ s' rfl
  | .error e, _ => exact .refl hs

lemma admitOp_step (hs : s.Sound) {req : SandboxOpRequestV1}
    {a : Except StoreError SandboxOpAdmission} (h : admitOp w s req wall = .ok (a, s')) :
    s.Step budget s' := by
  simp only [admitOp, Except.bind_eq_ok] at h
  obtain ⟨_, -, digest, -, h⟩ := h
  rw [nowTx_snd] at h
  have hclock : s.Step .zero { s with clock := some (nowTx s wall).1 } :=
    .of_clock hs (nowTx_mono s wall)
  have hs' : ({ s with clock := some (nowTx s wall).1 } : OpsStore).Sound := hclock.sound hs
  exact admitAt_step hs' (nowTx_mono s wall) h

/-- **Every call whose transaction commits is a step.** -/
lemma performOps_step (hs : s.Sound) (call : OpsCall) :
    s.Step budget (performOps w budget s call).1 := by
  have hclock : ∀ wall, s.Step budget (nowTx s wall).2 := by
    intro wall
    rw [nowTx_snd]
    exact .of_clock hs (nowTx_mono s wall)
  cases call with
  | admitOp req wall => exact settleOps_step hs fun a s' h => admitOp_step hs h
  | lookupExec req wall =>
    refine settleOps_step hs fun a s' h => ?_
    rw [lookupExec_eq_ok h]
    exact hclock wall
  | execState execID wall =>
    change s.Step budget (execState s execID wall).2
    rw [execState_snd]
    exact hclock wall
  | recordExecState execID state code wall =>
    refine settleOps_step hs fun a s' h => ?_
    cases hr : recordExecState s execID state code wall with
    | error e => rw [hr] at h; cases h
    | ok t => rw [hr] at h; cases h; exact recordExecState_step hs hr
  | recordAdmittedExecEnd execID state wall =>
    refine settleOps_step hs fun a s' h => ?_
    cases hr : recordAdmittedExecEnd s execID state wall with
    | error e => rw [hr] at h; cases h
    | ok t => rw [hr] at h; cases h; exact recordAdmittedExecEnd_step hs hr
  | renewLease r wall =>
    refine settleOps_step hs fun a s' h => ?_
    cases hr : renewLease w s r wall with
    | error e => rw [hr] at h; cases h
    | ok t => rw [hr] at h; cases h; exact renewLease_step hs hr
  | lease op =>
    have hstep : s.Step budget
        ⟨(serve w.toWire budget s.leases op).1, s.ops, s.execs.map id, s.clock⟩ :=
      .evolve s _ id _ ⟨_, serve_step hs.leases op⟩ (fun e _ => .same e) (.refl s.clock)
    rwa [List.map_id] at hstep

/-- **Every served call is a step, whatever becomes of its transaction.** -/
theorem serveOps_step (hs : s.Sound) (q : OpsCall × Fate) :
    s.Step budget (Machine.next (serveOps w budget) s q) := by
  obtain ⟨call, fate⟩ := q
  cases fate with
  | commits => exact performOps_step hs call
  | rollsBack => exact .refl hs
  | unreported => exact performOps_step hs call

/-- **The ops tables are sound after every run from sound tables.** -/
theorem runOps_sound (hs : s.Sound) (qs : List (OpsCall × Fate)) :
    (Machine.run (serveOps w budget) s qs).Sound :=
  Machine.run_invariant (P := OpsStore.Sound) (fun _ h q _ => (serveOps_step h q).sound h) hs

end Misscomputer.Durable
