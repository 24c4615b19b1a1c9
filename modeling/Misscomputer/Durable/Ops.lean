import Misscomputer.Protocol.OpDocuments
import Misscomputer.Durable.Leases

set_option relaxedAutoImplicit false
set_option autoImplicit false

/-!
# Durable admission of ops

The ops tables next to the lease tables, and the operations of `SandboxOps` on them. Every operation
is one transaction that decides at the later of the wall clock and the durable high-water time, and
raises that time to its decision. A refusal commits its decision time; an error rolls everything back.

A wall-clock reading is the integer `UnixNano` of the instant the clock shows. Nothing is assumed of
the readings: they may step back between any two transactions, and across a restart.

## Main definitions

* `Durable.OpRow`, `Durable.ExecRow`, `Durable.OpsStore` — the tables.
* `Durable.nowTx` — the decision time of one transaction.
* `Durable.admitOp`, `lookupExec`, `execState`, `recordExecState`, `recordAdmittedExecEnd`,
  `renewLease` — the operations.
* `Durable.OpsCall`, `Durable.Fate`, `Durable.serveOps` — one transaction and what becomes of it.

## References

* `pkg/durable/sandbox_ops_v1.go`
-/

namespace Misscomputer.Durable

open Sandbox Protocol

/-! ## The tables -/

/-- A row of `sandbox_ops`. -/
structure OpRow where
  opID : String
  leaseID : String
  op : Op
  documentDigest : String
  validatorHotkey : String
  expiresAtNs : ℤ
  admittedAtNs : ℤ
  deriving DecidableEq, Repr

/-- A row of `sandbox_execs`. -/
structure ExecRow where
  execID : String
  leaseID : String
  state : ExecState
  errorCode : Option String
  admittedAtNs : ℤ
  updatedAtNs : ℤ
  deriving DecidableEq, Repr

/-- The sandbox tables with ops enabled. `clock` is the row of `sandbox_ops_clock`, if there is
one. -/
structure OpsStore where
  leases : LeaseStore
  ops : List OpRow
  execs : List ExecRow
  clock : Option ℤ
  deriving DecidableEq, Repr

/-- The tables as `EnableSandboxOps` creates them. -/
def OpsStore.empty : OpsStore := ⟨.empty, [], [], none⟩

/-- `sandboxExecTerminal`. -/
def execTerminal : ExecState → Bool
  | .exited | .cancelled | .timedOut | .failed => true
  | .admitted | .running => false

/-- The exec has not ended. -/
def ExecRow.unended (e : ExecRow) : Bool := !execTerminal e.state

/-! ## Answers -/

/-- `SandboxOpLeaseState`: the raw durable state of the lease an op targets. -/
structure SandboxOpLeaseState where
  status : LeaseStatus
  cleanupStatus : Option LeaseStatus
  expiresAt : ℤ
  deriving DecidableEq, Repr

/-- `SandboxOpLeaseState.RefusalCode`; the empty text where the lease runs ops. -/
def SandboxOpLeaseState.refusalCode (s : SandboxOpLeaseState) (at' : ℤ) : String :=
  let status := if s.status = .cleanup then s.cleanupStatus.getD s.status else s.status
  if s.status = .running ∧ at' < s.expiresAt then ""
  else if s.status = .running ∨ status = .expired then "lease_expired"
  else if status = .released then "released"
  else "lease_not_running"

/-- `SandboxOpAdmission`: the durable decision on one op request. -/
structure SandboxOpAdmission where
  decidedAt : ℤ
  admittedAt : Option ℤ := none
  replay : Bool := false
  start : Bool := false
  unavailable : Option SandboxOpLeaseState := none
  limited : Bool := false
  deriving DecidableEq, Repr

/-- `SandboxExecLookup`: the durable answer to an exec lookup. -/
structure SandboxExecLookup where
  decidedAt : ℤ
  unavailable : Option SandboxOpLeaseState := none
  found : Bool := false
  state : Option ExecState := none
  errorCode : Option String := none
  admittedAt : Option ℤ := none
  deriving DecidableEq, Repr

/-! ## Steps shared by the operations -/

/-- `nowTx`: the later of the wall clock and the high-water time, which it raises to that time. -/
def nowTx (s : OpsStore) (wall : ℤ) : ℤ × OpsStore :=
  match s.clock with
  | none => (wall, { s with clock := some wall })
  | some highWater =>
    if wall ≤ highWater then (highWater, s) else (wall, { s with clock := some wall })

/-- `sandboxOpLeaseLive`: the lease runs ops at `now`. -/
def sandboxOpLeaseLive (state : SandboxOpLeaseState) (now : ℤ) : Bool :=
  state.status = .running && now < state.expiresAt

def LeaseRow.opState (l : LeaseRow) : SandboxOpLeaseState :=
  ⟨l.status, l.cleanupStatus, l.leaseExpiresAtNs⟩

/-- `sandboxOpLeaseTx`: the lease the request names, if the request targets it. -/
def sandboxOpLeaseTx (w : OpWire) (s : OpsStore) (req : SandboxOpRequestV1) :
    Option SandboxOpLeaseState :=
  match s.leases.leaseByID req.leaseID with
  | none => none
  | some l => if sandboxOpTargetsLeaseV1 w.toWire req l.lease then some l.opState else none

/-- The op recorded under an ID. -/
def OpsStore.opByID (s : OpsStore) (opID : String) : Option OpRow := s.ops.find? (·.opID = opID)

/-- The exec recorded under an ID. -/
def OpsStore.execByID (s : OpsStore) (execID : String) : Option ExecRow :=
  s.execs.find? (·.execID = execID)

/-- The execs of a lease that have not ended, and all of them. -/
def OpsStore.execCounts (s : OpsStore) (leaseID : String) : ℕ × ℕ :=
  (s.execs.countP fun e => e.leaseID = leaseID && e.unended,
    s.execs.countP fun e => decide (e.leaseID = leaseID))

/-- The result of a transaction that was not rolled back: what it returns, and the tables it
committed. A refusal commits its decision time. -/
abbrev Decided (α : Type) := Except StoreError α × OpsStore

/-! ## Admission -/

def opRow (req : SandboxOpRequestV1) (digest : String) (now : ℤ) : OpRow :=
  { opID := sandboxOpIDV1 req
    leaseID := req.leaseID
    op := req.op
    documentDigest := digest
    validatorHotkey := sandboxValidator req.subnet
    expiresAtNs := unixNano req.expiresAt
    admittedAtNs := now }

def execRow (req : SandboxOpRequestV1) (now : ℤ) : ExecRow :=
  { execID := sandboxOpIDV1 req
    leaseID := req.leaseID
    state := .admitted
    errorCode := none
    admittedAtNs := now
    updatedAtNs := now }

/-- The insert of an admitted op, and of its exec when it is an `exec_start`. -/
def insertOp (s : OpsStore) (req : SandboxOpRequestV1) (digest : String) (now : ℤ) :
    Except StoreError OpsStore :=
  let s' := { s with ops := s.ops ++ [opRow req digest now] }
  if req.op ≠ .execStart then .ok s'
  else if (s.execByID (sandboxOpIDV1 req)).isSome then
    .error (.driver "UNIQUE constraint failed: sandbox_execs.exec_id")
  else .ok { s' with execs := s.execs ++ [execRow req now] }

/-- `AdmitOp`, at the decision time `now`: lease fence, equivocation, exact replay, request window,
lease state, caps, insert. -/
def admitAt (w : OpWire) (s : OpsStore) (req : SandboxOpRequestV1) (digest : String) (now : ℤ) :
    Except StoreError (Decided SandboxOpAdmission) :=
  match sandboxOpLeaseTx w s req with
  | none => .ok (.error .opForeign, s)
  | some state =>
    let live := sandboxOpLeaseLive state now
    match s.opByID (sandboxOpIDV1 req) with
    | some row =>
      if row.documentDigest ≠ digest then .ok (.error .conflict, s)
      else
        .ok (.ok
          { decidedAt := now
            replay := true
            admittedAt := some row.admittedAtNs
            unavailable := if live then none else some state }, s)
    | none =>
      if ¬ now < req.expiresAt then .ok (.error .opExpired, s)
      else if ¬ live then .ok (.ok { decidedAt := now, unavailable := some state }, s)
      else if req.op = .execStart ∧ (maxRunningExecs ≤ (s.execCounts req.leaseID).1 ∨
          maxExecSessions ≤ (s.execCounts req.leaseID).2) then
        .ok (.ok { decidedAt := now, limited := true }, s)
      else do
        let s' ← insertOp s req digest now
        .ok (.ok
          { decidedAt := now, admittedAt := some now, start := decide (req.op = .execStart) }, s')

/-- `AdmitOp`. -/
def admitOp (w : OpWire) (s : OpsStore) (req : SandboxOpRequestV1) (wall : ℤ) :
    Except StoreError (Decided SandboxOpAdmission) := do
  check (req.validate w.toWire)
  let digest ← digestOf (w.opDigest req)
  admitAt w (nowTx s wall).2 req digest (nowTx s wall).1

/-! ## Lookups -/

/-- What a lookup reports of an exec row. -/
def ExecRow.lookup (now : ℤ) (e : ExecRow) : SandboxExecLookup :=
  { decidedAt := now
    found := true
    state := some e.state
    errorCode := e.errorCode
    admittedAt := some e.admittedAtNs }

/-- `LookupExec`: whether the exec a request names was admitted on its lease. -/
def lookupExec (w : OpWire) (s : OpsStore) (req : SandboxOpRequestV1) (wall : ℤ) :
    Except StoreError (Decided SandboxExecLookup) := do
  check (req.validate w.toWire)
  match req.execID with
  | none => .error (.refused "sandbox exec lookup needs an exec_read or exec_cancel request")
  | some execID =>
    let now := (nowTx s wall).1
    let s' := (nowTx s wall).2
    match sandboxOpLeaseTx w s' req with
    | none => .ok (.error .opForeign, s')
    | some state =>
      if ¬ sandboxOpLeaseLive state now then
        .ok (.ok { decidedAt := now, unavailable := some state }, s')
      else
        match s'.execs.find? fun e => e.execID = execID && e.leaseID = req.leaseID with
        | none => .ok (.ok { decidedAt := now }, s')
        | some e => .ok (.ok (e.lookup now), s')

/-- `ExecState`: the lane's own read of one exec row, with the expiry of its lease. -/
def execState (s : OpsStore) (execID : String) (wall : ℤ) :
    (SandboxExecLookup × Option ℤ) × OpsStore :=
  let now := (nowTx s wall).1
  let s' := (nowTx s wall).2
  match s'.execByID execID with
  | none => (({ decidedAt := now }, none), s')
  | some e =>
    match s'.leases.leaseByID e.leaseID with
    | none => (({ decidedAt := now }, none), s')
    | some l =>
      (({ e.lookup now with
          unavailable := if sandboxOpLeaseLive l.opState now then none else some l.opState },
        some l.leaseExpiresAtNs), s')

/-! ## Transitions -/

/-- The check of a transition's arguments: `failed` carries a known code, no other state a code. -/
def checkTransition (state : ExecState) (code : Option String) : Except StoreError Unit :=
  match state, code with
  | .failed, none => .error (.refused "a failed sandbox exec needs an error code")
  | .failed, some c =>
    if (opErrorAttribution.lookup c).isNone then
      .error (.refused "sandbox exec error code is unknown")
    else .ok ()
  | .admitted, _ => .error (.refused "sandbox exec state is invalid")
  | _, some _ => .error (.refused "only a failed sandbox exec carries an error code")
  | _, none => .ok ()

/-- `UPDATE sandbox_execs SET state=…, error_code=… WHERE exec_id=…`. -/
def OpsStore.setExec (s : OpsStore) (execID : String) (state : ExecState) (code : Option String)
    (now : ℤ) : OpsStore :=
  { s with
    execs := Table.updateWhere (fun e => e.execID == execID)
      (fun e => { e with state := state, errorCode := code, updatedAtNs := now }) s.execs }

/-- `RecordExecState`: a transition supplied by the caller, guarded for monotonicity. -/
def recordExecState (s : OpsStore) (execID : String) (state : ExecState) (code : Option String)
    (wall : ℤ) : Except StoreError OpsStore := do
  checkTransition state code
  let now := (nowTx s wall).1
  let s' := (nowTx s wall).2
  match s'.execByID execID with
  | none => .error (.refused ("sandbox exec " ++ execID.quote ++ " is unknown"))
  | some e =>
    if e.state = state ∧ e.errorCode = code then .ok s'
    else if execTerminal e.state ∨ state = .running ∧ e.state ≠ .admitted then
      .error .execTransition
    else .ok (s'.setExec execID state code now)

/-- `RecordAdmittedExecEnd`: the end of an exec that has not started; `false` when it is no longer
admitted. The update leaves `error_code` alone. -/
def recordAdmittedExecEnd (s : OpsStore) (execID : String) (state : ExecState) (wall : ℤ) :
    Except StoreError (Bool × OpsStore) :=
  if state ≠ .cancelled ∧ state ≠ .timedOut then
    .error (.refused "an admitted sandbox exec can only end cancelled or timed_out")
  else
    let now := (nowTx s wall).1
    let s' := (nowTx s wall).2
    match s'.execByID execID with
    | none => .error (.refused ("sandbox exec " ++ execID.quote ++ " is unknown"))
    | some e =>
      if e.state = .admitted then
        .ok (true, { s' with
          execs := Table.updateWhere (fun e => e.execID == execID && e.state == .admitted)
            (fun e => { e with state := state, updatedAtNs := now }) s'.execs })
      else .ok (false, s')

/-! ## Renewals on the ops clock -/

/-- `RenewLease`: a renewal decided at the in-transaction high-water time, which it reports. -/
def renewLease (w : OpWire) (s : OpsStore) (r : SandboxRenewalV1) (wall : ℤ) :
    Except StoreError (SandboxOutcome × OpsStore) := do
  let now := (nowTx s wall).1
  let s' := (nowTx s wall).2
  let (outcome, leases) ← renew w.toWire s'.leases r now
  .ok ({ outcome with observedAt := some now }, { s' with leases := leases })

/-! ## Serving transactions -/

/-- One call of a `SandboxOps` operation with the wall-clock reading its transaction takes, or one
call of a `SandboxLeases` operation on the same store. -/
inductive OpsCall
  | admitOp (req : SandboxOpRequestV1) (wall : ℤ)
  | lookupExec (req : SandboxOpRequestV1) (wall : ℤ)
  | execState (execID : String) (wall : ℤ)
  | recordExecState (execID : String) (state : ExecState) (code : Option String) (wall : ℤ)
  | recordAdmittedExecEnd (execID : String) (state : ExecState) (wall : ℤ)
  | renewLease (r : SandboxRenewalV1) (wall : ℤ)
  | lease (op : LeaseOp)
  deriving DecidableEq, Repr

/-- What a call returns. -/
inductive OpsAnswer
  | admission (a : SandboxOpAdmission)
  | lookup (l : SandboxExecLookup)
  | execState (l : SandboxExecLookup) (leaseExpiresAt : Option ℤ)
  | recorded
  | ended (applied : Bool)
  | renewed (o : SandboxOutcome)
  | lease (a : LeaseAnswer)
  | error (e : StoreError)
  deriving DecidableEq, Repr

/-- What becomes of a transaction: it commits, it is rolled back (a driver error, a cancelled
context, a crash before the commit), or it commits and its caller is told that it failed. -/
inductive Fate
  | commits | rollsBack | unreported
  deriving DecidableEq, Repr

/-- Commit what a transaction decided, or roll it back. -/
def settleOps {α : Type} (s : OpsStore) (result : Except StoreError (Decided α))
    (answer : α → OpsAnswer) : OpsStore × OpsAnswer :=
  match result with
  | .ok (.ok a, s') => (s', answer a)
  | .ok (.error e, s') => (s', .error e)
  | .error e => (s, .error e)

/-- The effect of a call whose transaction commits. -/
def performOps (w : OpWire) (budget : Capacity) (s : OpsStore) : OpsCall → OpsStore × OpsAnswer
  | .admitOp req wall => settleOps s (admitOp w s req wall) .admission
  | .lookupExec req wall => settleOps s (lookupExec w s req wall) .lookup
  | .execState execID wall =>
    let a := execState s execID wall
    (a.2, .execState a.1.1 a.1.2)
  | .recordExecState execID state code wall =>
    settleOps s ((recordExecState s execID state code wall).map fun s' => (.ok (), s'))
      fun _ => .recorded
  | .recordAdmittedExecEnd execID state wall =>
    settleOps s ((recordAdmittedExecEnd s execID state wall).map fun a => (.ok a.1, a.2)) .ended
  | .renewLease r wall =>
    settleOps s ((renewLease w s r wall).map fun a => (.ok a.1, a.2)) .renewed
  | .lease op =>
    let a := serve w.toWire budget s.leases op
    ({ s with leases := a.1 }, .lease a.2)

/-- Serve one call. -/
def serveOps (w : OpWire) (budget : Capacity) (s : OpsStore) (q : OpsCall × Fate) :
    OpsStore × OpsAnswer :=
  match q.2 with
  | .commits => performOps w budget s q.1
  | .rollsBack => (s, .error (.driver "sql: transaction has already been rolled back"))
  | .unreported => ((performOps w budget s q.1).1, .error (.driver "bad connection"))

end Misscomputer.Durable
