import Misscomputer.Durable.Ops
import Misscomputer.Lib.Pool
import Misscomputer.Runtime.InstanceName

set_option relaxedAutoImplicit false
set_option autoImplicit false

/-!
# The exec operations of the sandbox-ops lane

The lane keeps an entry in memory for every exec, under its op ID, next to the durable row. An
`exec_start` makes the entry, or joins the one that is there, before it is admitted; once it is
admitted it hands the exec to a start owner, which calls the helper in the sandbox and records what it
saw. `exec_read` and `exec_cancel` look the exec up; a cancel and the deadline run the kill path. Every
receipt reports the durable state of the exec and a time that is read from the clock later.

A process steps from one shared action to the next: a store transaction, a read or a write of the
entry or of the map of entries, a read of the clock, a helper call. A transaction may be rolled back,
and it may commit while its caller is told that it failed. A helper call may answer anything.

## Main definitions

* `Miner.OpExec`, `Miner.OpsLane` — the entry of an exec, and what the processes share.
* `Miner.OpsProc` — the program points, with the local values the source has there.
* `Miner.OpsProc.step`, `Miner.opsLane` — the steps.
* `Miner.OpsObservation` — what can be seen of a step: an `exec_start` call of the helper, a receipt.

## Implementation notes

Durations are not modelled: a timer that was armed may fire at any later moment, also one that was
stopped since. The lane is open, and the entries of a lease are not dropped by its teardown. The
in-flight bound refuses a request before its first shared action: such a request is one that takes no
step. The store and the lane read one clock, which does not go back.

## References

* `pkg/miner/sandbox_ops.go`
-/

namespace Misscomputer.Miner

open Sandbox Protocol Durable Misscomputer.Runtime

/-! ## Data -/

def millisecond : ℤ := 1000000

/-- `ExecCommand`: the payload of an `exec_start`. -/
structure ExecCommand where
  argv : List String
  cwd : String
  env : List (String × String)
  stdin : Option String
  deriving DecidableEq, Repr

/-- `ExecObservation`: what the helper reports of an exec. -/
structure ExecObservation where
  exitCode : Option ℤ
  state : ExecState
  stderrBytes : ℕ
  stderrRetained : ℕ
  stdoutBytes : ℕ
  stdoutRetained : ℕ
  deriving DecidableEq, Repr

/-- The `exec_start` request to the helper. -/
structure ExecCall where
  instance' : String
  execID : String
  command : ExecCommand
  maxOutputBytes : ℕ
  timeoutMS : ℕ
  deriving DecidableEq, Repr

/-- What a lane is made with. -/
structure OpsConfig where
  wire : OpWire
  /-- The budget of the lease lane on the same store. -/
  budget : Capacity
  minerID : String
  /-- `VerifyBoundSandboxOpRequestV1` of a request at a time, and `admit`. -/
  verify : SandboxOpRequestV1 → ℤ → Bool
  /-- `DecodeExecCommand`. -/
  decodeExecCommand : List UInt8 → Option ExecCommand
  /-- `signStatic` with the agent's key. -/
  sign : SandboxOpReceiptV1 → String

/-- `opExec`: the lane's view of one exec, with the op ID it was made for. -/
structure OpExec where
  opID : String
  leaseID : String
  instance' : String
  admittedAt : ℤ := 0
  timeout : ℤ
  maxOutput : ℕ
  observed : ExecObservation := ⟨none, .admitted, 0, 0, 0, 0⟩
  exitCode : Option ℤ := none
  endedAt : Option ℤ := none
  killTrigger : Option ExecState := none
  cancelPending : Bool := false
  owned : Bool := false
  requestExpires : ℤ
  gaveUp : Bool := false
  /-- The mutex `kill` is held. -/
  kill : Bool := false
  deriving DecidableEq, Repr

/-- The entry that an `exec_start` makes. -/
def opExec (r : SandboxOpRequestV1) : OpExec where
  opID := sandboxOpIDV1 r
  leaseID := r.leaseID
  instance' := instanceName r.leaseID
  timeout := r.timeoutMS.getD 0 * millisecond
  maxOutput := r.maxOutputBytes.getD 0
  requestExpires := r.expiresAt

/-- What the processes share: the clock, the store, the entries that were made, the map from op IDs
to entries, and whether its mutex is held across steps. -/
structure OpsLane where
  clock : ℤ
  store : OpsStore
  entries : List OpExec
  execs : List (String × ℕ)
  mu : Bool
  deriving DecidableEq, Repr

/-- An exec: its op ID, and the entry that a process holds. -/
structure ExecRef where
  opID : String
  ref : ℕ
  deriving DecidableEq, Repr

namespace OpExec

/-- `deadline`: `min(admitted_at + timeout_ms, lease expiry)`. -/
def deadline (e : OpExec) (leaseExpiry : Option ℤ) : ℤ :=
  match leaseExpiry with
  | none => e.admittedAt + e.timeout
  | some expiry => min (e.admittedAt + e.timeout) expiry

/-- `observe`: the counts never go backwards, and are capped to the retention bound. -/
def observe (e : OpExec) (o : ExecObservation) : OpExec :=
  let stdoutRetained := max e.observed.stdoutRetained (min o.stdoutRetained e.maxOutput)
  let stderrRetained := max e.observed.stderrRetained (min o.stderrRetained e.maxOutput)
  { e with
    observed :=
      { e.observed with
        stdoutRetained := stdoutRetained
        stderrRetained := stderrRetained
        stdoutBytes := max (max e.observed.stdoutBytes o.stdoutBytes) stdoutRetained
        stderrBytes := max (max e.observed.stderrBytes o.stderrBytes) stderrRetained }
    exitCode :=
      if o.state = .exited ∧ o.exitCode.isSome ∧ e.exitCode.isNone then o.exitCode else e.exitCode }

/-- `status`: the exec member of a receipt, in `state`, observed at `observed`. -/
def status (e : OpExec) (state : ExecState) (admittedAt observed : ℤ) : ExecStatus where
  state := state
  startedAt := admittedAt
  stdoutBytes := e.observed.stdoutBytes
  stdoutRetained := e.observed.stdoutRetained
  stderrBytes := e.observed.stderrBytes
  stderrRetained := e.observed.stderrRetained
  endedAt :=
    if state = .running then none
    else some (max (min (e.endedAt.getD observed) observed) admittedAt)
  exitCode := if state = .exited then some (e.exitCode.getD 0) else none

/-- `endState`: an end by the lane's own deadline kill is the deadline's. -/
def endState (e : OpExec) (observed : ExecState) : ExecState :=
  if observed = .cancelled ∧ e.killTrigger = some .timedOut then .timedOut else observed

/-- `markEnded`: the end time is set once. -/
def markEnded (e : OpExec) (now : ℤ) : OpExec :=
  if e.endedAt.isNone then { e with endedAt := some (max now e.admittedAt) } else e

/-- `launchStart` on an entry that has no owner. -/
def own (e : OpExec) (admittedAt : ℤ) : OpExec := { e with owned := true, admittedAt := admittedAt }

/-- A resolution claims an exec that no replay can adopt any more. -/
def claim (e : OpExec) (admittedAt decidedAt : ℤ) : OpExec :=
  if !e.owned && e.requestExpires ≤ decidedAt then
    { e with owned := true, gaveUp := true, admittedAt := admittedAt }
  else e

end OpExec

/-! ## Receipts -/

/-- `later`. -/
def later (a b : ℤ) : ℤ := max a b

/-- `opBase`. -/
def OpsConfig.opBase (cfg : OpsConfig) (r : SandboxOpRequestV1) (stage : OpStage) (observed : ℤ) :
    Option SandboxOpReceiptV1 :=
  (cfg.wire.opDigest r).map fun digest =>
    { documentDigest := digest
      eof := false
      errorCode := none
      exec := none
      file := none
      generation := r.generation
      leaseID := r.leaseID
      minerID := cfg.minerID
      nextOffset := none
      observedAt := observed
      op := r.op
      opID := sandboxOpIDV1 r
      resultBytes := 0
      resultDigest := none
      sandboxID := r.sandboxID
      schema := sandboxOpReceiptSchema
      schemaVersion := 1
      signature := ""
      stage := stage
      subnet := r.subnet }

/-- `opReceipt`, before it is signed: a stage and a code. -/
def OpsConfig.opReceipt (cfg : OpsConfig) (r : SandboxOpRequestV1) (stage : OpStage) (code : String)
    (observed : ℤ) : Option SandboxOpReceiptV1 :=
  (cfg.opBase r stage observed).map ({ · with errorCode := some code })

/-- `leaseRefusal`, before it is signed. -/
def OpsConfig.leaseRefusal (cfg : OpsConfig) (r : SandboxOpRequestV1) (state : SandboxOpLeaseState)
    (at' : ℤ) : Option SandboxOpReceiptV1 :=
  let code := state.refusalCode at'
  cfg.opReceipt r .refused (if code = "" then "lease_not_running" else code) at'

/-- `signOp`. -/
def OpsConfig.signOp (cfg : OpsConfig) (receipt : SandboxOpReceiptV1) : Option SandboxOpReceiptV1 :=
  match receipt.validateUnsigned cfg.wire.toWire with
  | .ok _ => some { receipt with signature := cfg.sign receipt }
  | .error _ => none

/-- `refusedStage`. -/
def refusedStage (code : String) : OpStage :=
  if code = "sandbox_op_failed" ∨ code = "sandbox_resources_exhausted" ∨ code = "op_runtime_failed" then
    .failed
  else .refused

/-- The stage that reports an exec state. -/
def execStage : ExecState → OpStage
  | .running | .admitted => .running
  | .exited => .exited
  | .cancelled => .cancelled
  | .timedOut => .timedOut
  | .failed => .failed

/-- The state that a receipt reports for a durable one. -/
def reported (state : ExecState) : ExecState := if state = .admitted then .running else state

/-- The receipt of `execAnswer`, before it is signed: the exec in `status`, and the result of a read. -/
def OpsConfig.execReceipt (cfg : OpsConfig) (r : SandboxOpRequestV1) (lookup : SandboxExecLookup)
    (status : ExecStatus) (observed : ℤ) (result : Option (List UInt8)) :
    Option SandboxOpReceiptV1 :=
  (cfg.opBase r (execStage status.state) observed).map fun base =>
    let receipt :=
      { base with
        exec := some status
        errorCode :=
          if status.state = .failed then some (lookup.errorCode.getD "sandbox_op_failed") else none }
    match result with
    | none => receipt
    | some data =>
      if status.state = .failed then receipt
      else
        let retained := if r.stream = some "stderr" then status.stderrRetained else status.stdoutRetained
        let next := r.offset.getD 0 + data.length
        { receipt with
          resultDigest := some (cfg.wire.contentDigest data)
          resultBytes := data.length
          nextOffset := some next
          eof := decide (status.state ≠ .running) && decide (retained ≤ next) }

/-- `leaseExpiring`: the lease runs ops no longer only because its expiry passed. -/
def leaseExpiring (lookup : SandboxExecLookup) : Bool :=
  lookup.unavailable.any fun state => state.status = .running && state.expiresAt ≤ lookup.decidedAt

/-- The exec is not there, its lease runs ops no longer, or it has ended: nothing is left to kill. -/
def execSettled (lookup : SandboxExecLookup) : Bool :=
  !lookup.found || (lookup.unavailable.isSome && !leaseExpiring lookup) ||
    lookup.state.any execTerminal

/-! ## Program points -/

/-- Who called `killPath`: a goroutine of its own, or an `exec_cancel` that answers after it. -/
inductive KillCaller
  | detached
  | cancel (r : SandboxOpRequestV1)
  deriving DecidableEq, Repr

/-- Who waits for `recordExec`: a start that failed, a start that recorded the exec running after the
helper reported a state, a caller that ignores the result, a resolution, the kill path, a read. -/
inductive Recording
  | failing
  | starting (state : ExecState)
  | ending
  | resolving
  | killing (k : KillCaller)
  | reading (r : SandboxOpRequestV1) (lookup : SandboxExecLookup) (data : List UInt8)
  deriving DecidableEq, Repr

/-- A process at the point before its next shared action. -/
inductive OpsProc
  /-- `execStart`: at the map, at its admission, after an admission that failed, at the drop of its
  entry after a refusal, at `launchStart`, and at its own answer. -/
  | start (r : SandboxOpRequestV1) (command : ExecCommand)
  | startAdmit (r : SandboxOpRequestV1) (command : ExecCommand) (ref : ℕ)
  | startError (x : ExecRef)
  | drop (x : ExecRef) (refusal : Option (SandboxOpRequestV1 × SandboxOpReceiptV1))
  | dropping (x : ExecRef) (refusal : Option (SandboxOpRequestV1 × SandboxOpReceiptV1))
  | launch (r : SandboxOpRequestV1) (command : ExecCommand) (ref : ℕ) (a : SandboxOpAdmission)
  | startStatus (r : SandboxOpRequestV1) (ref : ℕ) (a : SandboxOpAdmission)
  | startNow (r : SandboxOpRequestV1) (status : ExecStatus) (decidedAt : ℤ)
  /-- About to sign a receipt, or one that refuses at a time not read yet. -/
  | sign (r : SandboxOpRequestV1) (receipt : SandboxOpReceiptV1)
  | refuseNow (r : SandboxOpRequestV1) (stage : OpStage) (code : String) (decidedAt : ℤ)
  /-- `execLookup`: at its two transactions; `execCancel` and `execRead` at the map; `execRead` at its
  helper call and at the bytes it may return. -/
  | lookup (r : SandboxOpRequestV1)
  | lookupExec (r : SandboxOpRequestV1)
  | cancel (r : SandboxOpRequestV1) (lookup : SandboxExecLookup)
  | read (r : SandboxOpRequestV1) (lookup : SandboxExecLookup)
  | reading (r : SandboxOpRequestV1) (lookup : SandboxExecLookup) (x : ExecRef)
  | readStatus (r : SandboxOpRequestV1) (lookup : SandboxExecLookup) (x : ExecRef) (data : List UInt8)
  /-- `execAnswer`: at its transaction, at the map, at the clock, at the entry. -/
  | answer (r : SandboxOpRequestV1) (execID : String) (result : Option (List UInt8))
  | answerEntry (r : SandboxOpRequestV1) (execID : String) (result : Option (List UInt8))
      (lookup : SandboxExecLookup)
  | answerNow (r : SandboxOpRequestV1) (x : ExecRef) (result : Option (List UInt8))
      (lookup : SandboxExecLookup)
  | answerStatus (r : SandboxOpRequestV1) (x : ExecRef) (result : Option (List UInt8))
      (lookup : SandboxExecLookup) (observed : ℤ)
  /-- `startOwner`: at its read, at what it decides, at the helper call, while it runs, and after the
  exec was recorded running. -/
  | owner (x : ExecRef) (command : ExecCommand) (attempt : ℕ)
  | ownerDecide (x : ExecRef) (command : ExecCommand) (lookup : SandboxExecLookup)
      (leaseExpiry : Option ℤ)
  | ownerCall (x : ExecRef) (command : ExecCommand) (decidedAt : ℤ)
  | ownerCalling (x : ExecRef)
  | ownerStarted (x : ExecRef)
  | giveUp (x : ExecRef)
  /-- `recordExec`, and `markEnded` before its caller goes on. -/
  | record (x : ExecRef) (state : ExecState) (code : Option String) (attempt : ℕ) (k : Recording)
  | markEnded (x : ExecRef) (k : Recording)
  /-- The timers of `armResolve` and `armDeadline`: armed, at their read, at what they decide. -/
  | resolve (x : ExecRef)
  | resolveRead (x : ExecRef) (attempt : ℕ)
  | resolveDecide (x : ExecRef) (lookup : SandboxExecLookup)
  | resolveEnd (x : ExecRef)
  | deadline (x : ExecRef)
  | deadlineRead (x : ExecRef) (attempt : ℕ)
  | deadlineDecide (x : ExecRef) (lookup : SandboxExecLookup) (leaseExpiry : Option ℤ)
  /-- `killPath`: at the pending cancel, at its mutex, at its read, at what it decides, at
  `endAdmitted`, at its second read, at the trigger, during the helper calls, at the end state, and
  about to unlock, with its deadline to arm again or not. -/
  | kill (x : ExecRef) (trigger : ExecState) (k : KillCaller)
  | killLock (x : ExecRef) (trigger : ExecState) (k : KillCaller)
  | killRead (x : ExecRef) (trigger : ExecState) (attempt : ℕ) (k : KillCaller)
  | killDecide (x : ExecRef) (trigger : ExecState) (lookup : SandboxExecLookup)
      (leaseExpiry : Option ℤ) (k : KillCaller)
  | killEnd (x : ExecRef) (trigger : ExecState) (attempt : ℕ) (k : KillCaller)
  | killReread (x : ExecRef) (trigger : ExecState) (attempt : ℕ) (k : KillCaller)
  | killSignal (x : ExecRef) (trigger : ExecState) (k : KillCaller)
  | killing (x : ExecRef) (trigger : ExecState) (k : KillCaller)
  | killRecord (x : ExecRef) (observed : ExecState) (k : KillCaller)
  | killUnlock (x : ExecRef) (rearm : Bool) (k : KillCaller)
  deriving DecidableEq, Repr

/-- What the surroundings choose for a step: what becomes of a store transaction, and what a helper
call answers. -/
inductive OpsChoice
  | next
  | tx (fate : Fate)
  | timedOut
  | callFailed (code : String)
  | exec (o : ExecObservation) (code : Option String)
  | data (o : ExecObservation) (bytes : List UInt8)
  | noAnswer
  deriving DecidableEq, Repr

/-- What can be seen of a step. -/
inductive OpsObservation
  /-- The helper is called to start an exec. -/
  | exec (call : ExecCall)
  /-- A request is answered with a signed receipt. -/
  | receipt (r : SandboxOpRequestV1) (receipt : SandboxOpReceiptV1)
  deriving DecidableEq, Repr

/-- A request for one exec operation, with its payload. -/
structure OpsRequest where
  request : SandboxOpRequestV1
  payload : List UInt8
  deriving DecidableEq, Repr

/-- What the surroundings do: time passes, and the lease lane runs a transaction on the same store. -/
inductive OpsEnv
  | clock (now : ℤ)
  | lease (op : LeaseOp)
  | renewLease (r : SandboxRenewalV1)
  deriving DecidableEq, Repr

/-! ## Shared actions -/

/-- The bound on the tries of one exec-state step. -/
def durableAttempts : ℕ := 3

namespace OpsLane

/-- One store transaction, which reads the clock: the tables after it, and what its caller is told. -/
def tx (cfg : OpsConfig) (s : OpsLane) (call : ℤ → OpsCall) (fate : Fate) : OpsLane × OpsAnswer :=
  let a := serveOps cfg.wire cfg.budget s.store (call s.clock, fate)
  ({ s with store := a.1 }, a.2)

/-- `execEntry`: the entry that the map holds for an op ID. -/
def execEntry (s : OpsLane) (opID : String) : Option ℕ := s.execs.lookup opID

/-- Update an entry under its mutex. -/
def update (s : OpsLane) (ref : ℕ) (f : OpExec → OpExec) : OpsLane :=
  { s with entries := s.entries.modify ref f }

/-- Join the entry of the op ID, or make one. -/
def join (s : OpsLane) (r : SandboxOpRequestV1) : OpsLane × ℕ :=
  match s.execEntry (sandboxOpIDV1 r) with
  | some ref => (s, ref)
  | none =>
    ({ s with
        entries := s.entries ++ [opExec r]
        execs := (sandboxOpIDV1 r, s.entries.length) :: s.execs }, s.entries.length)

/-- Delete the entry of an op ID from the map. -/
def delete (s : OpsLane) (opID : String) : OpsLane :=
  { s with execs := s.execs.filter (·.1 ≠ opID) }

end OpsLane

/-- `SandboxOpPayloadMatchesV1`. -/
def payloadMatches (w : OpWire) (r : SandboxOpRequestV1) (payload : List UInt8) : Bool :=
  match r.payloadDigest with
  | none => payload.isEmpty
  | some digest => decide (payload.length = r.payloadBytes) && decide (w.contentDigest payload = digest)

/-- `Op`, up to its first shared action: the process that a request becomes. -/
def OpsConfig.spawn (cfg : OpsConfig) (s : OpsLane) (q : OpsRequest) : Option OpsProc :=
  if cfg.verify q.request s.clock && payloadMatches cfg.wire q.request q.payload then
    match q.request.op with
    | .execStart => (cfg.decodeExecCommand q.payload).map (.start q.request)
    | .execRead | .execCancel => some (.lookup q.request)
    | _ => none
  else none

namespace OpsProc

/-- The processes that sign the receipt of a request, if there is one to sign. -/
def signing (r : SandboxOpRequestV1) (receipt : Option SandboxOpReceiptV1) : List OpsProc :=
  (receipt.map (.sign r)).toList

/-- The signed receipt of a request is observed. -/
def signed (cfg : OpsConfig) (r : SandboxOpRequestV1) (receipt : Option SandboxOpReceiptV1) :
    List OpsObservation :=
  ((receipt.bind cfg.signOp).map (.receipt r)).toList

/-- The receipt of a request that is refused at its admission. -/
def refusal (cfg : OpsConfig) (r : SandboxOpRequestV1) (a : SandboxOpAdmission) :
    Option SandboxOpReceiptV1 :=
  match a.unavailable with
  | some state => cfg.leaseRefusal r state a.decidedAt
  | none => cfg.opReceipt r .refused "exec_limit_exceeded" a.decidedAt

/-! ## Steps -/

/-- The steps of `execStart` and `launchStart`. -/
def startStep (cfg : OpsConfig) (s : OpsLane) :
    OpsProc → OpsChoice → Option (OpsLane × List OpsProc × List OpsObservation)
  | .start r command, .next =>
    if s.mu then none else some ((s.join r).1, [.startAdmit r command (s.join r).2], [])
  | .startAdmit r command ref, .tx fate =>
    let a := s.tx cfg (.admitOp r) fate
    match a.2 with
    | .admission adm =>
      if !adm.start && !adm.replay then
        some (a.1, [.drop ⟨sandboxOpIDV1 r, ref⟩ ((refusal cfg r adm).map (r, ·))], [])
      else if adm.unavailable.isSome then some (a.1, signing r (refusal cfg r adm), [])
      else some (a.1, [.launch r command ref adm], [])
    | _ => some (a.1, [.startError ⟨sandboxOpIDV1 r, ref⟩], [])
  | .startError x, .next =>
    match s.entries[x.ref]? with
    | none => none
    | some e => some (s, if e.owned then [] else [.resolve x], [])
  | .drop x refused, .next =>
    match s.entries[x.ref]? with
    | none => none
    | some e =>
      if s.mu then none
      else if s.execEntry x.opID = some x.ref ∧ e.owned = false then
        some ({ s with mu := true }, [.dropping x refused], [])
      else some (s, refused.elim [] fun a => [.sign a.1 a.2], [])
  | .dropping x refused, .next =>
    some ({ s.delete x.opID with mu := false }, refused.elim [] fun a => [.sign a.1 a.2], [])
  | .launch r command ref adm, .next =>
    match s.entries[ref]? with
    | none => none
    | some e =>
      let x : ExecRef := ⟨sandboxOpIDV1 r, ref⟩
      let answer : OpsProc :=
        if adm.replay then .answer r (sandboxOpIDV1 r) none else .startStatus r ref adm
      if e.owned then some (s, [answer], [])
      else some (s.update ref (·.own (adm.admittedAt.getD 0)), [.owner x command 0, answer], [])
  | .startStatus r ref adm, .next =>
    match s.entries[ref]? with
    | none => none
    | some e =>
      let admittedAt := adm.admittedAt.getD 0
      some (s, [.startNow r (e.status .running admittedAt admittedAt) adm.decidedAt], [])
  | .startNow r status decidedAt, .next =>
    let receipt := cfg.opBase r .running (later s.clock decidedAt)
    some (s, [], signed cfg r (receipt.map ({ · with exec := some status })))
  | .sign r receipt, .next => some (s, [], signed cfg r (some receipt))
  | .refuseNow r stage code decidedAt, .next =>
    some (s, [], signed cfg r (cfg.opReceipt r stage code (later s.clock decidedAt)))
  | _, _ => none

/-- The code of a helper call of `exec_read` that failed. -/
def readFailure : OpsChoice → Option String
  | .timedOut => some "op_deadline_exceeded"
  | .callFailed code => some code
  | .exec _ (some code) => some code
  | _ => none

/-- The code that a failed `exec_read` is answered with. -/
def readCode (code : String) : String :=
  if code = "" ∨ code = "exec_not_found" ∨ code = "op_deadline_exceeded" then "sandbox_op_failed"
  else code

/-- The bytes of a read, capped to the retained stream from the offset. -/
def capped (r : SandboxOpRequestV1) (status : ExecStatus) (data : List UInt8) : List UInt8 :=
  let retained := if r.stream = some "stderr" then status.stderrRetained else status.stdoutRetained
  data.take (retained - r.offset.getD 0)

/-- The steps of `execLookup`, `execCancel` and `execRead`. -/
def lookupStep (cfg : OpsConfig) (s : OpsLane) :
    OpsProc → OpsChoice → Option (OpsLane × List OpsProc × List OpsObservation)
  | .lookup r, .tx fate =>
    let a := s.tx cfg (.admitOp r) fate
    match a.2 with
    | .admission _ => some (a.1, [.lookupExec r], [])
    | _ => some (a.1, [], [])
  | .lookupExec r, .tx fate =>
    let a := s.tx cfg (.lookupExec r) fate
    match a.2 with
    | .lookup seen =>
      match seen.unavailable with
      | some state => some (a.1, signing r (cfg.leaseRefusal r state seen.decidedAt), [])
      | none =>
        if !seen.found then
          some (a.1, signing r (cfg.opReceipt r .refused "exec_not_found" seen.decidedAt), [])
        else if r.op = .execCancel then some (a.1, [.cancel r seen], [])
        else some (a.1, [.read r seen], [])
    | _ => some (a.1, [], [])
  | .cancel r seen, .next =>
    if s.mu then none
    else
      let execID := r.execID.getD ""
      match s.execEntry execID with
      | some ref =>
        if !seen.state.any execTerminal then
          some (s, [.kill ⟨execID, ref⟩ .cancelled (.cancel r)], [])
        else some (s, [.answer r execID none], [])
      | none => some (s, [.answer r execID none], [])
  | .read r seen, .next =>
    if s.mu then none
    else
      let execID := r.execID.getD ""
      match s.execEntry execID with
      | none => some (s, [.refuseNow r .failed "sandbox_op_failed" seen.decidedAt], [])
      | some ref =>
        if seen.state = some .failed then some (s, [.answer r execID none], [])
        else if seen.state = some .admitted then some (s, [.readStatus r seen ⟨execID, ref⟩ []], [])
        else some (s, [.reading r seen ⟨execID, ref⟩], [])
  | .reading r seen x, .data o bytes =>
    match s.entries[x.ref]? with
    | none => none
    | some e =>
      let s' := s.update x.ref (·.observe o)
      if seen.state = some .running ∧ execTerminal o.state ∧ o.state ≠ .failed then
        some (s', [.record x (e.endState o.state) none 0 (.reading r seen bytes)], [])
      else some (s', [.readStatus r seen x bytes], [])
  | .reading r seen _, choice =>
    match readFailure choice with
    | none => none
    | some code =>
      some (s, [.refuseNow r (refusedStage (readCode code)) (readCode code) seen.decidedAt], [])
  | .readStatus r seen x data, .next =>
    match s.entries[x.ref]? with
    | none => none
    | some e =>
      let admittedAt := seen.admittedAt.getD 0
      let status := e.status .running admittedAt admittedAt
      some (s, [.answer r x.opID (some (capped r status data))], [])
  | _, _ => none

/-- The steps of `execAnswer`. -/
def answerStep (cfg : OpsConfig) (s : OpsLane) :
    OpsProc → OpsChoice → Option (OpsLane × List OpsProc × List OpsObservation)
  | .answer r execID result, .tx fate =>
    let a := s.tx cfg (.execState execID) fate
    match a.2 with
    | .execState seen _ =>
      match seen.unavailable with
      | some state => some (a.1, signing r (cfg.leaseRefusal r state seen.decidedAt), [])
      | none => some (a.1, [.answerEntry r execID result seen], [])
    | _ => some (a.1, [], [])
  | .answerEntry r execID result seen, .next =>
    if s.mu then none
    else
      match s.execEntry execID with
      | none => some (s, [.refuseNow r .failed "sandbox_op_failed" seen.decidedAt], [])
      | some ref =>
        if !seen.found then
          some (s, [.refuseNow r .failed "sandbox_op_failed" seen.decidedAt], [])
        else some (s, [.answerNow r ⟨execID, ref⟩ result seen], [])
  | .answerNow r x result seen, .next =>
    some (s, [.answerStatus r x result seen (later s.clock seen.decidedAt)], [])
  | .answerStatus r x result seen observed, .next =>
    match s.entries[x.ref]?, seen.state with
    | some e, some state =>
      let status := e.status (reported state) (seen.admittedAt.getD 0) observed
      some (s, [], signed cfg r (cfg.execReceipt r seen status observed result))
    | _, _ => none
  | _, _ => none

/-- The `timeout_ms` of the helper call: the exec's own bound from the decision on, at least one. -/
def startTimeout (e : OpExec) (decidedAt : ℤ) : ℕ :=
  (max ((e.admittedAt + e.timeout - decidedAt).tdiv millisecond) 1).toNat

/-- What a start owner records of a helper call that did not start the exec. -/
def startFailure : OpsChoice → Option String
  | .timedOut => some "sandbox_op_failed"
  | .callFailed code =>
    if code = "" then none
    else if code = "op_deadline_exceeded" ∨ code = "exec_not_found" then some "sandbox_op_failed"
    else some code
  | .exec o code =>
    if code = some "op_deadline_exceeded" then some "sandbox_op_failed"
    else if o.state = .failed then some (code.getD "sandbox_op_failed")
    else none
  | _ => none

/-- The observation that a helper call returns to a start owner. -/
def startObservation : OpsChoice → Option ExecObservation
  | .exec o code => if code = some "op_deadline_exceeded" then none else some o
  | _ => none

/-- The steps of `startOwner` and `giveUp`. -/
def ownerStep (cfg : OpsConfig) (s : OpsLane) :
    OpsProc → OpsChoice → Option (OpsLane × List OpsProc × List OpsObservation)
  | .owner x command attempt, .tx fate =>
    let a := s.tx cfg (.execState x.opID) fate
    match a.2 with
    | .execState seen leaseExpiry => some (a.1, [.ownerDecide x command seen leaseExpiry], [])
    | _ =>
      if attempt + 1 < durableAttempts then some (a.1, [.owner x command (attempt + 1)], [])
      else some (a.1, [.giveUp x], [])
  | .ownerDecide x command seen leaseExpiry, .next =>
    match s.entries[x.ref]? with
    | none => none
    | some e =>
      if !seen.found || seen.unavailable.isSome || seen.state ≠ some .admitted then some (s, [], [])
      else if e.cancelPending then some (s, [.kill x .cancelled .detached], [])
      else if e.deadline leaseExpiry ≤ seen.decidedAt then
        some (s, [.record x .timedOut none 0 .failing], [])
      else some (s, [.ownerCall x command seen.decidedAt], [])
  | .ownerCall x command decidedAt, .next =>
    match s.entries[x.ref]? with
    | none => none
    | some e =>
      some (s, [.ownerCalling x],
        [.exec ⟨e.instance', x.opID, command, e.maxOutput, startTimeout e decidedAt⟩])
  | .ownerCalling x, choice =>
    let s' := (startObservation choice).elim s fun o => s.update x.ref (·.observe o)
    match startFailure choice, startObservation choice with
    | some code, _ => some (s', [.record x .failed (some code) 0 .failing], [])
    | none, some o => some (s', [.record x .running none 0 (.starting o.state)], [])
    | none, none => none
  | .ownerStarted x, .next =>
    match s.entries[x.ref]? with
    | none => none
    | some e =>
      some (s, if e.cancelPending then [.kill x .cancelled .detached] else [.deadline x], [])
  | .giveUp x, .next => some (s.update x.ref ({ · with gaveUp := true }), [.resolve x], [])
  | _, _ => none

/-- What `recordExec` returns: whether the transition was applied, or an error. -/
inductive Recorded
  | applied | refused | unknown
  deriving DecidableEq, Repr

/-- What the caller of `recordExec` does next. -/
def afterRecord (x : ExecRef) (result : Recorded) : Recording → List OpsProc
  | .failing => if result = .unknown then [.giveUp x] else []
  | .starting state =>
    match result with
    | .unknown => [.record x .failed (some "sandbox_op_failed") 0 .failing]
    | .refused => []
    | .applied => if state = .running then [.ownerStarted x] else [.record x state none 0 .ending]
  | .ending => []
  | .resolving => if result = .unknown then [.resolve x] else []
  | .killing k => [.killUnlock x (decide (result = .unknown)) k]
  | .reading r seen data => [.readStatus r seen x data]

/-- The steps of `recordExec` and `markEnded`. -/
def recordStep (cfg : OpsConfig) (s : OpsLane) :
    OpsProc → OpsChoice → Option (OpsLane × List OpsProc × List OpsObservation)
  | .record x state code attempt k, .tx fate =>
    let a := s.tx cfg (.recordExecState x.opID state code) fate
    match a.2 with
    | .recorded =>
      if state = .running then some (a.1, afterRecord x .applied k, [])
      else some (a.1, [.markEnded x k], [])
    | .error .execTransition => some (a.1, afterRecord x .refused k, [])
    | _ =>
      if attempt + 1 < durableAttempts then some (a.1, [.record x state code (attempt + 1) k], [])
      else some (a.1, afterRecord x .unknown k, [])
  | .markEnded x k, .next =>
    some (s.update x.ref (·.markEnded s.clock), afterRecord x .applied k, [])
  | _, _ => none

/-- The steps of the timers of `armResolve` and `armDeadline`. -/
def timerStep (cfg : OpsConfig) (s : OpsLane) :
    OpsProc → OpsChoice → Option (OpsLane × List OpsProc × List OpsObservation)
  | .resolve x, .next =>
    if s.mu then none
    else some (s, if s.execEntry x.opID = some x.ref then [.resolveRead x 0] else [], [])
  | .resolveRead x attempt, .tx fate =>
    let a := s.tx cfg (.execState x.opID) fate
    match a.2 with
    | .execState seen _ => some (a.1, [.resolveDecide x seen], [])
    | _ =>
      if attempt + 1 < durableAttempts then some (a.1, [.resolveRead x (attempt + 1)], [])
      else some (a.1, [.resolve x], [])
  | .resolveDecide x seen, .next =>
    match s.entries[x.ref]? with
    | none => none
    | some e =>
      if !seen.found then
        some (s, if seen.decidedAt < e.requestExpires then [.resolve x] else [.drop x none], [])
      else if execSettled seen then some (s, [], [])
      else if seen.state = some .admitted then
        let e' := e.claim (seen.admittedAt.getD 0) seen.decidedAt
        let s' := s.update x.ref (·.claim (seen.admittedAt.getD 0) seen.decidedAt)
        if !e'.owned then some (s', [.resolve x], [])
        else if !e'.gaveUp then some (s', [], [])
        else some (s', [.resolveEnd x], [])
      else some (s, [.deadline x], [])
  | .resolveEnd x, .next =>
    match s.entries[x.ref]? with
    | none => none
    | some e =>
      if e.cancelPending then some (s, [.record x .cancelled none 0 .resolving], [])
      else some (s, [.record x .failed (some "sandbox_op_failed") 0 .resolving], [])
  | .deadline x, .next =>
    if s.mu then none
    else some (s, if s.execEntry x.opID = some x.ref then [.deadlineRead x 0] else [], [])
  | .deadlineRead x attempt, .tx fate =>
    let a := s.tx cfg (.execState x.opID) fate
    match a.2 with
    | .execState seen leaseExpiry => some (a.1, [.deadlineDecide x seen leaseExpiry], [])
    | _ =>
      if attempt + 1 < durableAttempts then some (a.1, [.deadlineRead x (attempt + 1)], [])
      else some (a.1, [.deadline x], [])
  | .deadlineDecide x seen leaseExpiry, .next =>
    match s.entries[x.ref]? with
    | none => none
    | some e =>
      if !seen.found || (seen.unavailable.isSome && !leaseExpiring seen) then some (s, [], [])
      else if seen.decidedAt < e.deadline leaseExpiry ∧ e.cancelPending = false then
        some (s, [.deadline x], [])
      else some (s, [.kill x .timedOut .detached], [])
  | _, _ => none

/-- The steps of `killPath` and `endAdmitted`. -/
def killStep (cfg : OpsConfig) (s : OpsLane) :
    OpsProc → OpsChoice → Option (OpsLane × List OpsProc × List OpsObservation)
  | .kill x trigger k, .next =>
    match s.entries[x.ref]? with
    | none => none
    | some e =>
      if trigger = .cancelled then
        some (s.update x.ref ({ · with cancelPending := true }), [.killLock x .cancelled k], [])
      else some (s, [.killLock x (if e.cancelPending then .cancelled else trigger) k], [])
  | .killLock x trigger k, .next =>
    match s.entries[x.ref]? with
    | none => none
    | some e =>
      if e.kill then none
      else some (s.update x.ref ({ · with kill := true }), [.killRead x trigger 0 k], [])
  | .killRead x trigger attempt k, .tx fate =>
    let a := s.tx cfg (.execState x.opID) fate
    match a.2 with
    | .execState seen leaseExpiry => some (a.1, [.killDecide x trigger seen leaseExpiry k], [])
    | _ =>
      if attempt + 1 < durableAttempts then some (a.1, [.killRead x trigger (attempt + 1) k], [])
      else some (a.1, [.killUnlock x true k], [])
  | .killDecide x trigger seen leaseExpiry k, .next =>
    match s.entries[x.ref]? with
    | none => none
    | some e =>
      if execSettled seen then some (s, [.killUnlock x false k], [])
      else if trigger = .timedOut ∧ seen.decidedAt < e.deadline leaseExpiry then
        some (s, [.killUnlock x true k], [])
      else if seen.state = some .admitted then some (s, [.killEnd x trigger 0 k], [])
      else some (s, [.killSignal x trigger k], [])
  | .killEnd x trigger attempt k, .tx fate =>
    let a := s.tx cfg (.recordAdmittedExecEnd x.opID trigger) fate
    match a.2 with
    | .ended true => some (a.1, [.markEnded x (.killing k)], [])
    | .ended false => some (a.1, [.killReread x trigger 0 k], [])
    | _ =>
      if attempt + 1 < durableAttempts then some (a.1, [.killEnd x trigger (attempt + 1) k], [])
      else some (a.1, [.killUnlock x (decide (trigger = .cancelled)) k], [])
  | .killReread x trigger attempt k, .tx fate =>
    let a := s.tx cfg (.execState x.opID) fate
    match a.2 with
    | .execState seen _ =>
      if execSettled seen then some (a.1, [.killUnlock x false k], [])
      else if seen.state = some .admitted then some (a.1, [.killUnlock x true k], [])
      else some (a.1, [.killSignal x trigger k], [])
    | _ =>
      if attempt + 1 < durableAttempts then some (a.1, [.killReread x trigger (attempt + 1) k], [])
      else some (a.1, [.killUnlock x true k], [])
  | .killSignal x trigger k, .next =>
    some (s.update x.ref fun e => { e with killTrigger := e.killTrigger.or (some trigger) },
      [.killing x trigger k], [])
  | .killing x _ k, .exec o _ =>
    if execTerminal o.state ∧ o.state ≠ .failed then
      some (s.update x.ref (·.observe o), [.killRecord x o.state k], [])
    else none
  | .killing x trigger k, .noAnswer => some (s, [.killRecord x trigger k], [])
  | .killRecord x observed k, .next =>
    match s.entries[x.ref]? with
    | none => none
    | some e => some (s, [.record x (e.endState observed) none 0 (.killing k)], [])
  | .killUnlock x rearm k, .next =>
    let rearmed : List OpsProc := if rearm then [.deadline x] else []
    let answered : List OpsProc :=
      match k with
      | .detached => []
      | .cancel r => [.answer r x.opID none]
    some (s.update x.ref ({ · with kill := false }), rearmed ++ answered, [])
  | _, _ => none

/-- The next step of a process. -/
def step (cfg : OpsConfig) (s : OpsLane) (p : OpsProc) (c : OpsChoice) :
    Option (OpsLane × List OpsProc × List OpsObservation) :=
  match p with
  | .start .. | .startAdmit .. | .startError .. | .drop .. | .dropping .. | .launch .. | .startStatus ..
  | .startNow .. | .sign .. | .refuseNow .. => startStep cfg s p c
  | .lookup .. | .lookupExec .. | .cancel .. | .read .. | .reading .. | .readStatus .. =>
    lookupStep cfg s p c
  | .answer .. | .answerEntry .. | .answerNow .. | .answerStatus .. => answerStep cfg s p c
  | .owner .. | .ownerDecide .. | .ownerCall .. | .ownerCalling .. | .ownerStarted .. | .giveUp .. =>
    ownerStep cfg s p c
  | .record .. | .markEnded .. => recordStep cfg s p c
  | .resolve .. | .resolveRead .. | .resolveDecide .. | .resolveEnd .. | .deadline ..
  | .deadlineRead .. | .deadlineDecide .. => timerStep cfg s p c
  | .kill .. | .killLock .. | .killRead .. | .killDecide .. | .killEnd .. | .killReread ..
  | .killSignal .. | .killing .. | .killRecord .. | .killUnlock .. => killStep cfg s p c

end OpsProc

/-- What the surroundings do: the clock does not go back. -/
def OpsConfig.env (cfg : OpsConfig) (s : OpsLane) : OpsEnv → OpsLane
  | .clock now => { s with clock := max s.clock now }
  | .lease op => (s.tx cfg (fun _ => .lease op) .commits).1
  | .renewLease r => (s.tx cfg (.renewLease r) .commits).1

/-- The exec operations of a lane as a program of processes. -/
def opsLane (cfg : OpsConfig) :
    Pool.Program OpsLane OpsProc OpsChoice OpsRequest OpsEnv OpsObservation where
  spawn := cfg.spawn
  step := OpsProc.step cfg
  env := cfg.env

/-- A lane that has not served yet, at a time, on new ops tables. -/
def OpsLane.init (clock : ℤ) : Pool.Config OpsLane OpsProc := ⟨⟨clock, .empty, [], [], false⟩, []⟩

/-- An event of the exec operations. -/
abbrev OpsEvent := Pool.Event OpsChoice OpsRequest OpsEnv

end Misscomputer.Miner
