import Misscomputer.Durable.Ops
import Misscomputer.Lib.Pool
import Misscomputer.Protocol.Receipt
import Misscomputer.Runtime.InstanceName

set_option relaxedAutoImplicit false
set_option autoImplicit false

/-!
# The miner's sandbox lane

The lane admits validator documents, applies them to the durable store, drives the backend and signs
receipts. Its handlers, the start of a lease in the background and the periodic sweep run
concurrently: each is a process, and a process steps from one shared action to the next. A process
reads the clock where the source does and keeps what it read; a store transaction is one atomic step
at any later moment. It may be rolled back, and it may commit while its caller is told that it failed.

A backend call takes several steps. While `Create` runs, its image probe and its sandbox may appear,
and a `Create` that fails leaves whatever appeared; while `Destroy` runs the sandbox may vanish, and a
`Destroy` that returns without an error has removed it. The lane is not closed.

## Main definitions

* `Miner.Lane` — the state the processes share.
* `Miner.Proc` — the program points, with the local values the source has there.
* `Miner.Proc.step`, `Miner.lane` — the steps.
* `Miner.Observation` — what can be seen of a step: a store transaction, a call of the backend, a
  receipt.

## Implementation notes

The signature, the window and the chain binding of a document, and whether it names this agent, are
checked in `verify`, a parameter. A context that ends and a read that fails end a handler without a
receipt; here such a handler is one that takes no further step. A handler that holds a lock gives it up
in every case.

## References

* `pkg/miner/sandbox.go`
-/

namespace Misscomputer.Miner

open Sandbox Protocol Durable Misscomputer.Runtime

/-! ## What the lane is given -/

/-- What a lane is made with. -/
structure LaneConfig where
  wire : Wire
  /-- The capacity holds are checked against and receipts report. -/
  budget : Capacity
  minerID : String
  /-- `VerifyBoundSandbox…V1` of a document at a time, and `admit`. -/
  verify : Document → ℤ → Bool
  /-- `SandboxDigestV1` of a renewal and of a release. -/
  renewalDigest : SandboxRenewalV1 → Option String
  releaseDigest : SandboxReleaseV1 → Option String
  /-- `signStatic` with the agent's key. -/
  sign : SandboxReceiptV1 → String
  /-- `Unsupported` of the backend: the code it refuses a lease with, or the empty text. -/
  backendUnsupported : SandboxLeaseV1 → String

/-- `SandboxInstance`: one sandbox, or one image probe, that the backend holds. -/
structure SandboxInstance where
  name : String
  leaseID : String
  deriving DecidableEq, Repr

/-- What the processes of a lane share: the clock, the store, the locked keys, the leases being
started, and what the backend holds. -/
structure Lane where
  clock : ℤ
  store : LeaseStore
  locks : List String
  starts : List String
  instances : List SandboxInstance
  deriving DecidableEq, Repr

/-- A request for one handler. -/
inductive Request
  | reserve (r : SandboxReservationV1)
  | replayReservation (r : SandboxReservationV1) (waited : ℤ)
  | commit (lease : SandboxLeaseV1)
  | renew (r : SandboxRenewalV1)
  | release (r : SandboxReleaseV1)
  | sweep
  deriving DecidableEq, Repr

/-! ## Receipts -/

/-- `SandboxDigestV1` of a document. -/
def LaneConfig.digest (cfg : LaneConfig) : Document → Option String
  | .reservation r => cfg.wire.reservationDigest r
  | .lease l => cfg.wire.leaseDigest l
  | .renewal r => cfg.renewalDigest r
  | .release r => cfg.releaseDigest r

/-- The receipt that answers a document with an outcome. -/
def LaneConfig.unsigned (cfg : LaneConfig) (doc : Document) (digest : String) (outcome : SandboxOutcome)
    (now : ℤ) : SandboxReceiptV1 where
  capacityActive := outcome.active
  capacityHeld := outcome.held
  capacityTotal := cfg.budget
  documentDigest := digest
  documentSchema := doc.schema
  errorCode := outcome.errorCode
  generation := doc.identity.generation
  leaseID := if doc.schema = sandboxReservationSchema then none else outcome.leaseID
  minerID := cfg.minerID
  observedAt := now
  renewalSeq := if doc.schema = sandboxReservationSchema then 0 else outcome.renewalSeq
  sandboxID := doc.identity.sandboxID
  schema := sandboxReceiptSchema
  schemaVersion := 1
  signature := ""
  stage := outcome.stage
  subnet := doc.subnet

/-- `SandboxLane.receipt`: the signed receipt, or why it is not signed. -/
def LaneConfig.receipt (cfg : LaneConfig) (doc : Document) (outcome : SandboxOutcome) (now : ℤ) :
    Except String SandboxReceiptV1 := do
  match cfg.digest doc with
  | none => .error "canonical json must be ascii"
  | some digest =>
    let r := cfg.unsigned doc digest outcome now
    r.validateUnsigned cfg.wire
    .ok { r with signature := cfg.sign r }

/-! ## Program points -/

/-- Who called `destroyAll`. -/
inductive Batch
  | release (r : SandboxReleaseV1) (outcome : SandboxOutcome)
  | sweep
  deriving DecidableEq, Repr

/-- Who called `teardown`: the start of a lease, or `destroyAll` with the leases left to do. -/
inductive Caller
  | start (lease : SandboxLeaseV1) (completedAt : ℤ)
  | batch (b : Batch) (rest : List String) (failed : Bool)
  deriving DecidableEq, Repr

/-- A process at the point before its next shared action. -/
inductive Proc
  /-- `Reserve`, `ReplayReservation` and `Renew`: about to run their store transaction. -/
  | request (doc : Document) (op : LeaseOp)
  /-- About to sign a receipt. -/
  | sign (doc : Document) (outcome : SandboxOutcome) (now : ℤ)
  /-- `Commit`: at the head of its loop, at `tryLock`, after it failed, at its transaction under the
  lock, about to unlock, about to begin the start. -/
  | commit (lease : SandboxLeaseV1) (now : ℤ)
  | commitTry (lease : SandboxLeaseV1) (now : ℤ)
  | commitBusy (lease : SandboxLeaseV1) (now : ℤ)
  | commitLocked (lease : SandboxLeaseV1) (now : ℤ)
  | commitUnlock (lease : SandboxLeaseV1) (outcome : Option SandboxOutcome)
  | commitBegin (lease : SandboxLeaseV1)
  /-- `await`, and `answerCommit` before and after it reads the clock. -/
  | await (lease : SandboxLeaseV1)
  | answer (lease : SandboxLeaseV1)
  | answerTx (lease : SandboxLeaseV1) (now : ℤ)
  /-- `start`, which holds the lease lock from its beginning to its end. -/
  | startCheck (lease : SandboxLeaseV1)
  | creating (lease : SandboxLeaseV1)
  | startMark (lease : SandboxLeaseV1) (completedAt : ℤ)
  | startFail (lease : SandboxLeaseV1) (code : String)
  | startFailTx (lease : SandboxLeaseV1) (code : String) (completedAt : ℤ)
  | startAnswer (lease : SandboxLeaseV1) (completedAt : ℤ)
  | startEnd (lease : SandboxLeaseV1)
  | startUnlock (lease : SandboxLeaseV1)
  /-- `teardown`, under the lease lock: before and during `Destroy`, before `CompleteLeaseCleanup`, and
  back in its caller. -/
  | destroying (leaseID : String) (now : ℤ) (k : Caller)
  | destroyIssued (leaseID : String) (now : ℤ) (k : Caller)
  | completing (leaseID : String) (now : ℤ) (k : Caller)
  | tornDown (leaseID : String) (now : ℤ) (ok : Bool) (k : Caller)
  /-- `destroyAll`, between two leases. -/
  | destroyAll (b : Batch) (todo : List String) (failed : Bool) (now : ℤ)
  /-- `Release`: at its transaction, and at its read of the occupancy. -/
  | release (r : SandboxReleaseV1) (now : ℤ)
  | occupancy (r : SandboxReleaseV1) (outcome : SandboxOutcome) (now : ℤ)
  /-- `Sweep` at its transaction, and `destroyOrphans`. -/
  | sweep (now : ℤ)
  | orphans
  | orphanLoop (todo : List SandboxInstance)
  | orphanCheck (i : SandboxInstance) (todo : List SandboxInstance)
  | orphanDestroying (i : SandboxInstance) (todo : List SandboxInstance)
  | orphanIssued (i : SandboxInstance) (todo : List SandboxInstance)
  | orphanUnlock (i : SandboxInstance) (todo : List SandboxInstance)
  deriving DecidableEq, Repr

/-- What the surroundings choose for a step: what becomes of a store transaction, whether a deadline
has passed, what appears and vanishes in the backend, and how its calls return. -/
inductive Choice
  | next
  | tx (fate : Fate)
  | late
  | probeAppears
  | probeVanishes
  | appears
  | created
  | createFailed (refusal : Option String)
  | vanishes
  | destroyed
  | destroyFailed
  | readFailed
  deriving DecidableEq, Repr

/-- What can be seen of a step. -/
inductive Observation
  /-- A committed transaction of the store, and a read of the occupancy at a time. -/
  | tx (op : LeaseOp)
  | occupancy (now : ℤ)
  /-- A sandbox appears in the backend. -/
  | create (i : SandboxInstance)
  /-- `Destroy` is issued for an instance name. -/
  | destroy (name : String)
  /-- An outcome is handed to `SandboxLane.receipt`, which answers. -/
  | receipt (doc : Document) (outcome : SandboxOutcome) (answer : Except String SandboxReceiptV1)
  deriving DecidableEq

/-! ## Shared actions -/

namespace Lane

/-- Take the lock of a key, which is free. -/
def lock (s : Lane) (key : String) : Lane := { s with locks := key :: s.locks }

def unlock (s : Lane) (key : String) : Lane := { s with locks := s.locks.erase key }

/-- `starts.begin` and `starts.end`. -/
def beginStart (s : Lane) (leaseID : String) : Lane := { s with starts := leaseID :: s.starts }

def endStart (s : Lane) (leaseID : String) : Lane := { s with starts := s.starts.erase leaseID }

/-- Something appears in the backend under a name that is not taken. -/
def appear (s : Lane) (i : SandboxInstance) : Lane :=
  if s.instances.any (·.name = i.name) then s else { s with instances := s.instances ++ [i] }

/-- What has a name vanishes from the backend. -/
def vanish (s : Lane) (name : String) : Lane :=
  { s with instances := s.instances.filter (·.name ≠ name) }

/-- Whether the backend holds something under a name. -/
def has (s : Lane) (name : String) : Bool := s.instances.any (·.name = name)

/-- One store transaction: the tables after it, what its caller is told, what is seen of it. -/
def tx (cfg : LaneConfig) (s : Lane) (op : LeaseOp) (fate : Fate) :
    Lane × LeaseAnswer × List Observation :=
  let a := serve cfg.wire cfg.budget s.store op
  match fate with
  | .commits => ({ s with store := a.1 }, a.2, [.tx op])
  | .rollsBack => (s, .error (.driver "sql: transaction has already been rolled back"), [])
  | .unreported => ({ s with store := a.1 }, .error (.driver "bad connection"), [.tx op])

end Lane

/-- The lock key of a lease. -/
def leaseKey (lease : SandboxLeaseV1) : String := sandboxLeaseIDV1 lease

/-- The sandbox of a lease in the backend, and its image probe. -/
def sandboxOf (lease : SandboxLeaseV1) : SandboxInstance :=
  ⟨instanceName (leaseKey lease), leaseKey lease⟩

def probeOf (lease : SandboxLeaseV1) : SandboxInstance := ⟨probeName (leaseKey lease), leaseKey lease⟩

/-- `SandboxLane.unsupported`: a backend cannot turn its own fault into a refusal. -/
def LaneConfig.unsupported (cfg : LaneConfig) (lease : SandboxLeaseV1) : String :=
  if lease.secretEnv.delivery ≠ "none" then "secret_delivery_unsupported"
  else
    let code := cfg.backendUnsupported lease
    if code = "" then ""
    else if receiptErrorAttribution.lookup code = some false then code
    else "runtime_start_failed"

/-- The code of a start whose `Create` failed. -/
def startCode (refusal : Option String) : String :=
  match refusal with
  | none => "runtime_start_failed"
  | some code =>
    if receiptErrorAttribution.lookup code = some false then code else "runtime_start_failed"

/-- Whether an instance is the image probe of the lease it names. -/
def SandboxInstance.probe (i : SandboxInstance) : Bool := i.leaseID ≠ "" && i.name = probeName i.leaseID

/-- The lock key `destroyOrphans` takes for an instance. -/
def SandboxInstance.key (i : SandboxInstance) : String :=
  if !i.probe && (i.leaseID = "" || instanceName i.leaseID ≠ i.name) then "instance:" ++ i.name
  else i.leaseID

/-- Whether the lease of an instance is live, read under the lock. -/
def SandboxInstance.live (s : Lane) (i : SandboxInstance) : Bool :=
  !i.probe && i.key = i.leaseID && (s.store.leaseByID i.leaseID).any LeaseRow.occupies

/-! ## Steps -/

/-- The process that a request starts, if its document is verified. It reads the clock first. -/
def spawn (cfg : LaneConfig) (s : Lane) : Request → Option Proc
  | .reserve r =>
    if cfg.verify (.reservation r) s.clock then some (.request (.reservation r) (.hold r s.clock))
    else none
  | .replayReservation r waited =>
    if cfg.verify (.reservation r) s.clock then
      some (.request (.reservation r) (.replayHeldReservation r s.clock waited))
    else none
  | .commit lease => if cfg.verify (.lease lease) s.clock then some (.commit lease s.clock) else none
  | .renew r =>
    if cfg.verify (.renewal r) s.clock then some (.request (.renewal r) (.renew r s.clock)) else none
  | .release r => if cfg.verify (.release r) s.clock then some (.release r s.clock) else none
  | .sweep => some (.sweep s.clock)

/-- The receipt of a request is observed at the time its store transaction reports, or at its own. -/
def observedAt (outcome : SandboxOutcome) (op : LeaseOp) : ℤ := outcome.observedAt.getD op.now

/-- The steps of `Commit` and `answerCommit`. -/
def commitStep (cfg : LaneConfig) (s : Lane) :
    Proc → Choice → Option (Lane × List Proc × List Observation)
  | .commit lease now, .next =>
    if leaseKey lease ∈ s.starts then some (s, [.await lease], [])
    else some (s, [.commitTry lease now], [])
  | .commitTry lease now, .next =>
    if leaseKey lease ∈ s.locks then some (s, [.commitBusy lease now], [])
    else some (s.lock (leaseKey lease), [.commitLocked lease now], [])
  | .commitBusy lease now, .next => some (s, [.commit lease now], [])
  | .commitBusy lease now, .late =>
    if (s.store.leaseByID (leaseKey lease)).isSome then some (s, [.answer lease], [])
    else some (s, [.commit lease now], [])
  | .commitLocked lease now, .tx fate =>
    let a := s.tx cfg (.commitLease lease now) fate
    match a.2.1 with
    | .outcome o =>
      if o.start ∨ o.stage = .accepted then some (a.1, [.commitBegin lease], a.2.2)
      else some (a.1, [.commitUnlock lease (some o)], a.2.2)
    | _ => some (a.1, [.commitUnlock lease none], a.2.2)
  | .commitUnlock lease outcome, .next =>
    some (s.unlock (leaseKey lease), (outcome.map fun o => .sign (.lease lease) o s.clock).toList, [])
  | .commitBegin lease, .next =>
    some (s.beginStart (leaseKey lease), [.startCheck lease, .await lease], [])
  | .await lease, .next => some (s, [.answer lease], [])
  | .answer lease, .next => some (s, [.answerTx lease s.clock], [])
  | .answerTx lease now, .tx fate =>
    let a := s.tx cfg (.commitLease lease now) fate
    match a.2.1 with
    | .outcome o => some (a.1, [.sign (.lease lease) o now], a.2.2)
    | _ => some (a.1, [], a.2.2)
  | _, _ => none

/-- The steps of `start`. -/
def startStep (cfg : LaneConfig) (s : Lane) :
    Proc → Choice → Option (Lane × List Proc × List Observation)
  | .startCheck lease, .next =>
    if cfg.unsupported lease = "" then some (s, [.creating lease], [])
    else some (s, [.startFail lease (cfg.unsupported lease)], [])
  | .creating lease, .probeAppears => some (s.appear (probeOf lease), [.creating lease], [])
  | .creating lease, .probeVanishes => some (s.vanish (probeOf lease).name, [.creating lease], [])
  | .creating lease, .appears =>
    some (s.appear (sandboxOf lease), [.creating lease], [.create (sandboxOf lease)])
  | .creating lease, .created =>
    if s.has (sandboxOf lease).name then some (s, [.startMark lease s.clock], []) else none
  | .creating lease, .createFailed refusal => some (s, [.startFail lease (startCode refusal)], [])
  | .startMark lease completedAt, .tx fate =>
    let a := s.tx cfg (.markLeaseRunning (leaseKey lease) completedAt) fate
    match a.2.1 with
    | .running true => some (a.1, [.startAnswer lease completedAt], a.2.2)
    | .running false =>
      some (a.1, [.destroying (leaseKey lease) completedAt (.start lease completedAt)], a.2.2)
    | _ => some (a.1, [.startFail lease "runtime_start_failed"], a.2.2)
  | .startFail lease code, .next => some (s, [.startFailTx lease code s.clock], [])
  | .startFailTx lease code completedAt, .tx fate =>
    let a := s.tx cfg (.beginLeaseCleanup (leaseKey lease) .failed (some code) completedAt) fate
    match a.2.1 with
    | .done =>
      some (a.1, [.destroying (leaseKey lease) completedAt (.start lease completedAt)], a.2.2)
    | _ => some (a.1, [.startEnd lease], a.2.2)
  | .startAnswer lease completedAt, .tx fate =>
    let a := s.tx cfg (.commitLease lease completedAt) fate
    some (a.1, [.startEnd lease], a.2.2)
  | .startEnd lease, .next => some (s.endStart (leaseKey lease), [.startUnlock lease], [])
  | .startUnlock lease, .next => some (s.unlock (leaseKey lease), [], [])
  | _, _ => none

/-- The steps of `teardown` and `destroyAll`. -/
def teardownStep (cfg : LaneConfig) (s : Lane) :
    Proc → Choice → Option (Lane × List Proc × List Observation)
  | .destroying leaseID now k, .next =>
    some (s, [.destroyIssued leaseID now k], [.destroy (instanceName leaseID)])
  | .destroyIssued leaseID now k, .vanishes =>
    some (s.vanish (instanceName leaseID), [.destroyIssued leaseID now k], [])
  | .destroyIssued leaseID now k, .destroyed =>
    if s.has (instanceName leaseID) then none else some (s, [.completing leaseID now k], [])
  | .destroyIssued leaseID now k, .destroyFailed => some (s, [.tornDown leaseID now false k], [])
  | .completing leaseID now k, .tx fate =>
    let a := s.tx cfg (.completeLeaseCleanup leaseID now) fate
    match a.2.1 with
    | .done => some (a.1, [.tornDown leaseID now true k], a.2.2)
    | _ => some (a.1, [.tornDown leaseID now false k], a.2.2)
  | .tornDown _ _ _ (.start lease completedAt), .next => some (s, [.startAnswer lease completedAt], [])
  | .tornDown leaseID now ok (.batch b rest failed), .next =>
    some (s.unlock leaseID, [.destroyAll b rest (failed || !ok) now], [])
  | .destroyAll b (leaseID :: rest) failed now, .next =>
    if leaseID ∈ s.locks then some (s, [.destroyAll b rest true now], [])
    else some (s.lock leaseID, [.destroying leaseID now (.batch b rest failed)], [])
  | .destroyAll (.release r outcome) [] failed now, .next =>
    if failed then some (s, [], []) else some (s, [.occupancy r outcome now], [])
  | .destroyAll .sweep [] _ _, .next => some (s, [.orphans], [])
  | _, _ => none

/-- The steps of `Release` and `Sweep` around `destroyAll`. -/
def releaseStep (cfg : LaneConfig) (s : Lane) :
    Proc → Choice → Option (Lane × List Proc × List Observation)
  | .release r now, .tx fate =>
    let a := s.tx cfg (.release r now) fate
    match a.2.1 with
    | .released o [] => some (a.1, [.sign (.release r) o now], a.2.2)
    | .released o records =>
      some (a.1, [.destroyAll (.release r o) (records.map (·.leaseID)) false now], a.2.2)
    | _ => some (a.1, [], a.2.2)
  | .occupancy r outcome now, .next =>
    let occupied := sandboxOccupancyTx s.store now
    some (s, [.sign (.release r) { outcome with held := occupied.1, active := occupied.2 } now],
      [.occupancy now])
  | .sweep now, .tx fate =>
    let a := s.tx cfg (.sweep now) fate
    match a.2.1 with
    | .records records =>
      some (a.1, [.destroyAll .sweep (records.map (·.leaseID)) false now], a.2.2)
    | _ => some (a.1, [], a.2.2)
  | _, _ => none

/-- The steps of `destroyOrphans`. -/
def orphanStep (s : Lane) : Proc → Choice → Option (Lane × List Proc × List Observation)
  | .orphans, .next => some (s, [.orphanLoop s.instances], [])
  | .orphanLoop [], .next => some (s, [], [])
  | .orphanLoop (i :: todo), .next =>
    if i.key ∈ s.locks then some (s, [.orphanLoop todo], [])
    else some (s.lock i.key, [.orphanCheck i todo], [])
  | .orphanCheck i todo, .next =>
    if i.live s then some (s, [.orphanUnlock i todo], []) else some (s, [.orphanDestroying i todo], [])
  | .orphanCheck i todo, .readFailed => some (s, [.orphanUnlock i todo], [])
  | .orphanDestroying i todo, .next => some (s, [.orphanIssued i todo], [.destroy i.name])
  | .orphanIssued i todo, .vanishes => some (s.vanish i.name, [.orphanIssued i todo], [])
  | .orphanIssued i todo, .destroyed =>
    if s.has i.name then none else some (s, [.orphanUnlock i todo], [])
  | .orphanIssued i todo, .destroyFailed => some (s, [.orphanUnlock i todo], [])
  | .orphanUnlock i todo, .next => some (s.unlock i.key, [.orphanLoop todo], [])
  | _, _ => none

/-- The next step of a process. -/
def Proc.step (cfg : LaneConfig) (s : Lane) (p : Proc) (c : Choice) :
    Option (Lane × List Proc × List Observation) :=
  match p, c with
  | .request doc op, .tx fate =>
    let a := s.tx cfg op fate
    match a.2.1 with
    | .outcome o => some (a.1, [.sign doc o (observedAt o op)], a.2.2)
    | _ => some (a.1, [], a.2.2)
  | .sign doc outcome now, .next =>
    some (s, [], [.receipt doc outcome (cfg.receipt doc outcome now)])
  | .commit _ _, _ | .commitTry _ _, _ | .commitBusy _ _, _ | .commitLocked _ _, _
  | .commitUnlock _ _, _ | .commitBegin _, _ | .await _, _ | .answer _, _ | .answerTx _ _, _ =>
    commitStep cfg s p c
  | .startCheck _, _ | .creating _, _ | .startMark _ _, _ | .startFail _ _, _ | .startFailTx _ _ _, _
  | .startAnswer _ _, _ | .startEnd _, _ | .startUnlock _, _ => startStep cfg s p c
  | .destroying _ _ _, _ | .destroyIssued _ _ _, _ | .completing _ _ _, _ | .tornDown _ _ _ _, _
  | .destroyAll _ _ _ _, _ => teardownStep cfg s p c
  | .release _ _, _ | .occupancy _ _ _, _ | .sweep _, _ => releaseStep cfg s p c
  | .orphans, _ | .orphanLoop _, _ | .orphanCheck _ _, _ | .orphanDestroying _ _, _
  | .orphanIssued _ _, _ | .orphanUnlock _ _, _ => orphanStep s p c
  | _, _ => none

/-- The lane as a program of processes. Its surroundings set the clock. -/
def lane (cfg : LaneConfig) : Pool.Program Lane Proc Choice Request ℤ Observation where
  spawn := spawn cfg
  step := Proc.step cfg
  env s now := { s with clock := now }

/-- A lane that has not served yet, on the tables `store` and an empty backend. -/
def Lane.init (store : LeaseStore) : Pool.Config Lane Proc := ⟨⟨0, store, [], [], []⟩, []⟩

/-- An event of the lane. -/
abbrev LaneEvent := Pool.Event Choice Request ℤ

end Misscomputer.Miner
