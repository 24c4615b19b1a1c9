import Misscomputer.Lib.Table
import Misscomputer.Lib.Machine
import Misscomputer.Protocol.Documents

set_option relaxedAutoImplicit false
set_option autoImplicit false

/-!
# The durable sandbox leases

The miner's sandbox tables and the operations of `SandboxLeases` on them. Every operation is one
SQL transaction on the store's single connection, so it is a function of the tables: an error
drops what the transaction wrote, and an answer comes with the tables it committed.

The decision time `now` of an operation is the integer `now.UnixNano()` the store compares and
stamps rows with. The instants of a document are exact, and a column holds their `unixNano`.

## Main definitions

* `Durable.HoldRow`, `Durable.LeaseRow`, `Durable.FenceRow`, `Durable.LeaseStore` — the tables.
* `Durable.hold`, `replayHeldReservation`, `commitLease`, `markLeaseRunning`,
  `beginLeaseCleanup`, `completeLeaseCleanup`, `renew`, `release`, `sweep`, `recoverCleanup` —
  the operations.
* `Durable.sandboxLeaseStage` — the receipt stage of a durable lease status.
* `Durable.LeaseOp`, `Durable.serve` — one request to the lane and its effect.

## Implementation notes

`Recover` is two transactions, `sweep` and then `recoverCleanup`; a run lists them separately, so
that other operations may come between them.

## References

* `pkg/durable/sandbox_v1.go`
-/

namespace Misscomputer.Durable

open Sandbox Protocol

/-! ## The tables -/

/-- `time.Time.UnixNano`: nanoseconds in a 64-bit integer, wrapping outside 1678..2262. -/
def unixNano (t : ℤ) : ℤ := Int.bmod t (2 ^ 64)

inductive HoldStatus
  | held | committed | released | expired
  deriving DecidableEq, Repr

inductive LeaseStatus
  | pending | running | cleanup | failed | released | expired
  deriving DecidableEq, Repr

/-- A row of `sandbox_holds`; `reservation` is the document in `reservation_json`. -/
structure HoldRow where
  holdID : String
  identity : Identity
  validatorHotkey : String
  reservationNonce : String
  reservationDigest : String
  cpuMillis : ℤ
  memoryMiB : ℤ
  diskMiB : ℤ
  holdExpiresAtNs : ℤ
  status : HoldStatus
  reservation : SandboxReservationV1
  updatedAtNs : ℤ
  deriving DecidableEq, Repr

/-- A row of `sandbox_leases`; `lease` and `renewal` are the documents in `lease_json` and
`renewal_json`. -/
structure LeaseRow where
  leaseID : String
  holdID : String
  identity : Identity
  validatorHotkey : String
  assignmentNonce : String
  leaseDigest : String
  cpuMillis : ℤ
  memoryMiB : ℤ
  diskMiB : ℤ
  leaseExpiresAtNs : ℤ
  renewalSeq : ℕ
  status : LeaseStatus
  cleanupStatus : Option LeaseStatus
  cleanupCode : Option String
  terminalCode : Option String
  lease : SandboxLeaseV1
  renewal : Option SandboxRenewalV1
  updatedAtNs : ℤ
  deriving DecidableEq, Repr

/-- A row of `sandbox_release_fences`. -/
structure FenceRow where
  identity : Identity
  validatorHotkey : String
  release : SandboxReleaseV1
  updatedAtNs : ℤ
  deriving DecidableEq, Repr

/-- The sandbox tables. -/
structure LeaseStore where
  holds : List HoldRow
  leases : List LeaseRow
  fences : List FenceRow
  deriving DecidableEq, Repr

/-- The tables as `EnableSandboxLeases` creates them. -/
def LeaseStore.empty : LeaseStore := ⟨[], [], []⟩

/-- The capacity a hold row accounts for. -/
def HoldRow.capacity (h : HoldRow) : Capacity := ⟨h.cpuMillis, h.diskMiB, h.memoryMiB, 1⟩

/-- The capacity a lease row accounts for. -/
def LeaseRow.capacity (l : LeaseRow) : Capacity := ⟨l.cpuMillis, l.diskMiB, l.memoryMiB, 1⟩

/-- `status IN ('pending','running')`. -/
def LeaseRow.live (l : LeaseRow) : Bool := l.status = .pending || l.status = .running

/-- `status IN ('pending','running','cleanup')`: the runtime of the lease may still exist. -/
def LeaseRow.occupies (l : LeaseRow) : Bool := l.live || l.status = .cleanup

/-- `status='held' AND hold_expires_at_ns > now`. -/
def HoldRow.holdsAt (now : ℤ) (h : HoldRow) : Bool := h.status = .held && now < h.holdExpiresAtNs

/-! ## Errors and answers -/

/-- Why an operation failed. -/
inductive StoreError
  /-- The document fails its shape check or has no canonical encoding. -/
  | invalid (text : String)
  /-- `ErrSandboxConflict`. -/
  | conflict
  /-- `ErrSandboxReplayAbsent`. -/
  | replayAbsent
  /-- `ErrSandboxReplayFenced`. -/
  | replayFenced
  /-- `ErrSandboxReplayNotHeld`. -/
  | replayNotHeld
  /-- `ErrSandboxOpForeign`. -/
  | opForeign
  /-- `ErrSandboxOpExpired`. -/
  | opExpired
  /-- `ErrSandboxExecTransition`. -/
  | execTransition
  /-- A refusal with a text of its own. -/
  | refused (text : String)
  /-- An error of the SQL driver or of a table constraint. -/
  | driver (text : String)
  deriving DecidableEq, Repr

/-- `SandboxOutcome`: the durable answer to one validator document. `observedAt` is `none` where
the source leaves the zero time. -/
structure SandboxOutcome where
  observedAt : Option ℤ := none
  stage : Stage
  errorCode : Option String := none
  leaseID : Option String := none
  renewalSeq : ℕ := 0
  held : Capacity := .zero
  active : Capacity := .zero
  start : Bool := false
  deriving DecidableEq, Repr

/-- `SandboxLeaseRecord`: one durable lease as its callers see it. -/
structure SandboxLeaseRecord where
  leaseID : String
  status : LeaseStatus
  cleanupStatus : Option LeaseStatus
  cleanupCode : Option String
  terminalCode : Option String
  renewalSeq : ℕ
  leaseExpiresAt : ℤ
  lease : SandboxLeaseV1
  deriving DecidableEq, Repr

def LeaseRow.record (l : LeaseRow) : SandboxLeaseRecord :=
  ⟨l.leaseID, l.status, l.cleanupStatus, l.cleanupCode, l.terminalCode, l.renewalSeq,
    l.leaseExpiresAtNs, l.lease⟩

/-! ## Steps shared by the operations -/

/-- The shape check every operation starts with. -/
def check (validated : Except String Unit) : Except StoreError Unit :=
  match validated with
  | .ok _ => .ok ()
  | .error e => .error (.invalid e)

/-- The digest of the document, computed before the transaction begins. -/
def digestOf (digest : Option String) : Except StoreError String :=
  match digest with
  | some d => .ok d
  | none => .error (.invalid "canonical json must be ascii")

/-- `database/sql` refuses an unsigned argument with the high bit set. -/
def bindUint64 (n : ℕ) : Except StoreError Unit :=
  if n < 2 ^ 63 then .ok () else .error (.driver "uint64 values with high bit set are not supported")

/-- The hold of an identity. -/
def LeaseStore.holdOf (s : LeaseStore) (id : Identity) : Option HoldRow :=
  s.holds.find? (·.identity = id)

/-- The lease of an identity. -/
def LeaseStore.leaseOf (s : LeaseStore) (id : Identity) : Option LeaseRow :=
  s.leases.find? (·.identity = id)

/-- The release fence of an identity. -/
def LeaseStore.fenceOf (s : LeaseStore) (id : Identity) : Option FenceRow :=
  s.fences.find? (·.identity = id)

/-- The lease with an ID. -/
def LeaseStore.leaseByID (s : LeaseStore) (leaseID : String) : Option LeaseRow :=
  s.leases.find? (·.leaseID = leaseID)

/-- `sandboxFencedTx`: whether the identity has a release fence; a fence by another validator is
a conflict. -/
def sandboxFencedTx (s : LeaseStore) (id : Identity) (validator : String) :
    Except StoreError Bool :=
  match s.fenceOf id with
  | none => .ok false
  | some fence => if fence.validatorHotkey ≠ validator then .error .conflict else .ok true

/-- `sandboxOccupancyTx`: the capacity held and in use at `now`. -/
def sandboxOccupancyTx (s : LeaseStore) (now : ℤ) : Capacity × Capacity :=
  (Table.sumWhere (HoldRow.holdsAt now) HoldRow.capacity s.holds,
    Table.sumWhere LeaseRow.occupies LeaseRow.capacity s.leases)

/-- `finish`: the answer carries the occupancy the transaction leaves at its decision time. -/
def finish (s : LeaseStore) (now : ℤ) (outcome : SandboxOutcome) : SandboxOutcome × LeaseStore :=
  ({ outcome with
      held := (sandboxOccupancyTx s now).1
      active := (sandboxOccupancyTx s now).2 }, s)

/-- `sandboxLeasesWhere`: the matching leases in the order of their IDs. -/
def sandboxLeasesWhere (p : LeaseRow → Bool) (s : LeaseStore) : List SandboxLeaseRecord :=
  (((s.leases.filter p).mergeSort fun a b => a.leaseID ≤ b.leaseID).map LeaseRow.record)

/-- The unique columns of `sandbox_holds`. -/
def HoldRow.clashes (a b : HoldRow) : Bool :=
  a.holdID == b.holdID || a.reservationNonce == b.reservationNonce ||
    a.reservationDigest == b.reservationDigest || a.identity == b.identity

/-- The unique columns of `sandbox_leases`. -/
def LeaseRow.clashes (a b : LeaseRow) : Bool :=
  a.leaseID == b.leaseID || a.holdID == b.holdID || a.identity == b.identity ||
    a.assignmentNonce == b.assignmentNonce || a.leaseDigest == b.leaseDigest

/-- `INSERT INTO sandbox_holds`; a constraint failure is a conflict. -/
def insertHold (s : LeaseStore) (row : HoldRow) : Except StoreError LeaseStore :=
  if s.holds.any (·.clashes row) then .error .conflict
  else .ok { s with holds := s.holds ++ [row] }

/-- `INSERT INTO sandbox_leases`; a constraint failure is a conflict. -/
def insertLease (s : LeaseStore) (row : LeaseRow) : Except StoreError LeaseStore :=
  if s.leases.any (·.clashes row) then .error .conflict
  else .ok { s with leases := s.leases ++ [row] }

/-- `UPDATE sandbox_holds SET status=…, updated_at_ns=… WHERE p`. -/
def LeaseStore.setHolds (s : LeaseStore) (p : HoldRow → Bool) (status : HoldStatus) (now : ℤ) :
    LeaseStore :=
  { s with
    holds := Table.updateWhere p (fun h => { h with status := status, updatedAtNs := now }) s.holds }

/-- `UPDATE sandbox_leases SET status='cleanup', cleanup_status=…, cleanup_code=… WHERE p`. -/
def LeaseStore.setCleanup (s : LeaseStore) (p : LeaseRow → Bool) (terminal : LeaseStatus)
    (code : Option String) (now : ℤ) : LeaseStore :=
  { s with
    leases := Table.updateWhere p (fun l =>
      { l with
        status := .cleanup
        cleanupStatus := some terminal
        cleanupCode := code
        updatedAtNs := now }) s.leases }

/-! ## Holds -/

/-- The row `Hold` inserts for a reservation. -/
def holdRow (r : SandboxReservationV1) (digest : String) (now : ℤ) : HoldRow :=
  { holdID := sandboxHoldIDV1 r
    identity := r.identity
    validatorHotkey := sandboxValidator r.subnet
    reservationNonce := r.reservationNonce
    reservationDigest := digest
    cpuMillis := r.resources.cpuMillis
    memoryMiB := r.resources.memoryMiB
    diskMiB := r.resources.diskMiB
    holdExpiresAtNs := unixNano r.holdExpiresAt
    status := .held
    reservation := r
    updatedAtNs := now }

/-- An answer `refused` with an error code. -/
def refused (code : String) : SandboxOutcome := { stage := .refused, errorCode := some code }

/-- `Hold`: checks capacity and durably holds it for one reservation. -/
def hold (w : Wire) (budget : Capacity) (s : LeaseStore) (r : SandboxReservationV1) (now : ℤ) :
    Except StoreError (SandboxOutcome × LeaseStore) := do
  check (r.validate w)
  let digest ← digestOf (w.reservationDigest r)
  bindUint64 r.generation
  let fenced ← sandboxFencedTx s r.identity (sandboxValidator r.subnet)
  if fenced then .ok (finish s now (refused "released_before_use"))
  else
    match s.holdOf r.identity with
    | some existing =>
      if existing.reservationDigest ≠ digest then .error .conflict
      else if existing.status = .committed ∨
          existing.status = .held ∧ now < existing.holdExpiresAtNs then
        .ok (finish s now { stage := .held })
      else if existing.status = .released then .ok (finish s now (refused "released_before_use"))
      else
        let s' := s.setHolds (fun h => h.holdID == sandboxHoldIDV1 r && h.status == .held)
          .expired now
        .ok (finish s' now (refused "hold_expired"))
    | none =>
      if ¬ now < r.holdExpiresAt then .ok (finish s now (refused "hold_expired"))
      else
        let occupied := sandboxOccupancyTx s now
        if ¬ ((occupied.1.plus occupied.2).add r.resources).within budget then
          .ok (finish s now (refused "capacity_exhausted"))
        else do
          let s' ← insertHold s (holdRow r digest now)
          .ok (finish s' now { stage := .held })

/-- `ReplayHeldReservation`: observes one exact uncommitted hold and writes nothing. `waited` is
the time from the call to the read of its snapshot. -/
def replayHeldReservation (w : Wire) (s : LeaseStore) (r : SandboxReservationV1) (now waited : ℤ) :
    Except StoreError (SandboxOutcome × LeaseStore) := do
  check (r.validate w)
  let digest ← digestOf (w.reservationDigest r)
  bindUint64 r.generation
  let observed := now + waited
  match s.holdOf r.identity with
  | none => .error .replayAbsent
  | some h =>
    if h.reservationDigest ≠ digest ∨ h.reservation ≠ r ∨
        h.validatorHotkey ≠ sandboxValidator r.subnet ∨ h.holdID ≠ sandboxHoldIDV1 r ∨
        h.reservationNonce ≠ r.reservationNonce ∨ h.holdExpiresAtNs ≠ unixNano r.holdExpiresAt ∨
        h.cpuMillis ≠ r.resources.cpuMillis ∨ h.memoryMiB ≠ r.resources.memoryMiB ∨
        h.diskMiB ≠ r.resources.diskMiB then .error .conflict
    else do
      let fenced ← sandboxFencedTx s r.identity h.validatorHotkey
      if fenced then .error .replayFenced
      else if s.leaseOf r.identity ≠ none ∨ h.status = .committed ∨ h.status = .released then
        .error .replayNotHeld
      else if h.status = .expired ∨ h.holdExpiresAtNs ≤ observed then
        .ok (finish s observed { refused "hold_expired" with observedAt := some observed })
      else if h.status ≠ .held then .error .replayNotHeld
      else .ok (finish s observed { stage := .held, observedAt := some observed })

/-! ## Leases -/

/-- `sandboxLeaseStage` of a status that is no longer `cleanup`. -/
def terminalStage (status : LeaseStatus) (terminalCode : Option String) : Stage × Option String :=
  match status with
  | .pending => (.accepted, none)
  | .running => (.ready, none)
  | .failed =>
    match terminalCode with
    | some code => (.failed, some code)
    | none => (.failed, some "runtime_start_failed")
  | .released => (.released, none)
  | .expired => (.expired, none)
  | .cleanup => (.failed, some "runtime_start_failed")

/-- `sandboxLeaseStage`: the receipt stage and error code that answer a lease or a renewal. A lease
in cleanup answers with its intent. -/
def sandboxLeaseStage (status : LeaseStatus) (cleanupStatus : Option LeaseStatus)
    (cleanupCode terminalCode : Option String) : Stage × Option String :=
  match status, cleanupStatus with
  | .cleanup, some intent => terminalStage intent cleanupCode
  | status, _ => terminalStage status terminalCode

/-- The stage and code of a lease row. -/
def LeaseRow.stage (l : LeaseRow) : Stage × Option String :=
  sandboxLeaseStage l.status l.cleanupStatus l.cleanupCode l.terminalCode

/-- The row `CommitLease` inserts for a lease. -/
def leaseRow (l : SandboxLeaseV1) (holdID digest : String) (now : ℤ) : LeaseRow :=
  { leaseID := sandboxLeaseIDV1 l
    holdID := holdID
    identity := l.identity
    validatorHotkey := sandboxValidator l.subnet
    assignmentNonce := l.assignmentNonce
    leaseDigest := digest
    cpuMillis := l.resources.cpuMillis
    memoryMiB := l.resources.memoryMiB
    diskMiB := l.resources.diskMiB
    leaseExpiresAtNs := unixNano l.leaseExpiresAt
    renewalSeq := 0
    status := .pending
    cleanupStatus := none
    cleanupCode := none
    terminalCode := none
    lease := l
    renewal := none
    updatedAtNs := now }

/-- `CommitLease`: converts the live hold a lease commits into a pending lease, or answers the
lease the identity already has. -/
def commitLease (w : Wire) (s : LeaseStore) (lease : SandboxLeaseV1) (now : ℤ) :
    Except StoreError (SandboxOutcome × LeaseStore) := do
  check (lease.validate w)
  let digest ← digestOf (w.leaseDigest lease)
  bindUint64 lease.generation
  let leaseID := sandboxLeaseIDV1 lease
  let failed (s : LeaseStore) (code : String) :=
    finish s now { stage := .failed, errorCode := some code, leaseID := some leaseID }
  match s.leaseOf lease.identity with
  | some existing =>
    if existing.leaseID ≠ leaseID ∨ existing.leaseDigest ≠ digest then .error .conflict
    else
      .ok (finish s now
        { stage := existing.stage.1
          errorCode := existing.stage.2
          leaseID := some leaseID
          renewalSeq := existing.renewalSeq })
  | none => do
    let fenced ← sandboxFencedTx s lease.identity (sandboxValidator lease.subnet)
    if fenced then .ok (failed s "released_before_use")
    else
      match s.holdOf lease.identity with
      | none => .ok (failed s "hold_expired")
      | some h =>
        if ¬ sandboxLeaseCommitsReservationV1 w h.reservation lease then .error .conflict
        else if h.status = .released then .ok (failed s "released_before_use")
        else if h.status = .expired then .ok (failed s "hold_expired")
        else if h.holdExpiresAtNs ≤ now then
          .ok (failed (s.setHolds (fun h' => h'.holdID == h.holdID) .expired now) "hold_expired")
        else if ¬ now < lease.leaseExpiresAt then .ok (failed s "lease_expired")
        else do
          let s₁ := s.setHolds (fun h' => h'.holdID == h.holdID && h'.status == .held)
            .committed now
          let s₂ ← insertLease s₁ (leaseRow lease h.holdID digest now)
          .ok (finish s₂ now { stage := .accepted, leaseID := some leaseID, start := true })

/-- What `MarkLeaseRunning` sets on a pending row: running, or fenced for cleanup when the lease
has expired. -/
def LeaseRow.markRunning (now : ℤ) (l : LeaseRow) : LeaseRow :=
  if now < l.leaseExpiresAtNs then { l with status := .running, updatedAtNs := now }
  else { l with status := .cleanup, cleanupStatus := some .expired, updatedAtNs := now }

/-- `MarkLeaseRunning`: promotes a live pending lease or fences an expired one; `false` means the
caller must tear the runtime down. -/
def markLeaseRunning (s : LeaseStore) (leaseID : String) (now : ℤ) : Bool × LeaseStore :=
  let p (l : LeaseRow) := l.leaseID == leaseID && l.status == .pending
  ((s.leases.find? p).any fun l => now < l.leaseExpiresAtNs,
    { s with leases := Table.updateWhere p (LeaseRow.markRunning now) s.leases })

/-- `BeginLeaseCleanup`: moves a live lease to cleanup with the terminal status it will reach. -/
def beginLeaseCleanup (s : LeaseStore) (leaseID : String) (terminal : LeaseStatus)
    (code : Option String) (now : ℤ) : Except StoreError LeaseStore := do
  match terminal with
  | .failed =>
    match code with
    | none => .error (.refused "a failed sandbox lease needs an error code")
    | some c =>
      if (receiptErrorAttribution.lookup c).isNone then
        .error (.refused "sandbox lease error code is unknown")
  | .released | .expired =>
    if code ≠ none then .error (.refused "only a failed sandbox lease carries an error code")
  | _ => .error (.refused "sandbox lease terminal status is invalid")
  .ok (s.setCleanup (fun l => l.leaseID == leaseID && l.live) terminal code now)

/-- `CompleteLeaseCleanup`: closes a lease in cleanup. A missing intent would break the `NOT NULL`
constraint of `status`. -/
def completeLeaseCleanup (s : LeaseStore) (leaseID : String) (now : ℤ) :
    Except StoreError LeaseStore :=
  let p (l : LeaseRow) := l.leaseID == leaseID && l.status == .cleanup
  if s.leases.any fun l => p l && l.cleanupStatus.isNone then
    .error (.driver "NOT NULL constraint failed: sandbox_leases.status")
  else
    .ok { s with
      leases := Table.updateWhere p (fun l =>
        { l with
          status := l.cleanupStatus.getD l.status
          terminalCode := l.cleanupCode
          updatedAtNs := now }) s.leases }

/-- `renew`, decided at `now`: applies a strictly newer renewal of a live lease. -/
def renew (w : Wire) (s : LeaseStore) (r : SandboxRenewalV1) (now : ℤ) :
    Except StoreError (SandboxOutcome × LeaseStore) := do
  check (r.validate w)
  match s.leaseByID r.leaseID with
  | none => .error (.refused ("sandbox lease " ++ r.leaseID.quote ++ " is unknown"))
  | some l =>
    if l.leaseDigest ≠ r.leaseDigest ∨ l.identity ≠ r.identity ∨
        l.validatorHotkey ≠ sandboxValidator r.subnet then .error .conflict
    else
      let answer (s : LeaseStore) (stage : Stage × Option String) (seq : ℕ) :=
        finish s now
          { stage := stage.1, errorCode := stage.2, leaseID := some r.leaseID, renewalSeq := seq }
      if r.renewalSeq = l.renewalSeq ∧ l.renewal = some r then .ok (answer s l.stage l.renewalSeq)
      else if r.renewalSeq = l.renewalSeq then .error .conflict
      else if r.renewalSeq < l.renewalSeq then
        .error (.refused "sandbox renewal_seq is not newer")
      else if ¬ l.live then .ok (answer s l.stage l.renewalSeq)
      else if l.leaseExpiresAtNs ≤ now then
        .ok (answer s (sandboxLeaseStage .expired none l.cleanupCode l.terminalCode) l.renewalSeq)
      else if unixNano r.leaseExpiresAt ≤ l.leaseExpiresAtNs then
        .error (.refused "sandbox renewal does not extend the lease")
      else do
        bindUint64 r.renewalSeq
        let s' := { s with
          leases := Table.updateWhere (fun l' => l'.leaseID == r.leaseID) (fun l' =>
            { l' with
              renewalSeq := r.renewalSeq
              leaseExpiresAtNs := unixNano r.leaseExpiresAt
              renewal := some r
              updatedAtNs := now }) s.leases }
        .ok (answer s' l.stage r.renewalSeq)

/-- Whether another validator owns the identity's row. -/
def ownedByOther (owner : Option String) (validator : String) : Bool :=
  owner.any (· ≠ validator)

/-- `Release`: fences the identity, frees a live hold and moves a live lease to cleanup. It returns
the leases whose runtime the caller must stop. -/
def release (w : Wire) (s : LeaseStore) (r : SandboxReleaseV1) (now : ℤ) :
    Except StoreError ((SandboxOutcome × List SandboxLeaseRecord) × LeaseStore) := do
  check (r.validate w)
  let validator := sandboxValidator r.subnet
  bindUint64 r.generation
  let _ ← sandboxFencedTx s r.identity validator
  if ownedByOther ((s.holdOf r.identity).map (·.validatorHotkey)) validator ∨
      ownedByOther ((s.leaseOf r.identity).map (·.validatorHotkey)) validator then
    .error .conflict
  else
    let fences := if (s.fenceOf r.identity).isSome then s.fences
      else s.fences ++ [⟨r.identity, validator, r, now⟩]
    let s₁ := { s with fences := fences }
    let s₂ := s₁.setHolds (fun h => h.identity == r.identity && h.status == .held) .released now
    let s₃ := s₂.setCleanup (fun l => l.identity == r.identity && l.live) .released none now
    let teardown := sandboxLeasesWhere (fun l => l.identity == r.identity && l.status == .cleanup) s₃
    let answer := finish s₃ now
      { stage := .released, leaseID := (s₃.leaseOf r.identity).map (·.leaseID) }
    .ok ((answer.1, teardown), answer.2)

/-- `cleanupWith`: expires unused holds, moves the matching leases to cleanup and returns every
lease in cleanup. -/
def cleanupWith (s : LeaseStore) (p : LeaseRow → Bool) (terminal : LeaseStatus)
    (code : Option String) (now : ℤ) : List SandboxLeaseRecord × LeaseStore :=
  let s₁ := s.setHolds (fun h => h.status == .held && h.holdExpiresAtNs ≤ now) .expired now
  let s₂ := s₁.setCleanup p terminal code now
  (sandboxLeasesWhere (fun l => l.status == .cleanup) s₂, s₂)

/-- `Sweep`: every lease past its expiry plus the grace goes to cleanup. -/
def sweep (s : LeaseStore) (now : ℤ) : List SandboxLeaseRecord × LeaseStore :=
  cleanupWith s (fun l => l.live && l.leaseExpiresAtNs ≤ now - grace) .expired none now

/-- The second transaction of `Recover`: every lease whose runtime may exist fails with
`miner_restart`. -/
def recoverCleanup (s : LeaseStore) (now : ℤ) : List SandboxLeaseRecord × LeaseStore :=
  cleanupWith s LeaseRow.live .failed (some "miner_restart") now

/-! ## Serving requests -/

/-- One call of a `SandboxLeases` operation, with the decision time it is given. -/
inductive LeaseOp
  | hold (r : SandboxReservationV1) (now : ℤ)
  | replayHeldReservation (r : SandboxReservationV1) (now waited : ℤ)
  | commitLease (lease : SandboxLeaseV1) (now : ℤ)
  | markLeaseRunning (leaseID : String) (now : ℤ)
  | beginLeaseCleanup (leaseID : String) (terminal : LeaseStatus) (code : Option String) (now : ℤ)
  | completeLeaseCleanup (leaseID : String) (now : ℤ)
  | renew (r : SandboxRenewalV1) (now : ℤ)
  | release (r : SandboxReleaseV1) (now : ℤ)
  | sweep (now : ℤ)
  | recoverCleanup (now : ℤ)
  deriving DecidableEq, Repr

/-- The decision time of a call. -/
def LeaseOp.now : LeaseOp → ℤ
  | .hold _ now | .replayHeldReservation _ now _ | .commitLease _ now | .markLeaseRunning _ now
  | .beginLeaseCleanup _ _ _ now | .completeLeaseCleanup _ now | .renew _ now | .release _ now
  | .sweep now | .recoverCleanup now => now

/-- What a call returns. -/
inductive LeaseAnswer
  | outcome (o : SandboxOutcome)
  | released (o : SandboxOutcome) (teardown : List SandboxLeaseRecord)
  | running (b : Bool)
  | records (rs : List SandboxLeaseRecord)
  | done
  | error (e : StoreError)
  deriving DecidableEq, Repr

/-- Commit what an operation wrote, or roll it back. -/
def settle {α : Type} (s : LeaseStore) (result : Except StoreError (α × LeaseStore))
    (answer : α → LeaseAnswer) : LeaseStore × LeaseAnswer :=
  match result with
  | .ok (a, s') => (s', answer a)
  | .error e => (s, .error e)

/-- Serve one call. -/
def serve (w : Wire) (budget : Capacity) (s : LeaseStore) : LeaseOp → LeaseStore × LeaseAnswer
  | .hold r now => settle s (hold w budget s r now) .outcome
  | .replayHeldReservation r now waited =>
    settle s (replayHeldReservation w s r now waited) .outcome
  | .commitLease lease now => settle s (commitLease w s lease now) .outcome
  | .markLeaseRunning leaseID now =>
    let a := markLeaseRunning s leaseID now
    (a.2, .running a.1)
  | .beginLeaseCleanup leaseID terminal code now =>
    settle s ((beginLeaseCleanup s leaseID terminal code now).map ((), ·)) fun _ => .done
  | .completeLeaseCleanup leaseID now =>
    settle s ((completeLeaseCleanup s leaseID now).map ((), ·)) fun _ => .done
  | .renew r now => settle s (renew w s r now) .outcome
  | .release r now => settle s (release w s r now) fun a => .released a.1 a.2
  | .sweep now =>
    let a := sweep s now
    (a.2, .records a.1)
  | .recoverCleanup now =>
    let a := recoverCleanup s now
    (a.2, .records a.1)

end Misscomputer.Durable
