import Misscomputer.Lib.Table
import Misscomputer.Lib.Machine
import Misscomputer.Lib.Except

set_option relaxedAutoImplicit false
set_option autoImplicit false

/-!
# The durable endpoints

The tables `assignments`, `endpoint_incarnations`, `endpoint_deactivation_fences` and
`static_assignments` of the miner's store, and the operations that write them. An assignment is the
exact ticket of an endpoint, an incarnation its private runtime record, and a fence the durable
decision that the endpoint is deactivated, which may come before the ticket it is about.

## Main definitions

* `Durable.AssignmentRow`, `IncarnationRow`, `DeactivationFenceRow`, `StaticRow`,
  `Durable.EndpointStore` — the tables.
* `Durable.saveAssignment`, `saveAssignmentV4`, `saveReceipt`, `saveReceiptV4`, `putEndpoint`,
  `putCleanupEndpoint`, `fenceEndpointDeactivation`, `completeEndpointDeactivation`,
  `deactivateEndpoint`, `deactivateEndpointOwned` — the operations on deployment tickets.
* `Durable.saveStaticAssignment`, `saveStaticReceipt`, `completeStaticDeactivation` — the operations
  on static tickets.
* `Durable.EndpointOp`, `Durable.serveEndpoint` — one call and its effect.

## Implementation notes

A ticket or receipt column holds the marshalled document. The store compares such a column as a
whole and decodes the few members named below, so a document is kept as these members and the text
of the others. The endpoint tables have no row deletion. `now` is the `time.Now().UTC().UnixNano()`
a call stamps its rows with. The two edge-route hooks of `FenceEndpointDeactivation` are nil in this
build.

## References

* `pkg/durable/store.go`, `pkg/durable/organic_v4.go`, `pkg/durable/static_v1.go`
* `pkg/protocol/protocol.go`, `pkg/protocol/deployment_v4.go`, `pkg/protocol/static_v1.go`
-/

namespace Misscomputer.Durable

/-! ## The documents -/

/-- `protocol.Ticket`. `subnet` is the validator hotkey of the subnet binding, `none` without one,
and `members` the text of the members the store only keeps and compares. -/
structure Ticket where
  deploymentID : String
  generation : ℕ
  minerID : String
  assignmentNonce : String
  subnet : Option String
  members : String
  deriving DecidableEq, Repr

/-- `protocol.TicketV4`; `members` also holds the workload, the resources and the health. -/
structure TicketV4 where
  deploymentID : String
  generation : ℕ
  minerID : String
  assignmentNonce : String
  subnet : Option String
  members : String
  deriving DecidableEq, Repr

/-- `protocol.StaticTicketV1`. -/
structure StaticTicketV1 where
  deploymentID : String
  generation : ℕ
  minerID : String
  assignmentNonce : String
  subnet : Option String
  members : String
  deriving DecidableEq, Repr

/-- `fmt.Sprintf("%s-g%d-%s", …)` over the replica ID `deploymentID-minerID`. -/
def endpointIDOf (deploymentID minerID : String) (generation : ℕ) (nonce : String) : String :=
  deploymentID ++ "-" ++ minerID ++ "-g" ++ toString generation ++ "-" ++ nonce

/-- `protocol.EndpointID`. -/
def Ticket.endpointID (t : Ticket) : String :=
  endpointIDOf t.deploymentID t.minerID t.generation t.assignmentNonce

/-- `protocol.EndpointIDV4`. -/
def TicketV4.endpointID (t : TicketV4) : String :=
  endpointIDOf t.deploymentID t.minerID t.generation t.assignmentNonce

/-- `protocol.StaticEndpointIDV1`. -/
def StaticTicketV1.endpointID (t : StaticTicketV1) : String :=
  endpointIDOf t.deploymentID t.minerID t.generation t.assignmentNonce

/-- `ticketValidatorHotkey`: empty without a subnet binding. -/
def Ticket.validatorHotkey (t : Ticket) : String := t.subnet.getD ""

/-- `staticValidator`. -/
def StaticTicketV1.validatorHotkey (t : StaticTicketV1) : String := t.subnet.getD ""

/-- The bytes in `ticket_json`: a marshalled ticket of either version. -/
inductive TicketJSON
  | v3 (ticket : Ticket)
  | v4 (ticket : TicketV4)
  deriving DecidableEq, Repr

/-- `json.Unmarshal` of `ticket_json` into a `protocol.Ticket`: a version 4 ticket has the identity
members under the same names. -/
def TicketJSON.unmarshal : TicketJSON → Ticket
  | .v3 t => t
  | .v4 t => ⟨t.deploymentID, t.generation, t.minerID, t.assignmentNonce, t.subnet, t.members⟩

/-- `protocol.Receipt` or `protocol.ReceiptV4`, as `receipt_json` holds it. -/
structure Receipt where
  endpointID : String
  stage : String
  members : String
  deriving DecidableEq, Repr

/-- `protocol.StaticReceiptV1`. -/
structure StaticReceiptV1 where
  endpointID : String
  stage : String
  members : String
  deriving DecidableEq, Repr

/-- `durable.Endpoint`. -/
structure Endpoint where
  endpointID : String
  deploymentID : String
  minerHotkey : String
  runtimeID : String
  runtimeURL : String
  runtimeCleanupPath : String
  runtimeCleanupRoot : String
  active : Bool
  deriving DecidableEq, Repr

/-! ## The tables -/

/-- A row of `assignments`. -/
structure AssignmentRow where
  endpointID : String
  deploymentID : String
  minerHotkey : String
  assignmentNonce : String
  generation : ℕ
  status : String
  ticketJSON : TicketJSON
  receiptJSON : Option Receipt
  updatedAtNs : ℤ
  deriving DecidableEq, Repr

/-- A row of `endpoint_incarnations`. -/
structure IncarnationRow where
  endpointID : String
  deploymentID : String
  minerHotkey : String
  runtimeID : String
  runtimeURL : String
  runtimeCleanupPath : String
  runtimeCleanupRoot : String
  active : Bool
  updatedAtNs : ℤ
  deriving DecidableEq, Repr

/-- A row of `endpoint_deactivation_fences`. -/
structure DeactivationFenceRow where
  endpointID : String
  deploymentID : String
  minerHotkey : String
  validatorHotkey : String
  updatedAtNs : ℤ
  deriving DecidableEq, Repr

/-- A row of `static_assignments`. -/
structure StaticRow where
  endpointID : String
  deploymentID : String
  minerHotkey : String
  validatorHotkey : String
  assignmentNonce : String
  generation : ℕ
  status : String
  active : Bool
  ticketJSON : StaticTicketV1
  receiptJSON : Option StaticReceiptV1
  updatedAtNs : ℤ
  deriving DecidableEq, Repr

/-- The endpoint tables. -/
structure EndpointStore where
  assignments : List AssignmentRow
  incarnations : List IncarnationRow
  fences : List DeactivationFenceRow
  statics : List StaticRow
  deriving DecidableEq, Repr

/-- The tables as the migration creates them. -/
def EndpointStore.empty : EndpointStore := ⟨[], [], [], []⟩

/-- `SELECT … FROM assignments WHERE endpoint_id=?`. -/
def EndpointStore.assignmentOf (s : EndpointStore) (endpointID : String) : Option AssignmentRow :=
  Table.rowOf AssignmentRow.endpointID s.assignments endpointID

/-- `SELECT … FROM endpoint_incarnations WHERE endpoint_id=?`. -/
def EndpointStore.incarnationOf (s : EndpointStore) (endpointID : String) : Option IncarnationRow :=
  Table.rowOf IncarnationRow.endpointID s.incarnations endpointID

/-- `SELECT … FROM endpoint_deactivation_fences WHERE endpoint_id=?`. -/
def EndpointStore.fenceOf (s : EndpointStore) (endpointID : String) : Option DeactivationFenceRow :=
  Table.rowOf DeactivationFenceRow.endpointID s.fences endpointID

/-- `SELECT … FROM static_assignments WHERE endpoint_id=?`. -/
def EndpointStore.staticOf (s : EndpointStore) (endpointID : String) : Option StaticRow :=
  Table.rowOf StaticRow.endpointID s.statics endpointID

/-- `UPDATE assignments SET f WHERE p`. -/
def EndpointStore.setAssignments (s : EndpointStore) (p : AssignmentRow → Bool)
    (f : AssignmentRow → AssignmentRow) : EndpointStore :=
  { s with assignments := Table.updateWhere p f s.assignments }

/-- `UPDATE endpoint_incarnations SET f WHERE p`. -/
def EndpointStore.setIncarnations (s : EndpointStore) (p : IncarnationRow → Bool)
    (f : IncarnationRow → IncarnationRow) : EndpointStore :=
  { s with incarnations := Table.updateWhere p f s.incarnations }

/-- `UPDATE static_assignments SET f WHERE p`. -/
def EndpointStore.setStatics (s : EndpointStore) (p : StaticRow → Bool)
    (f : StaticRow → StaticRow) : EndpointStore :=
  { s with statics := Table.updateWhere p f s.statics }

/-! ## Errors -/

/-- Why an operation failed; the argument is the endpoint ID in the text. -/
inductive EndpointError
  /-- `ErrEndpointDeactivated`: "endpoint has a durable deactivation fence". -/
  | deactivated
  /-- "endpoint ID, deployment ID, and miner hotkey are required". -/
  | endpointIdentityRequired
  /-- "cleanup endpoint requires exact owner, runtime identity, and pending state". -/
  | cleanupIdentityRequired
  /-- "cleanup endpoint path and ownership root must be paired". -/
  | cleanupPathUnpaired
  /-- "endpoint deactivation requires exact endpoint, deployment, and miner identities". -/
  | deactivationIdentityRequired
  /-- "assignment endpoint %q conflicts with another exact ticket", also of a static endpoint. -/
  | ticketConflict (endpointID : String)
  /-- "endpoint %q conflicts with another exact ticket owner". -/
  | ticketOwnerConflict (endpointID : String)
  /-- "endpoint deactivation fence %q conflicts with another exact owner". -/
  | fenceConflict (endpointID : String)
  /-- "endpoint incarnation %q conflicts with another owner", also of a cleanup endpoint. -/
  | incarnationConflict (endpointID : String)
  /-- "cleanup endpoint %q conflicts with another runtime identity", cleanup path or cleanup root. -/
  | runtimeConflict (endpointID : String)
  /-- "endpoint incarnation %q has no exact durable assignment", also of a cleanup endpoint, and
  "receipt endpoint %q has no durable assignment". -/
  | noAssignment (endpointID : String)
  /-- "endpoint %q is already a dynamic assignment". -/
  | alreadyDynamic (endpointID : String)
  /-- An error of the SQL driver or of a table constraint. -/
  | driver
  deriving DecidableEq, Repr

/-- `validateExactTicketOwner`. -/
def validateExactTicketOwner (payload : TicketJSON)
    (endpointID deploymentID minerHotkey validatorHotkey : String) : Except EndpointError Unit :=
  let ticket := payload.unmarshal
  if ticket.endpointID ≠ endpointID ∨ ticket.deploymentID ≠ deploymentID ∨
      ticket.minerID ≠ minerHotkey ∨ ticket.validatorHotkey ≠ validatorHotkey then
    .error (.ticketOwnerConflict endpointID)
  else .ok ()

/-- `endpointFencedTx`: whether the owner has fenced the endpoint; a fence by another owner is an
error. -/
def endpointFencedTx (s : EndpointStore)
    (endpointID deploymentID minerHotkey validatorHotkey : String) : Except EndpointError Bool :=
  match s.fenceOf endpointID with
  | none => .ok false
  | some fence =>
    if fence.deploymentID ≠ deploymentID ∨ fence.minerHotkey ≠ minerHotkey ∨
        fence.validatorHotkey ≠ validatorHotkey then
      .error (.fenceConflict endpointID)
    else .ok true

/-! ## Assignments and receipts -/

/-- `assignmentIdentity`. -/
structure AssignmentIdentity where
  endpointID : String
  deploymentID : String
  minerID : String
  nonce : String
  validatorHotkey : String
  generation : ℕ
  deriving DecidableEq, Repr

/-- `INSERT INTO assignments`. The endpoint ID is the primary key and the nonce is unique; the
driver refuses a generation with the high bit set. -/
def insertAssignment (s : EndpointStore) (row : AssignmentRow) : Except EndpointError EndpointStore :=
  if 2 ^ 63 ≤ row.generation then .error .driver
  else if s.assignments.any fun r =>
      r.endpointID == row.endpointID || r.assignmentNonce == row.assignmentNonce then
    .error .driver
  else .ok { s with assignments := s.assignments ++ [row] }

/-- The transaction of `saveAssignment`: what it commits, and whether the endpoint is fenced. -/
def saveAssignmentTx (s : EndpointStore) (payload : TicketJSON) (id : AssignmentIdentity)
    (status : String) (now : ℤ) : Except EndpointError (EndpointStore × Bool) := do
  let fenced ← endpointFencedTx s id.endpointID id.deploymentID id.minerID id.validatorHotkey
  match s.assignmentOf id.endpointID with
  | none => do
    let s' ← insertAssignment s
      { endpointID := id.endpointID
        deploymentID := id.deploymentID
        minerHotkey := id.minerID
        assignmentNonce := id.nonce
        generation := id.generation
        status := if fenced then "deactivated" else status
        ticketJSON := payload
        receiptJSON := none
        updatedAtNs := now }
    .ok (s', fenced)
  | some existing =>
    if existing.ticketJSON ≠ payload then .error (.ticketConflict id.endpointID)
    else if existing.status = "deactivated" ∨ fenced then
      .ok (s.setAssignments (·.endpointID = id.endpointID)
        (fun r => { r with status := "deactivated", updatedAtNs := now }), true)
    else
      .ok (s.setAssignments (·.endpointID = id.endpointID)
        (fun r => { r with status := status, updatedAtNs := now }), false)

/-- What a transaction leaves: an error drops its writes. -/
def commit (s : EndpointStore) :
    Except EndpointError EndpointStore → EndpointStore × Except EndpointError Unit
  | .ok s' => (s', .ok ())
  | .error e => (s, .error e)

/-- A transaction that commits what it wrote under a fence and still answers
`ErrEndpointDeactivated`. -/
def commitFenced (s : EndpointStore) :
    Except EndpointError (EndpointStore × Bool) → EndpointStore × Except EndpointError Unit
  | .ok (s', true) => (s', .error .deactivated)
  | .ok (s', false) => (s', .ok ())
  | .error e => (s, .error e)

/-- `SaveAssignment`. -/
def saveAssignment (s : EndpointStore) (ticket : Ticket) (status : String) (now : ℤ) :
    EndpointStore × Except EndpointError Unit :=
  commitFenced s <| saveAssignmentTx s (.v3 ticket)
    ⟨ticket.endpointID, ticket.deploymentID, ticket.minerID, ticket.assignmentNonce,
      ticket.validatorHotkey, ticket.generation⟩ status now

/-- `SaveAssignmentV4`. -/
def saveAssignmentV4 (s : EndpointStore) (ticket : TicketV4) (status : String) (now : ℤ) :
    EndpointStore × Except EndpointError Unit :=
  commitFenced s <| saveAssignmentTx s (.v4 ticket)
    ⟨ticket.endpointID, ticket.deploymentID, ticket.minerID, ticket.assignmentNonce,
      ticket.subnet.getD "", ticket.generation⟩ status now

/-- `saveReceipt`: stores the receipt and takes its stage as the status, unless the assignment is
deactivated. `SaveReceipt` and `SaveReceiptV4` call it with the marshalled receipt. -/
def saveReceipt (s : EndpointStore) (receipt : Receipt) (now : ℤ) :
    Except EndpointError EndpointStore :=
  match s.assignmentOf receipt.endpointID with
  | none => .error (.noAssignment receipt.endpointID)
  | some _ =>
    .ok (s.setAssignments (·.endpointID = receipt.endpointID) fun r =>
      { r with
        status := if r.status = "deactivated" then r.status else receipt.stage
        receiptJSON := some receipt
        updatedAtNs := now })

/-- `cachedReceipt`: the stored receipt of an active, not deactivated incarnation. -/
def cachedReceipt (s : EndpointStore) (endpointID : String) : Option Receipt := do
  let a ← s.assignmentOf endpointID
  let e ← s.incarnationOf endpointID
  if a.status ≠ "deactivated" ∧ e.active then a.receiptJSON else none

/-- `CachedResultV4`. -/
def cachedResultV4 (s : EndpointStore) (endpointID : String) : Option Receipt :=
  cachedReceipt s endpointID

/-! ## Incarnations -/

/-- The activation check of `PutEndpoint`: an active endpoint is neither fenced nor deactivated. -/
def activationCheck (s : EndpointStore) (endpoint : Endpoint) (row : AssignmentRow) :
    Except EndpointError Unit :=
  if endpoint.active then do
    let fenced ← endpointFencedTx s endpoint.endpointID endpoint.deploymentID endpoint.minerHotkey
      row.ticketJSON.unmarshal.validatorHotkey
    Except.reject (fenced = true ∨ row.status = "deactivated") .deactivated
  else .ok ()

/-- `INSERT INTO endpoint_incarnations … ON CONFLICT DO UPDATE … WHERE` the owner is the same: the
upsert refreshes the runtime columns, and no affected row is a conflict. -/
def upsertIncarnation (s : EndpointStore) (row : IncarnationRow) :
    Except EndpointError EndpointStore :=
  match s.incarnationOf row.endpointID with
  | none => .ok { s with incarnations := s.incarnations ++ [row] }
  | some existing =>
    if existing.deploymentID ≠ row.deploymentID ∨ existing.minerHotkey ≠ row.minerHotkey then
      .error (.incarnationConflict row.endpointID)
    else
      .ok (s.setIncarnations (·.endpointID = row.endpointID) fun r =>
        { r with
          runtimeID := row.runtimeID
          runtimeURL := row.runtimeURL
          runtimeCleanupPath := row.runtimeCleanupPath
          runtimeCleanupRoot := row.runtimeCleanupRoot
          active := row.active
          updatedAtNs := row.updatedAtNs })

/-- `PutEndpoint`. -/
def putEndpoint (s : EndpointStore) (endpoint : Endpoint) (now : ℤ) :
    Except EndpointError EndpointStore :=
  if endpoint.endpointID = "" ∨ endpoint.deploymentID = "" ∨ endpoint.minerHotkey = "" then
    .error .endpointIdentityRequired
  else match s.assignmentOf endpoint.endpointID with
  | none => .error (.noAssignment endpoint.endpointID)
  | some row =>
    if row.deploymentID ≠ endpoint.deploymentID ∨ row.minerHotkey ≠ endpoint.minerHotkey then
      .error (.incarnationConflict endpoint.endpointID)
    else do
      activationCheck s endpoint row
      upsertIncarnation s ⟨endpoint.endpointID, endpoint.deploymentID, endpoint.minerHotkey,
        endpoint.runtimeID, endpoint.runtimeURL, endpoint.runtimeCleanupPath,
        endpoint.runtimeCleanupRoot, endpoint.active, now⟩

/-- The write of `PutCleanupEndpoint`: a cleanup-only incarnation, or the runtime columns of a
pending one. -/
def upsertCleanup (s : EndpointStore) (endpoint : Endpoint) (now : ℤ) :
    Except EndpointError EndpointStore :=
  match s.incarnationOf endpoint.endpointID with
  | none =>
    .ok { s with incarnations := s.incarnations ++ [
      ⟨endpoint.endpointID, endpoint.deploymentID, endpoint.minerHotkey, endpoint.runtimeID, "",
        endpoint.runtimeCleanupPath, endpoint.runtimeCleanupRoot, true, now⟩] }
  | some existing =>
    if existing.deploymentID ≠ endpoint.deploymentID ∨
        existing.minerHotkey ≠ endpoint.minerHotkey then
      .error (.incarnationConflict endpoint.endpointID)
    -- completed cleanup is terminal
    else if ¬ existing.active then .ok s
    else if existing.runtimeID ≠ "" ∧ existing.runtimeID ≠ endpoint.runtimeID ∨
        existing.runtimeCleanupPath ≠ "" ∧ endpoint.runtimeCleanupPath ≠ "" ∧
          existing.runtimeCleanupPath ≠ endpoint.runtimeCleanupPath ∨
        existing.runtimeCleanupRoot ≠ "" ∧ endpoint.runtimeCleanupRoot ≠ "" ∧
          existing.runtimeCleanupRoot ≠ endpoint.runtimeCleanupRoot then
      .error (.runtimeConflict endpoint.endpointID)
    else
      .ok (s.setIncarnations (fun r => r.endpointID = endpoint.endpointID ∧ r.active = true) fun r =>
        { r with
          runtimeID := endpoint.runtimeID
          runtimeCleanupPath :=
            if endpoint.runtimeCleanupPath = "" then existing.runtimeCleanupPath
            else endpoint.runtimeCleanupPath
          runtimeCleanupRoot :=
            if endpoint.runtimeCleanupRoot = "" then existing.runtimeCleanupRoot
            else endpoint.runtimeCleanupRoot
          updatedAtNs := now })

/-- `PutCleanupEndpoint`. -/
def putCleanupEndpoint (s : EndpointStore) (endpoint : Endpoint) (now : ℤ) :
    Except EndpointError EndpointStore :=
  if endpoint.endpointID = "" ∨ endpoint.deploymentID = "" ∨ endpoint.minerHotkey = "" ∨
      endpoint.runtimeID = "" ∨ endpoint.active = false then
    .error .cleanupIdentityRequired
  else if decide (endpoint.runtimeCleanupPath = "") ≠ decide (endpoint.runtimeCleanupRoot = "") then
    .error .cleanupPathUnpaired
  else match s.assignmentOf endpoint.endpointID with
  | none => .error (.noAssignment endpoint.endpointID)
  | some row =>
    if row.deploymentID ≠ endpoint.deploymentID ∨ row.minerHotkey ≠ endpoint.minerHotkey then
      .error (.incarnationConflict endpoint.endpointID)
    else do
      validateExactTicketOwner row.ticketJSON endpoint.endpointID endpoint.deploymentID
        endpoint.minerHotkey row.ticketJSON.unmarshal.validatorHotkey
      upsertCleanup s endpoint now

/-! ## Deactivation -/

/-- `INSERT INTO endpoint_deactivation_fences … ON CONFLICT DO UPDATE … WHERE` the owner is the
same; no affected row is a conflict. -/
def upsertFence (s : EndpointStore) (row : DeactivationFenceRow) :
    Except EndpointError EndpointStore :=
  match s.fenceOf row.endpointID with
  | none => .ok { s with fences := s.fences ++ [row] }
  | some fence =>
    if fence.deploymentID = row.deploymentID ∧ fence.minerHotkey = row.minerHotkey ∧
        fence.validatorHotkey = row.validatorHotkey then
      .ok { s with
        fences := Table.updateWhere (·.endpointID = row.endpointID)
          (fun r => { r with updatedAtNs := row.updatedAtNs }) s.fences }
    else .error (.fenceConflict row.endpointID)

/-- The owner checks of `FenceEndpointDeactivation` on the stored ticket and incarnation, where
there are any. -/
def fenceOwnerCheck (s : EndpointStore)
    (endpointID deploymentID minerHotkey validatorHotkey : String) : Except EndpointError Unit := do
  (s.assignmentOf endpointID).forM fun row =>
    validateExactTicketOwner row.ticketJSON endpointID deploymentID minerHotkey validatorHotkey
  (s.incarnationOf endpointID).forM fun row =>
    Except.reject (row.deploymentID ≠ deploymentID ∨ row.minerHotkey ≠ minerHotkey)
      (.incarnationConflict endpointID)

/-- `FenceEndpointDeactivation`. -/
def fenceEndpointDeactivation (s : EndpointStore)
    (endpointID deploymentID minerHotkey validatorHotkey : String) (now : ℤ) :
    Except EndpointError EndpointStore :=
  if endpointID = "" ∨ deploymentID = "" ∨ minerHotkey = "" then
    .error .deactivationIdentityRequired
  else do
    fenceOwnerCheck s endpointID deploymentID minerHotkey validatorHotkey
    let s' ← upsertFence s ⟨endpointID, deploymentID, minerHotkey, validatorHotkey, now⟩
    .ok (s'.setAssignments
      (fun r => r.endpointID = endpointID ∧ r.deploymentID = deploymentID ∧
        r.minerHotkey = minerHotkey)
      fun r => { r with status := "deactivated", updatedAtNs := now })

/-- `CompleteEndpointDeactivation`. -/
def completeEndpointDeactivation (s : EndpointStore)
    (endpointID deploymentID minerHotkey : String) (now : ℤ) : Except EndpointError EndpointStore :=
  match s.incarnationOf endpointID with
  | none => .ok s
  | some row =>
    if row.deploymentID ≠ deploymentID ∨ row.minerHotkey ≠ minerHotkey then
      .error (.incarnationConflict endpointID)
    else
      .ok (s.setIncarnations
        (fun r => r.endpointID = endpointID ∧ r.deploymentID = deploymentID ∧
          r.minerHotkey = minerHotkey)
        fun r => { r with active := false, updatedAtNs := now })

/-- `DeactivateEndpointOwned`: two transactions, the fence and then the completion. -/
def deactivateEndpointOwned (s : EndpointStore)
    (endpointID deploymentID minerHotkey validatorHotkey : String) (now : ℤ) :
    EndpointStore × Except EndpointError Unit :=
  match fenceEndpointDeactivation s endpointID deploymentID minerHotkey validatorHotkey now with
  | .error e => (s, .error e)
  | .ok s' => commit s' (completeEndpointDeactivation s' endpointID deploymentID minerHotkey now)

/-- `DeactivateEndpoint`: the owner is the one of the stored ticket; without a ticket only the
incarnation is closed. -/
def deactivateEndpoint (s : EndpointStore) (endpointID : String) (now : ℤ) :
    EndpointStore × Except EndpointError Unit :=
  match s.assignmentOf endpointID with
  | some row =>
    let ticket := row.ticketJSON.unmarshal
    deactivateEndpointOwned s endpointID ticket.deploymentID ticket.minerID ticket.validatorHotkey now
  | none =>
    (s.setIncarnations (·.endpointID = endpointID)
      (fun r => { r with active := false, updatedAtNs := now }), .ok ())

/-! ## Static endpoints -/

/-- `INSERT INTO static_assignments`. -/
def insertStatic (s : EndpointStore) (row : StaticRow) : Except EndpointError EndpointStore :=
  if 2 ^ 63 ≤ row.generation then .error .driver
  else if s.statics.any fun r =>
      r.endpointID == row.endpointID || r.assignmentNonce == row.assignmentNonce then
    .error .driver
  else .ok { s with statics := s.statics ++ [row] }

/-- The transaction of `SaveStaticAssignment`. -/
def saveStaticAssignmentTx (s : EndpointStore) (ticket : StaticTicketV1) (status : String) (now : ℤ) :
    Except EndpointError (EndpointStore × Bool) :=
  if (s.assignmentOf ticket.endpointID).isSome then .error (.alreadyDynamic ticket.endpointID)
  else do
    let fenced ← endpointFencedTx s ticket.endpointID ticket.deploymentID ticket.minerID
      ticket.validatorHotkey
    match s.staticOf ticket.endpointID with
    | none => do
      let s' ← insertStatic s
        { endpointID := ticket.endpointID
          deploymentID := ticket.deploymentID
          minerHotkey := ticket.minerID
          validatorHotkey := ticket.validatorHotkey
          assignmentNonce := ticket.assignmentNonce
          generation := ticket.generation
          status := if fenced then "deactivated" else status
          active := false
          ticketJSON := ticket
          receiptJSON := none
          updatedAtNs := now }
      .ok (s', fenced)
    | some existing =>
      if existing.ticketJSON ≠ ticket then .error (.ticketConflict ticket.endpointID)
      else if existing.status = "deactivated" ∨ fenced then
        .ok (s.setStatics (·.endpointID = ticket.endpointID)
          (fun r => { r with status := "deactivated", active := false, updatedAtNs := now }), true)
      else
        .ok (s.setStatics (·.endpointID = ticket.endpointID)
          (fun r => { r with status := status, updatedAtNs := now }), false)

/-- `SaveStaticAssignment`. -/
def saveStaticAssignment (s : EndpointStore) (ticket : StaticTicketV1) (status : String) (now : ℤ) :
    EndpointStore × Except EndpointError Unit :=
  commitFenced s (saveStaticAssignmentTx s ticket status now)

/-- The transaction of `SaveStaticReceipt`; the flag is whether an activation was refused. -/
def saveStaticReceiptTx (s : EndpointStore) (receipt : StaticReceiptV1) (activate : Bool) (now : ℤ) :
    Except EndpointError (EndpointStore × Bool) :=
  match s.staticOf receipt.endpointID with
  | none => .error (.noAssignment receipt.endpointID)
  | some row => do
    let fenced ← endpointFencedTx s receipt.endpointID row.deploymentID row.minerHotkey
      row.validatorHotkey
    let deactivated : Bool := fenced || row.status = "deactivated"
    .ok (s.setStatics (·.endpointID = receipt.endpointID) fun r =>
      { r with
        status := if deactivated then "deactivated" else receipt.stage
        active := activate && !deactivated
        receiptJSON := some receipt
        updatedAtNs := now }, activate && deactivated)

/-- `SaveStaticReceipt`. -/
def saveStaticReceipt (s : EndpointStore) (receipt : StaticReceiptV1) (activate : Bool) (now : ℤ) :
    EndpointStore × Except EndpointError Unit :=
  commitFenced s (saveStaticReceiptTx s receipt activate now)

/-- `CompleteStaticDeactivation`. -/
def completeStaticDeactivation (s : EndpointStore) (endpointID : String) (now : ℤ) : EndpointStore :=
  s.setStatics (·.endpointID = endpointID)
    fun r => { r with status := "deactivated", active := false, updatedAtNs := now }

/-! ## Runs -/

/-- One call on the store. -/
inductive EndpointOp
  | saveAssignment (ticket : Ticket) (status : String) (now : ℤ)
  | saveAssignmentV4 (ticket : TicketV4) (status : String) (now : ℤ)
  | saveReceipt (receipt : Receipt) (now : ℤ)
  | saveReceiptV4 (receipt : Receipt) (now : ℤ)
  | putEndpoint (endpoint : Endpoint) (now : ℤ)
  | putCleanupEndpoint (endpoint : Endpoint) (now : ℤ)
  | fenceEndpointDeactivation (endpointID deploymentID minerHotkey validatorHotkey : String) (now : ℤ)
  | completeEndpointDeactivation (endpointID deploymentID minerHotkey : String) (now : ℤ)
  | deactivateEndpoint (endpointID : String) (now : ℤ)
  | deactivateEndpointOwned (endpointID deploymentID minerHotkey validatorHotkey : String) (now : ℤ)
  | saveStaticAssignment (ticket : StaticTicketV1) (status : String) (now : ℤ)
  | saveStaticReceipt (receipt : StaticReceiptV1) (activate : Bool) (now : ℤ)
  | completeStaticDeactivation (endpointID : String) (now : ℤ)
  deriving DecidableEq, Repr

/-- One call: the tables it leaves and its answer. -/
def serveEndpoint (s : EndpointStore) : EndpointOp → EndpointStore × Except EndpointError Unit
  | .saveAssignment ticket status now => saveAssignment s ticket status now
  | .saveAssignmentV4 ticket status now => saveAssignmentV4 s ticket status now
  | .saveReceipt receipt now => commit s (saveReceipt s receipt now)
  | .saveReceiptV4 receipt now => commit s (saveReceipt s receipt now)
  | .putEndpoint endpoint now => commit s (putEndpoint s endpoint now)
  | .putCleanupEndpoint endpoint now => commit s (putCleanupEndpoint s endpoint now)
  | .fenceEndpointDeactivation e d m v now => commit s (fenceEndpointDeactivation s e d m v now)
  | .completeEndpointDeactivation e d m now => commit s (completeEndpointDeactivation s e d m now)
  | .deactivateEndpoint e now => deactivateEndpoint s e now
  | .deactivateEndpointOwned e d m v now => deactivateEndpointOwned s e d m v now
  | .saveStaticAssignment ticket status now => saveStaticAssignment s ticket status now
  | .saveStaticReceipt receipt activate now => saveStaticReceipt s receipt activate now
  | .completeStaticDeactivation e now => (completeStaticDeactivation s e now, .ok ())

end Misscomputer.Durable
