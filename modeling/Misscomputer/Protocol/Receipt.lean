import Misscomputer.Protocol.Documents
import Misscomputer.Lib.Except

set_option relaxedAutoImplicit false
set_option autoImplicit false

/-!
# The sandbox-lease-v1 receipt

The miner-signed answer to a reservation, a lease, a renewal or a release, with the check it must
pass before it is signed. A receipt reports the capacity its miner has in total, holds and has in use;
a receipt whose parts exceed the total is not signed.

## Main definitions

* `Protocol.Document` — the validator documents that receipts answer.
* `Protocol.SandboxReceiptV1`, `Protocol.SandboxReceiptV1.validateUnsigned` — the receipt and its check.

## References

* `pkg/protocol/sandbox_v1.go`
-/

namespace Misscomputer.Protocol

open Sandbox Except

/-- A validator document of the lease lane. -/
inductive Document
  | reservation (r : SandboxReservationV1)
  | lease (l : SandboxLeaseV1)
  | renewal (r : SandboxRenewalV1)
  | release (r : SandboxReleaseV1)
  deriving DecidableEq, Repr

/-- What a receipt repeats of the document it answers. -/
def Document.identity : Document → Identity
  | .reservation r => r.identity
  | .lease l => l.identity
  | .renewal r => r.identity
  | .release r => r.identity

def Document.subnet : Document → Option StaticSubnetBindingV1
  | .reservation r => r.subnet
  | .lease l => l.subnet
  | .renewal r => r.subnet
  | .release r => r.subnet

def Document.schema : Document → String
  | .reservation _ => sandboxReservationSchema
  | .lease _ => sandboxLeaseSchema
  | .renewal _ => sandboxRenewalSchema
  | .release _ => sandboxReleaseSchema

/-- `SandboxReceiptV1`: the miner's answer to one document. -/
structure SandboxReceiptV1 where
  capacityActive : Capacity
  capacityHeld : Capacity
  capacityTotal : Capacity
  documentDigest : String
  documentSchema : String
  errorCode : Option String
  generation : ℕ
  leaseID : Option String
  minerID : String
  observedAt : ℤ
  renewalSeq : ℕ
  sandboxID : String
  schema : String
  schemaVersion : ℤ
  signature : String
  stage : Stage
  subnet : Option StaticSubnetBindingV1
  deriving DecidableEq, Repr

def sandboxReceiptSchema : String := schemaPrefix ++ "sandbox-lease-receipt"

/-- `sandboxReceiptStages`: the stages that may answer each document. -/
def sandboxReceiptStages (schema : String) : List Stage :=
  if schema = sandboxReservationSchema then [.held, .refused]
  else if schema = sandboxLeaseSchema ∨ schema = sandboxRenewalSchema then
    [.accepted, .ready, .failed, .released, .expired]
  else if schema = sandboxReleaseSchema then [.released]
  else []

/-- The lease a receipt names, by the document it answers. -/
def SandboxReceiptV1.leaseCheck (r : SandboxReceiptV1) : Except String Unit :=
  if r.documentSchema = sandboxReservationSchema then
    reject (r.leaseID ≠ none ∨ r.renewalSeq ≠ 0) "reservation receipt names a lease"
  else if r.documentSchema = sandboxLeaseSchema ∨ r.documentSchema = sandboxRenewalSchema then
    reject (r.leaseID = none) "lease receipt must name its lease"
  else .ok ()

/-- What the receipt holds and has in use fits its total, together and apart. -/
def SandboxReceiptV1.fits (r : SandboxReceiptV1) : Bool :=
  (r.capacityHeld.plus r.capacityActive).within r.capacityTotal &&
    r.capacityHeld.within r.capacityTotal && r.capacityActive.within r.capacityTotal

/-- `SandboxReceiptV1.validateUnsigned`. -/
def SandboxReceiptV1.validateUnsigned (w : Wire) (r : SandboxReceiptV1) : Except String Unit := do
  reject (r.schema ≠ sandboxReceiptSchema ∨ r.schemaVersion ≠ 1) "sandbox receipt schema is invalid"
  reject (¬ validSandboxIdentity r.sandboxID r.minerID r.generation ∨ ¬ validDigest r.documentDigest)
    "sandbox receipt identity is invalid"
  reject (r.stage ∉ sandboxReceiptStages r.documentSchema)
    "receipt stage does not answer document_schema"
  reject ((r.stage = .refused ∨ r.stage = .failed) ≠ (r.errorCode ≠ none)) "receipt_error_code_invalid"
  reject (r.errorCode.any fun code => (receiptErrorAttribution.lookup code).isNone)
    "receipt error_code is unknown"
  r.leaseCheck
  reject (r.leaseID.any fun id =>
      !hexAfter (sandboxIdentity r.sandboxID r.minerID r.generation "") id 32)
    "receipt lease_id does not name the sandbox"
  reject (¬ r.fits) "receipt_capacity_invalid"
  validateSandboxBinding w r.subnet r.minerID

/-- A receipt that passes the other checks is rejected for its capacity. -/
lemma SandboxReceiptV1.validateUnsigned_capacity {w : Wire} {r : SandboxReceiptV1} {leaseID : String}
    (hschema : r.schema = sandboxReceiptSchema) (hversion : r.schemaVersion = 1)
    (hid : validSandboxIdentity r.sandboxID r.minerID r.generation = true)
    (hdigest : validDigest r.documentDigest = true)
    (hstage : r.stage ∈ sandboxReceiptStages r.documentSchema)
    (hcode : r.errorCode = none ∧ r.stage ≠ .refused ∧ r.stage ≠ .failed)
    (hlease : r.leaseID = some leaseID) (hdoc : r.documentSchema = sandboxLeaseSchema)
    (hname : hexAfter (sandboxIdentity r.sandboxID r.minerID r.generation "") leaseID 32 = true)
    (hfits : r.fits = false) : r.validateUnsigned w = .error "receipt_capacity_invalid" := by
  obtain ⟨hnone, hrefused, hfailed⟩ := hcode
  have hne : sandboxLeaseSchema ≠ sandboxReservationSchema := by decide
  have hcheck : r.leaseCheck = .ok () := by
    simp [SandboxReceiptV1.leaseCheck, hdoc, hne, hlease, reject]
  simp [SandboxReceiptV1.validateUnsigned, hcheck, hschema, hversion, hid, hdigest, hstage, hnone,
    hrefused, hfailed, hlease, hname, hfits, reject, bind, Except.bind]

end Misscomputer.Protocol
