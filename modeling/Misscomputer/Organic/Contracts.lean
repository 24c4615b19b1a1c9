import Mathlib.Algebra.Order.Ring.Int
import Mathlib.Data.List.Infix
import Mathlib.Data.Prod.Lex
import Mathlib.Data.String.Basic
import Misscomputer.Contract.Codec
import Misscomputer.Contract.Timestamp

set_option relaxedAutoImplicit false
set_option autoImplicit false

/-!
# The contracts of organic probing

The public manifest of active assignments, the miner's probe attestation, and what each has to satisfy to
be a value of its contract: the checks of the fields and of the whole document, its digests among them.

## Main definitions

* `Organic.ActiveAssignmentManifestV2` — deployments, their health predicate and their replicas.
* `Organic.MinerProbeAttestationV2` — what a miner's service key signs.
* `Organic.ActiveAssignmentManifestV2.Valid`, … — the values of a contract.
* `Organic.findReplica` — the deployment and the replica that publish an endpoint.
* `Organic.manifestValidAt` — the horizon of a manifest.

## Implementation notes

The members of a document that can hold one value only (`schema`, `network`, …) are no fields of the model;
they stand in the rendering, which the digest covers. Sealed values are frozen and their contracts are
checked again wherever they are used, so `Valid` is a predicate and every use checks it.

## References

* `src/misscomputer_subnet/organic_contracts.py`
* `src/misscomputer_subnet/organic_manifest.py` (`organic_manifest_valid_at`)
* `src/misscomputer_subnet/organic_probe.py` (`find_replica`)
-/

namespace Misscomputer

namespace Organic

open Contract
open StaticIndex (Method)

/-! ## Attestations -/

/-- `MinerProbeAttestationV2`. -/
structure MinerProbeAttestationV2 where
  endpointID : String
  generation : ℤ
  ticketDigest : String
  artifactDigest : String
  validatorHotkey : String
  probeNonce : String
  requestMethod : Method
  requestPath : String
  responseStatus : ℤ
  responseBodySha256 : String
  responseHeaderSha256 : String
  observedAt : String
  signatureHex : String
deriving DecidableEq

namespace MinerProbeAttestationV2

/-- The members that are signed. -/
def signedMembers (a : MinerProbeAttestationV2) : List (String × Json) :=
  [("endpoint_id", text a.endpointID), ("generation", .num a.generation),
    ("ticket_digest", text a.ticketDigest), ("artifact_digest", text a.artifactDigest),
    ("validator_hotkey", text a.validatorHotkey), ("probe_nonce", text a.probeNonce),
    ("request_method", text a.requestMethod.text), ("request_path", text a.requestPath),
    ("response_status", .num a.responseStatus), ("response_body_sha256", text a.responseBodySha256),
    ("response_header_sha256", text a.responseHeaderSha256), ("observed_at", text a.observedAt)]

/-- `model_document` of an attestation. -/
def toJson (a : MinerProbeAttestationV2) : Json :=
  document ([("schema", text "miss.computer/misscomputer-subnet/miner-probe-attestation"),
    ("schema_version", .num 2)] ++ a.signedMembers ++ [("signature_hex", text a.signatureHex)])

/-- `miner_probe_attestation_v2_message`. -/
def message (a : MinerProbeAttestationV2) : List UInt8 :=
  Text.bytes "miss.computer/misscomputer-subnet/miner-probe-attestation/v2".toList ++ [0] ++
    canonicalJson (document a.signedMembers)

/-- `f"-g{generation}-" in endpoint_id`. -/
def namesGeneration (generation : ℤ) (endpointID : String) : Bool :=
  decide (("-g".toList ++ Static.decimal generation ++ ['-']) <:+: endpointID.toList)

/-- The values of the contract. -/
def Valid (a : MinerProbeAttestationV2) : Prop :=
  Contract.endpointID a.endpointID ∧ positiveCount a.generation ∧ sha256Digest a.ticketDigest ∧
    sha256Digest a.artifactDigest ∧ hotkey a.validatorHotkey ∧ hex64 a.probeNonce ∧
    healthPath a.requestPath ∧ status a.responseStatus ∧ hex64 a.responseBodySha256 ∧
    hex64 a.responseHeaderSha256 ∧ utcTimestamp a.observedAt ∧ hexSignature a.signatureHex ∧
    namesGeneration a.generation a.endpointID

instance (a : MinerProbeAttestationV2) : Decidable a.Valid := by
  unfold Valid
  infer_instance

end MinerProbeAttestationV2

/-! ## Assignments -/

/-- `OrganicHealthProbe`. -/
structure OrganicHealthProbe where
  method : Method
  path : String
  expectedStatuses : List ℤ
  responseMarker : Option String
deriving DecidableEq

namespace OrganicHealthProbe

/-- `model_document` of a health predicate. -/
def toJson (h : OrganicHealthProbe) : Json :=
  document [("method", text h.method.text), ("path", text h.path),
    ("expected_statuses", .arr (h.expectedStatuses.map .num)),
    ("response_marker", optional text h.responseMarker)]

/-- `ResponseMarker`. -/
def marker (s : String) : Bool :=
  1 ≤ s.toList.length && s.toList.length ≤ 256 && s.toList.all fun c => '\x20' ≤ c && c ≤ '\x7e'

/-- The values of the contract. -/
def Valid (h : OrganicHealthProbe) : Prop :=
  healthPath h.path ∧ 1 ≤ h.expectedStatuses.length ∧ h.expectedStatuses.length ≤ 8 ∧
    (∀ s ∈ h.expectedStatuses, status s) ∧ ∀ s ∈ h.responseMarker, marker s

instance (h : OrganicHealthProbe) : Decidable h.Valid := by
  unfold Valid
  infer_instance

end OrganicHealthProbe

/-- `OrganicAssignedReplica`. -/
structure OrganicAssignedReplica where
  minerUID : ℤ
  minerHotkey : String
  minerServicePublicKey : String
  minerTLSCertificateSha256 : String
  generation : ℤ
  assignmentNonce : String
  replicaID : String
  endpointID : String
  ticketDigest : String
  receiptDigest : String
  chainBlock : ℤ
  expiresAtBlock : ℤ
  activatedAtEpoch : ℤ
  expiresAtEpoch : ℤ
deriving DecidableEq

namespace OrganicAssignedReplica

/-- `model_document` of a replica. -/
def toJson (r : OrganicAssignedReplica) : Json :=
  document [("miner_uid", .num r.minerUID), ("miner_hotkey", text r.minerHotkey),
    ("miner_service_public_key", text r.minerServicePublicKey),
    ("miner_tls_certificate_sha256", text r.minerTLSCertificateSha256),
    ("generation", .num r.generation), ("assignment_nonce", text r.assignmentNonce),
    ("replica_id", text r.replicaID), ("endpoint_id", text r.endpointID),
    ("ticket_digest", text r.ticketDigest), ("receipt_digest", text r.receiptDigest),
    ("chain_block", .num r.chainBlock), ("expires_at_block", .num r.expiresAtBlock),
    ("activated_at_epoch", .num r.activatedAtEpoch), ("expires_at_epoch", .num r.expiresAtEpoch),
    ("route_state", text "active")]

/-- The values of the contract. -/
def Valid (r : OrganicAssignedReplica) : Prop :=
  uid r.minerUID ∧ hotkey r.minerHotkey ∧ hex64 r.minerServicePublicKey ∧
    hex64 r.minerTLSCertificateSha256 ∧ positiveCount r.generation ∧
    Protocol.lowercaseHex r.assignmentNonce 32 ∧
    (3 ≤ r.replicaID.toList.length ∧ r.replicaID.toList.length ≤ 256) ∧ Contract.endpointID r.endpointID ∧
    sha256Digest r.ticketDigest ∧ sha256Digest r.receiptDigest ∧ count r.chainBlock ∧
    positiveCount r.expiresAtBlock ∧ count r.activatedAtEpoch ∧ positiveCount r.expiresAtEpoch ∧
    r.chainBlock < r.expiresAtBlock ∧ r.activatedAtEpoch < r.expiresAtEpoch ∧
    r.ticketDigest ≠ r.receiptDigest

instance (r : OrganicAssignedReplica) : Decidable r.Valid := by
  unfold Valid
  infer_instance

end OrganicAssignedReplica

/-- `OrganicDeploymentAssignment`. -/
structure OrganicDeploymentAssignment where
  deploymentID : String
  routeHost : String
  artifactDigest : String
  health : OrganicHealthProbe
  replicas : List OrganicAssignedReplica
  assignmentDigestSha256 : String
deriving DecidableEq

namespace OrganicDeploymentAssignment

/-- The members the digest covers. -/
def members (d : OrganicDeploymentAssignment) : List (String × Json) :=
  [("deployment_id", text d.deploymentID), ("route_host", text d.routeHost),
    ("artifact_digest", text d.artifactDigest), ("health", d.health.toJson),
    ("attestation_requirement", text "miner_service_key_v2"),
    ("replicas", .arr (d.replicas.map OrganicAssignedReplica.toJson))]

/-- The assignment with its digest. -/
def sealed (d : OrganicDeploymentAssignment) : OrganicDeploymentAssignment :=
  { d with assignmentDigestSha256 := digest (document d.members) }

lemma digest_sealed (d : OrganicDeploymentAssignment) :
    d.sealed.assignmentDigestSha256 = digest (document d.sealed.members) := rfl

/-- `model_document` of an assignment. -/
def toJson (d : OrganicDeploymentAssignment) : Json :=
  document (d.members ++ [("assignment_digest_sha256", text d.assignmentDigestSha256)])

/-- `replica_id` of a replica of the deployment. -/
def replicaID (deploymentID : String) (r : OrganicAssignedReplica) : String :=
  deploymentID ++ "-" ++ r.minerHotkey

/-- `endpoint_id` of a replica of the deployment. -/
def endpointID (deploymentID : String) (r : OrganicAssignedReplica) : String :=
  replicaID deploymentID r ++ "-g" ++ String.ofList (Static.decimal r.generation) ++ "-" ++
    r.assignmentNonce

/-- `Hostname`: labels joined by dots, two at least. -/
def hostname (s : String) : Bool :=
  s.toList.length ≤ 253 && 2 ≤ (s.toList.splitOn '.').length &&
    (s.toList.splitOn '.').all fun label => dnsLabel (String.ofList label)

/-- The values of the contract. -/
def Valid (d : OrganicDeploymentAssignment) : Prop :=
  routeLabel d.deploymentID ∧ hostname d.routeHost ∧ sha256Digest d.artifactDigest ∧ d.health.Valid ∧
    1 ≤ d.replicas.length ∧ d.replicas.length ≤ 8 ∧ (∀ r ∈ d.replicas, r.Valid) ∧
    hex64 d.assignmentDigestSha256 ∧
    (d.replicas.map fun r => toLex (r.minerUID, r.minerHotkey)) =
      Sorting.sortedSet (d.replicas.map fun r => toLex (r.minerUID, r.minerHotkey)) ∧
    (∀ r ∈ d.replicas, r.replicaID = replicaID d.deploymentID r ∧
      r.endpointID = endpointID d.deploymentID r) ∧
    d.assignmentDigestSha256 = digest (document d.members)

instance (d : OrganicDeploymentAssignment) : Decidable d.Valid := by
  unfold Valid
  infer_instance

end OrganicDeploymentAssignment

/-! ## Manifests -/

/-- `ActiveAssignmentManifestV2`. -/
structure ActiveAssignmentManifestV2 where
  centralAuthorityFingerprintSha256 : String
  trustPolicyDigestSha256 : String
  finalizedHeight : ℤ
  finalizedBlockHash : String
  finalizedEpoch : ℤ
  sequence : ℤ
  previousManifestDigestSha256 : Option String
  issuedAtEpoch : ℤ
  expiresAtEpoch : ℤ
  routeHostSuffix : String
  probePort : ℤ
  deployments : List OrganicDeploymentAssignment
  assignmentVectorDigestSha256 : String
  manifestDigestSha256 : String
deriving DecidableEq

namespace ActiveAssignmentManifestV2

/-- The members the digest covers. -/
def members (m : ActiveAssignmentManifestV2) : List (String × Json) :=
  [("schema", text "miss.computer/misscomputer-subnet/active-assignment-manifest"),
    ("schema_version", .num 2), ("purpose", text "active_assignment_manifest_publication_v2"),
    ("network", text "finney"), ("netuid", .num 24),
    ("central_authority_fingerprint_sha256", text m.centralAuthorityFingerprintSha256),
    ("trust_policy_digest_sha256", text m.trustPolicyDigestSha256),
    ("finalized_height", .num m.finalizedHeight), ("finalized_block_hash", text m.finalizedBlockHash),
    ("finalized_epoch", .num m.finalizedEpoch), ("sequence", .num m.sequence),
    ("previous_manifest_digest_sha256", optional text m.previousManifestDigestSha256),
    ("issued_at_epoch", .num m.issuedAtEpoch), ("expires_at_epoch", .num m.expiresAtEpoch),
    ("route_host_suffix", text m.routeHostSuffix), ("probe_scheme", text "https"),
    ("probe_port", .num m.probePort),
    ("deployments", .arr (m.deployments.map OrganicDeploymentAssignment.toJson)),
    ("assignment_vector_digest_sha256", text m.assignmentVectorDigestSha256)]

/-- The manifest with its digest. -/
def sealed (m : ActiveAssignmentManifestV2) : ActiveAssignmentManifestV2 :=
  { m with manifestDigestSha256 := digest (document m.members) }

lemma digest_sealed (m : ActiveAssignmentManifestV2) :
    m.sealed.manifestDigestSha256 = digest (document m.sealed.members) := rfl

/-- The replicas of a manifest, in its order. -/
def replicas (m : ActiveAssignmentManifestV2) : List OrganicAssignedReplica :=
  m.deployments.flatMap OrganicDeploymentAssignment.replicas

/-- The values of the contract. -/
def Valid (m : ActiveAssignmentManifestV2) : Prop :=
  hex64 m.centralAuthorityFingerprintSha256 ∧ hex64 m.trustPolicyDigestSha256 ∧
    count m.finalizedHeight ∧ hex64 m.finalizedBlockHash ∧ count m.finalizedEpoch ∧
    positiveCount m.sequence ∧ (∀ previous ∈ m.previousManifestDigestSha256, hex64 previous) ∧
    count m.issuedAtEpoch ∧ positiveCount m.expiresAtEpoch ∧
    OrganicDeploymentAssignment.hostname m.routeHostSuffix ∧
    (1 ≤ m.probePort ∧ m.probePort ≤ 65535) ∧ m.deployments.length ≤ 4096 ∧
    (∀ d ∈ m.deployments, d.Valid) ∧ hex64 m.assignmentVectorDigestSha256 ∧
    hex64 m.manifestDigestSha256 ∧ m.issuedAtEpoch < m.expiresAtEpoch ∧
    (m.sequence = 1 ↔ m.previousManifestDigestSha256 = none) ∧
    m.deployments.map OrganicDeploymentAssignment.deploymentID =
      Sorting.sortedSet (m.deployments.map OrganicDeploymentAssignment.deploymentID) ∧
    (∀ d ∈ m.deployments, d.routeHost = d.deploymentID ++ "." ++ m.routeHostSuffix ∧
      ∀ r ∈ d.replicas, m.finalizedHeight < r.expiresAtBlock ∧ m.issuedAtEpoch < r.expiresAtEpoch) ∧
    (m.replicas.map OrganicAssignedReplica.endpointID).Nodup ∧
    m.assignmentVectorDigestSha256 =
      digest (.arr (m.deployments.map OrganicDeploymentAssignment.toJson)) ∧
    m.manifestDigestSha256 = digest (document m.members)

instance (m : ActiveAssignmentManifestV2) : Decidable m.Valid := by
  unfold Valid
  infer_instance

/-- `organic_manifest_effective_expires_at_epoch`. -/
def effectiveExpiresAtEpoch (m : ActiveAssignmentManifestV2) : ℤ :=
  (m.replicas.map OrganicAssignedReplica.expiresAtEpoch).foldl min m.expiresAtEpoch

end ActiveAssignmentManifestV2

/-- `organic_manifest_valid_at`. -/
def manifestValidAt (m : ActiveAssignmentManifestV2) (instantEpoch : ℤ) : Prop :=
  m.issuedAtEpoch ≤ instantEpoch ∧ instantEpoch < m.effectiveExpiresAtEpoch

instance (m : ActiveAssignmentManifestV2) (instantEpoch : ℤ) : Decidable (manifestValidAt m instantEpoch) :=
  inferInstanceAs (Decidable (_ ∧ _))

/-- `find_replica`: `none` where the source raises. -/
def findReplica (m : ActiveAssignmentManifestV2) (endpointID : String) :
    Option (OrganicDeploymentAssignment × OrganicAssignedReplica) :=
  m.deployments.findSome? fun d =>
    (d.replicas.find? fun r => r.endpointID = endpointID).map fun r => (d, r)

end Organic

end Misscomputer
