import Misscomputer.Organic.Contracts
import Misscomputer.Static.EpochScore

set_option relaxedAutoImplicit false
set_option autoImplicit false

/-!
# Version 3 of the manifest of active assignments

The snapshot of active routes that lists static sites beside OCI images. It keeps the header and the
publication rules of version 2, and every deployment names its workload.

## Main definitions

* `Manifest.Workload` — what a deployment of a version 3 manifest runs.
* `Manifest.DeploymentAssignmentV3` — a deployment and its replicas.
* `Manifest.ActiveAssignmentManifestV3` — the snapshot.
* `Manifest.ActiveAssignmentManifestV3.Valid` — the values of the contract.

## Implementation notes

The two classes of the source share all members but those of the workload, which are null in a deployment of
the other kind. They are one structure here, and the nulls stand in the rendering.

## References

* `src/misscomputer_subnet/organic_contracts.py` (`ActiveAssignmentManifestV3`, `DeploymentAssignmentV3`)
-/

namespace Misscomputer

namespace Manifest

open Contract
open Organic (OrganicAssignedReplica OrganicDeploymentAssignment OrganicHealthProbe)
open StaticScoring (Network)

/-! ## Deployments -/

/-- What tells `OciDeploymentAssignmentV3` from `StaticDeploymentAssignmentV3`. -/
inductive Workload
  | oci (artifactDigest : String) (health : OrganicHealthProbe)
  | staticSite (siteDigest releaseDigest serverImplementationDigest : String)
deriving DecidableEq

namespace Workload

/-- The members of a workload. -/
def members : Workload → List (String × Json)
  | oci artifactDigest health =>
    [("workload_kind", text "oci-image-v1"), ("artifact_digest", text artifactDigest),
      ("health", health.toJson), ("site_digest", .null), ("release_digest", .null),
      ("server_implementation_digest", .null)]
  | staticSite siteDigest releaseDigest serverImplementationDigest =>
    [("workload_kind", text "static-site-v1"), ("artifact_digest", .null), ("health", .null),
      ("site_digest", text siteDigest), ("release_digest", text releaseDigest),
      ("server_implementation_digest", text serverImplementationDigest)]

/-- The values of the contract. -/
def Valid : Workload → Prop
  | oci artifactDigest health => sha256Digest artifactDigest ∧ health.Valid
  | staticSite siteDigest releaseDigest serverImplementationDigest =>
    sha256Digest siteDigest ∧ sha256Digest releaseDigest ∧ sha256Digest serverImplementationDigest

instance : (w : Workload) → Decidable w.Valid
  | oci _ _ => inferInstanceAs (Decidable (_ ∧ _))
  | staticSite _ _ _ => inferInstanceAs (Decidable (_ ∧ _ ∧ _))

end Workload

/-- `DeploymentAssignmentV3`. -/
structure DeploymentAssignmentV3 where
  deploymentID : String
  routeHost : String
  workload : Workload
  replicas : List OrganicAssignedReplica
  assignmentDigestSha256 : String
deriving DecidableEq

/-- `_check_assignment_replicas`: the replicas are listed in order, and named after the deployment. -/
def checkAssignmentReplicas (deploymentID : String) (replicas : List OrganicAssignedReplica) : Prop :=
  (replicas.map fun r => toLex (r.minerUID, r.minerHotkey)) =
      Sorting.sortedSet (replicas.map fun r => toLex (r.minerUID, r.minerHotkey)) ∧
    ∀ r ∈ replicas, r.replicaID = OrganicDeploymentAssignment.replicaID deploymentID r ∧
      r.endpointID = OrganicDeploymentAssignment.endpointID deploymentID r

instance (deploymentID : String) (replicas : List OrganicAssignedReplica) :
    Decidable (checkAssignmentReplicas deploymentID replicas) :=
  inferInstanceAs (Decidable (_ ∧ _))

namespace DeploymentAssignmentV3

/-- The members the digest covers. -/
def members (d : DeploymentAssignmentV3) : List (String × Json) :=
  [("deployment_id", text d.deploymentID), ("route_host", text d.routeHost),
    ("attestation_requirement", text "miner_service_key_v2"),
    ("replicas", .arr (d.replicas.map OrganicAssignedReplica.toJson))] ++ d.workload.members

/-- `model_document` of an assignment. -/
def toJson (d : DeploymentAssignmentV3) : Json :=
  document (d.members ++ [("assignment_digest_sha256", text d.assignmentDigestSha256)])

/-- The values of the contract. -/
def Valid (d : DeploymentAssignmentV3) : Prop :=
  routeLabel d.deploymentID ∧ OrganicDeploymentAssignment.hostname d.routeHost ∧ d.workload.Valid ∧
    1 ≤ d.replicas.length ∧ d.replicas.length ≤ 8 ∧ (∀ r ∈ d.replicas, r.Valid) ∧
    hex64 d.assignmentDigestSha256 ∧ checkAssignmentReplicas d.deploymentID d.replicas ∧
    d.assignmentDigestSha256 = digest (document d.members)

instance (d : DeploymentAssignmentV3) : Decidable d.Valid := by
  unfold Valid
  infer_instance

end DeploymentAssignmentV3

/-! ## Manifests -/

/-- `ActiveAssignmentManifestV3`. -/
structure ActiveAssignmentManifestV3 where
  network : Network
  netuid : ℤ
  centralAuthorityFingerprintSha256 : String
  trustPolicyDigestSha256 : String
  finalizedHeight : ℤ
  finalizedBlockHash : String
  finalizedEpoch : ℤ
  sequence : ℤ
  previousManifestDigestSha256 : Option String
  issuedAtEpoch : ℤ
  expiresAtEpoch : ℤ
  routeHostSuffix : String
  probePort : ℤ
  deployments : List DeploymentAssignmentV3
  assignmentVectorDigestSha256 : String
  manifestDigestSha256 : String
deriving DecidableEq

namespace ActiveAssignmentManifestV3

/-- The members the digest covers. -/
def members (m : ActiveAssignmentManifestV3) : List (String × Json) :=
  [("schema", text "miss.computer/misscomputer-subnet/active-assignment-manifest"),
    ("schema_version", .num 3), ("purpose", text "active_assignment_manifest_publication_v3"),
    ("network", text m.network.text), ("netuid", .num m.netuid),
    ("central_authority_fingerprint_sha256", text m.centralAuthorityFingerprintSha256),
    ("trust_policy_digest_sha256", text m.trustPolicyDigestSha256),
    ("finalized_height", .num m.finalizedHeight), ("finalized_block_hash", text m.finalizedBlockHash),
    ("finalized_epoch", .num m.finalizedEpoch), ("sequence", .num m.sequence),
    ("previous_manifest_digest_sha256", optional text m.previousManifestDigestSha256),
    ("issued_at_epoch", .num m.issuedAtEpoch), ("expires_at_epoch", .num m.expiresAtEpoch),
    ("route_host_suffix", text m.routeHostSuffix), ("probe_scheme", text "https"),
    ("probe_port", .num m.probePort),
    ("deployments", .arr (m.deployments.map DeploymentAssignmentV3.toJson)),
    ("assignment_vector_digest_sha256", text m.assignmentVectorDigestSha256)]

/-- `model_document` of a manifest. -/
def toJson (m : ActiveAssignmentManifestV3) : Json :=
  document (m.members ++ [("manifest_digest_sha256", text m.manifestDigestSha256)])

/-- The replicas of a manifest, in its order. -/
def replicas (m : ActiveAssignmentManifestV3) : List OrganicAssignedReplica :=
  m.deployments.flatMap DeploymentAssignmentV3.replicas

/-- The values of the contract. -/
def Valid (m : ActiveAssignmentManifestV3) : Prop :=
  (m.network, m.netuid) ∈ StaticScoring.networks ∧
    hex64 m.centralAuthorityFingerprintSha256 ∧ hex64 m.trustPolicyDigestSha256 ∧
    count m.finalizedHeight ∧ hex64 m.finalizedBlockHash ∧ count m.finalizedEpoch ∧
    positiveCount m.sequence ∧ (∀ previous ∈ m.previousManifestDigestSha256, hex64 previous) ∧
    count m.issuedAtEpoch ∧ positiveCount m.expiresAtEpoch ∧
    OrganicDeploymentAssignment.hostname m.routeHostSuffix ∧
    (1 ≤ m.probePort ∧ m.probePort ≤ 65535) ∧ m.deployments.length ≤ 4096 ∧
    (∀ d ∈ m.deployments, d.Valid) ∧ hex64 m.assignmentVectorDigestSha256 ∧
    hex64 m.manifestDigestSha256 ∧ m.issuedAtEpoch < m.expiresAtEpoch ∧
    (m.sequence = 1 ↔ m.previousManifestDigestSha256 = none) ∧
    m.deployments.map DeploymentAssignmentV3.deploymentID =
      Sorting.sortedSet (m.deployments.map DeploymentAssignmentV3.deploymentID) ∧
    (∀ d ∈ m.deployments, d.routeHost = d.deploymentID ++ "." ++ m.routeHostSuffix ∧
      ∀ r ∈ d.replicas, m.finalizedHeight < r.expiresAtBlock ∧ m.issuedAtEpoch < r.expiresAtEpoch) ∧
    (m.replicas.map OrganicAssignedReplica.endpointID).Nodup ∧
    m.assignmentVectorDigestSha256 =
      digest (.arr (m.deployments.map DeploymentAssignmentV3.toJson)) ∧
    m.manifestDigestSha256 = digest (document m.members)

instance (m : ActiveAssignmentManifestV3) : Decidable m.Valid := by
  unfold Valid
  infer_instance

end ActiveAssignmentManifestV3

end Manifest

end Misscomputer
