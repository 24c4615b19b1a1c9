import Misscomputer.Static.Scoring

set_option relaxedAutoImplicit false
set_option autoImplicit false

/-!
# The sealed static epoch

The record of a static epoch with its contract, and the scorer that seals it.

## Main definitions

* `StaticScoring.StaticEpochScore` — the sealed record.
* `StaticScoring.StaticEpochScore.Valid` — the values of the contract.
* `StaticScoring.scoreStaticEpoch` — the scorer.

## Implementation notes

`static_probe_coverage` checks its own result; every check it makes is made again, with tighter bounds, when
the record is validated, so it is not modelled apart.

## References

* `src/misscomputer_subnet/static_scoring.py`
* `src/misscomputer_subnet/static_probe.py` (`static_probe_coverage`)
-/

namespace Misscomputer

namespace StaticScoring

open Contract
open Except (reject)
open StaticIndex (AuthenticatedIndex Method ResponseKind StaticDeploymentTarget)
open StaticProbe

/-! ## Coverage -/

/-- `_probed` of a deployment: the indexed paths that were probed, those of them with GET, and the probes of
unlisted paths. -/
def probed (observations : List StaticProbeObservation) (deploymentID : String) : ℕ × ℕ × ℕ :=
  let ofDeployment := observations.filter fun obs => obs.deploymentID = deploymentID
  let listed := ofDeployment.filter fun obs =>
    decide (obs.expectedKind = .directoryIndex ∨ obs.expectedKind = .file)
  ((listed.map StaticProbeObservation.requestPath).dedup.length,
    ((listed.filter fun obs => obs.requestMethod = .get).map
      StaticProbeObservation.requestPath).dedup.length,
    ofDeployment.length - listed.length)

/-- `sizes`: the lengths of the routes. -/
def routeSizes (index : AuthenticatedIndex) : List ℤ :=
  (index.routes.map Prod.fst).dedup.filterMap fun path =>
    (index.routes.lookup path).map Static.File.contentLength

/-- The coverage of an index by the observations. -/
def coverageRow (ceiling : ℤ) (observations : List StaticProbeObservation) (index : AuthenticatedIndex) :
    StaticDeploymentCoverage :=
  let sizes := routeSizes index
  let seen := probed observations index.target.deploymentID
  { deploymentID := index.target.deploymentID
    siteDigest := index.target.siteDigest
    releaseDigest := index.target.releaseDigest
    releaseTrustPolicyDigestSha256 := index.trustPolicyDigestSha256
    ceilingBytes := ceiling
    routesTotal := sizes.length
    bytesTotal := sizes.sum
    bytesGetEligible := (sizes.filter fun size => size ≤ ceiling).sum
    routesProbed := seen.1
    routesBodyVerified := seen.2.1
    unlistedPathProbes := seen.2.2 }

/-! ## The record -/

/-- `network`. -/
inductive Network
  | finney | test
deriving DecidableEq, Repr

/-- A network and a subnet are compared member by member. -/
instance lawfulBEq_networkKey : @LawfulBEq (Network × ℤ) instBEqProd := inferInstance

/-- The network in a document. -/
def Network.text : Network → String
  | finney => "finney"
  | test => "test"

/-- `schema_version` of a record: the direct transport, the public framing, or either of them under a pinned
revocation authority. -/
inductive EpochVersion
  | direct | framed | revocationBound
deriving DecidableEq, Repr

/-- The version in a document. -/
def EpochVersion.number : EpochVersion → ℤ
  | direct => 1
  | framed => 2
  | revocationBound => 3

/-- `purpose`. -/
inductive Purpose
  | scoring | publicFraming
deriving DecidableEq, Repr

/-- The purpose in a document. -/
def Purpose.text : Purpose → String
  | scoring => "static_availability_scoring_v1"
  | publicFraming => "static_availability_scoring_public_framing_v2"

/-- `StaticEpochScore`. -/
structure StaticEpochScore extends StaticDerived where
  schemaVersion : EpochVersion
  purpose : Purpose
  network : Network
  netuid : ℤ
  validatorHotkey : String
  epochSeconds : ℤ
  epochIndex : ℤ
  minAttempts : ℤ
  probeBodyCeiling : ℤ
  targets : List StaticDeploymentTarget
  coverage : List StaticDeploymentCoverage
  indexAbstentions : List StaticIndexAbstentionRow
  observations : List StaticProbeObservation
  /-- `transport_profile` is `public-framing-v1`. -/
  publicFraming : Bool
  transportPolicyDigestSha256 : Option String
  releaseRevocationPolicyDigestSha256 : Option String
  releaseRevocationSnapshotDigest : Option String
  observationVectorDigestSha256 : String
  epochScoreDigestSha256 : String
deriving DecidableEq

/-- `model_document` of a coverage row. -/
def StaticDeploymentCoverage.toJson (c : StaticDeploymentCoverage) : Json :=
  document [("deployment_id", text c.deploymentID), ("site_digest", text c.siteDigest),
    ("release_digest", text c.releaseDigest),
    ("release_trust_policy_digest_sha256", text c.releaseTrustPolicyDigestSha256),
    ("ceiling_bytes", .num c.ceilingBytes), ("routes_total", .num c.routesTotal),
    ("bytes_total", .num c.bytesTotal), ("bytes_get_eligible", .num c.bytesGetEligible),
    ("routes_probed", .num c.routesProbed), ("routes_body_verified", .num c.routesBodyVerified),
    ("unlisted_path_probes", .num c.unlistedPathProbes)]

/-- `model_document` of an abstention. -/
def StaticIndexAbstentionRow.toJson (r : StaticIndexAbstentionRow) : Json :=
  document [("deployment_id", text r.deploymentID), ("site_digest", text r.siteDigest),
    ("code", text r.code.text), ("record_code", text r.recordCode.text)]

/-- `model_document` of a request. -/
def StaticSuspectRequest.toJson (r : StaticSuspectRequest) : Json :=
  document [("deployment_id", text r.deploymentID), ("request_method", text r.requestMethod.text),
    ("request_path", text r.requestPath)]

/-- `model_document` of an endpoint's row. -/
def StaticEndpointTally.toJson (t : StaticEndpointTally) : Json :=
  document [("deployment_id", text t.deploymentID), ("endpoint_id", text t.endpointID),
    ("site_digest", text t.siteDigest), ("miner_uid", .num t.minerUID),
    ("miner_hotkey", text t.minerHotkey), ("attempts", .num t.attempts), ("successes", .num t.successes),
    ("path_failures", .num t.pathFailures), ("miner_failures", .num t.minerFailures),
    ("cache_replays", .num t.cacheReplays), ("altered_in_transit", .num t.alteredInTransit),
    ("content_faults", .num t.contentFaults),
    ("fraudulent_attestations", .num t.fraudulentAttestations), ("disposition", text t.disposition.text),
    ("availability_numerator", optional (fun n : ℕ => .num n) t.availabilityNumerator),
    ("availability_denominator", optional (fun n : ℕ => .num n) t.availabilityDenominator)]

/-- `model_document` of a row of evidence. -/
def StaticEvidenceRef.toJson (r : StaticEvidenceRef) : Json :=
  document [("miner_uid", .num r.minerUID), ("miner_hotkey", text r.minerHotkey),
    ("deployment_id", text r.deploymentID), ("endpoint_id", text r.endpointID),
    ("observation_digest_sha256", text r.observationDigestSha256)]

/-- `model_document` of an action. -/
def StaticEndpointAction.toJson (a : StaticEndpointAction) : Json :=
  document [("deployment_id", text a.deploymentID), ("endpoint_id", text a.endpointID),
    ("miner_uid", .num a.minerUID), ("miner_hotkey", text a.minerHotkey), ("reason", text a.reason.text),
    ("remove_from_routing", .bool true), ("assign_replacement", .bool true), ("quarantine", .bool true),
    ("trust_zero", .bool a.trustZero), ("evidence_digests", .arr (a.evidenceDigests.map text))]

/-- `model_document` of an alert. -/
def StaticAlert.toJson (a : StaticAlert) : Json :=
  document [("code", text a.code.text), ("deployment_id", optional text a.deploymentID),
    ("endpoint_id", optional text a.endpointID)]

/-- The observations as one document. -/
def observationVector (observations : List StaticProbeObservation) : Json :=
  .arr (observations.map StaticProbeObservation.toJson)

namespace StaticEpochScore

/-- The members of every version that the digest covers. -/
def commonMembers (e : StaticEpochScore) : List (String × Json) :=
  [("schema", text "miss.computer/misscomputer-subnet/static-epoch-score"),
    ("schema_version", .num e.schemaVersion.number), ("purpose", text e.purpose.text),
    ("network", text e.network.text), ("netuid", .num e.netuid),
    ("validator_hotkey", text e.validatorHotkey), ("epoch_seconds", .num e.epochSeconds),
    ("epoch_index", .num e.epochIndex), ("min_attempts", .num e.minAttempts),
    ("probe_body_ceiling", .num e.probeBodyCeiling),
    ("targets", .arr (e.targets.map StaticDeploymentTarget.toJson)),
    ("coverage", .arr (e.coverage.map StaticDeploymentCoverage.toJson)),
    ("index_abstentions", .arr (e.indexAbstentions.map StaticIndexAbstentionRow.toJson)),
    ("epoch_status", text e.epochStatus.text), ("sampled_endpoint_count", .num e.sampledEndpointCount),
    ("path_unavailable_endpoint_count", .num e.pathUnavailableEndpointCount),
    ("index_suspect_requests", .arr (e.indexSuspectRequests.map StaticSuspectRequest.toJson)),
    ("endpoints", .arr (e.endpoints.map StaticEndpointTally.toJson)),
    ("content_fault_evidence", .arr (e.contentFaultEvidence.map StaticEvidenceRef.toJson)),
    ("fraud_evidence", .arr (e.fraudEvidence.map StaticEvidenceRef.toJson)),
    ("endpoint_actions", .arr (e.endpointActions.map StaticEndpointAction.toJson)),
    ("alerts", .arr (e.alerts.map StaticAlert.toJson)), ("observations", observationVector e.observations),
    ("observation_vector_digest_sha256", text e.observationVectorDigestSha256)]

/-- The members the digest covers. -/
def members (e : StaticEpochScore) : List (String × Json) :=
  e.commonMembers ++
    (if e.schemaVersion ≠ .direct then
      [("transport_profile", if e.publicFraming then text "public-framing-v1" else .null),
        ("transport_policy_digest_sha256", optional text e.transportPolicyDigestSha256)]
    else []) ++
    if e.schemaVersion = .revocationBound then
      [("release_revocation_policy_digest_sha256", optional text e.releaseRevocationPolicyDigestSha256),
        ("release_revocation_snapshot_digest", optional text e.releaseRevocationSnapshotDigest)]
    else []

/-- `static_epoch_score_bytes`. -/
def bytes (e : StaticEpochScore) : List UInt8 :=
  canonicalJson (document (e.members ++ [("epoch_score_digest_sha256", text e.epochScoreDigestSha256)])) ++
    Text.bytes ['\n']

end StaticEpochScore

/-- `Count`. -/
def count (n : ℕ) : Prop := n ≤ maxObservations

instance (n : ℕ) : Decidable (count n) := inferInstanceAs (Decidable (_ ≤ _))

/-- `ByteCount`. -/
def byteCount (n : ℤ) : Prop := 0 ≤ n ∧ n ≤ 2 ^ 40

instance (n : ℤ) : Decidable (byteCount n) := inferInstanceAs (Decidable (_ ∧ _))

/-- The values of the contract. -/
def StaticEndpointTally.Valid (t : StaticEndpointTally) : Prop :=
  dnsLabel t.deploymentID ∧ Contract.endpointID t.endpointID ∧ sha256Digest t.siteDigest ∧
    uid t.minerUID ∧ hotkey t.minerHotkey ∧
    (∀ n ∈ [t.attempts, t.successes, t.pathFailures, t.minerFailures, t.cacheReplays, t.alteredInTransit,
      t.contentFaults, t.fraudulentAttestations], count n) ∧
    (∀ n ∈ t.availabilityNumerator, count n) ∧ ∀ n ∈ t.availabilityDenominator, count n

/-- The values of the contract. -/
def StaticDeploymentCoverage.Valid (c : StaticDeploymentCoverage) : Prop :=
  dnsLabel c.deploymentID ∧ sha256Digest c.siteDigest ∧ sha256Digest c.releaseDigest ∧
    hex64 c.releaseTrustPolicyDigestSha256 ∧
    (1 ≤ c.ceilingBytes ∧ c.ceilingBytes ≤ hiddenProbeCeilingBytes) ∧
    (1 ≤ c.routesTotal ∧ c.routesTotal ≤ 8192) ∧ byteCount c.bytesTotal ∧ byteCount c.bytesGetEligible ∧
    c.routesProbed ≤ 8192 ∧ c.routesBodyVerified ≤ 8192 ∧ count c.unlistedPathProbes

/-- The values of the contract. -/
def StaticIndexAbstentionRow.Valid (r : StaticIndexAbstentionRow) : Prop :=
  dnsLabel r.deploymentID ∧ sha256Digest r.siteDigest ∧ r.code.recordCode = r.recordCode

/-- The values of the contract. -/
def StaticEvidenceRef.Valid (r : StaticEvidenceRef) : Prop :=
  uid r.minerUID ∧ hotkey r.minerHotkey ∧ dnsLabel r.deploymentID ∧ Contract.endpointID r.endpointID ∧
    hex64 r.observationDigestSha256

/-- The values of the contract. -/
def StaticEndpointAction.Valid (a : StaticEndpointAction) : Prop :=
  dnsLabel a.deploymentID ∧ Contract.endpointID a.endpointID ∧ uid a.minerUID ∧ hotkey a.minerHotkey ∧
    (1 ≤ a.evidenceDigests.length ∧ a.evidenceDigests.length ≤ maxAttemptsPerEndpoint) ∧
    ∀ d ∈ a.evidenceDigests, hex64 d

/-- The values of the contract. -/
def StaticAlert.Valid (a : StaticAlert) : Prop :=
  (∀ d ∈ a.deploymentID, dnsLabel d) ∧ ∀ e ∈ a.endpointID, Contract.endpointID e

/-- The values of the contract. -/
def StaticSuspectRequest.Valid (r : StaticSuspectRequest) : Prop :=
  dnsLabel r.deploymentID ∧ 1 ≤ r.requestPath.toList.length ∧ r.requestPath.toList.length ≤ 1024

instance (t : StaticEndpointTally) : Decidable t.Valid := by
  unfold StaticEndpointTally.Valid
  infer_instance

instance (c : StaticDeploymentCoverage) : Decidable c.Valid := by
  unfold StaticDeploymentCoverage.Valid
  infer_instance

instance (r : StaticIndexAbstentionRow) : Decidable r.Valid := by
  unfold StaticIndexAbstentionRow.Valid
  infer_instance

instance (r : StaticEvidenceRef) : Decidable r.Valid := by
  unfold StaticEvidenceRef.Valid
  infer_instance

instance (a : StaticEndpointAction) : Decidable a.Valid := by
  unfold StaticEndpointAction.Valid
  infer_instance

instance (a : StaticAlert) : Decidable a.Valid := by
  unfold StaticAlert.Valid
  infer_instance

instance (r : StaticSuspectRequest) : Decidable r.Valid := by
  unfold StaticSuspectRequest.Valid
  infer_instance

/-- `_observation_order`. -/
def observationOrder (item : StaticProbeObservation) : String ×ₗ String ×ₗ String :=
  toLex (item.endpointID, toLex (item.issuedAt, item.probeNonce))

/-- The networks a record can be of. -/
def networks : List (Network × ℤ) := [(.finney, 24), (.test, 581)]

/-- The digests a coverage row binds, by deployment. -/
def indexedOf (coverage : List StaticDeploymentCoverage) : Dict String (String × String) :=
  coverage.map fun row => (row.deploymentID, (row.releaseDigest, row.releaseTrustPolicyDigestSha256))

/-- The codes of the abstentions, by deployment. -/
def abstainedOf (rows : List StaticIndexAbstentionRow) : Dict String AbstentionRecordCode :=
  rows.map fun row => (row.deploymentID, row.recordCode)

/-- Outcomes can be compared. -/
instance : DecidableEq (Except StaticFailure StaticDerived)
  | .ok a, .ok b => decidable_of_iff (a = b) (by simp)
  | .error a, .error b => decidable_of_iff (a = b) (by simp)
  | .ok _, .error _ => isFalse (by simp)
  | .error _, .ok _ => isFalse (by simp)

namespace StaticEpochScore

/-- The checks of the fields. -/
def FieldsValid (e : StaticEpochScore) : Prop :=
  e.netuid ∈ [24, 581] ∧ hotkey e.validatorHotkey ∧ (60 ≤ e.epochSeconds ∧ e.epochSeconds ≤ 3600) ∧
    (0 ≤ e.epochIndex ∧ e.epochIndex ≤ 2 ^ 62) ∧
    (1 ≤ e.minAttempts ∧ e.minAttempts ≤ maxAttemptsPerEndpoint) ∧
    (1 ≤ e.probeBodyCeiling ∧ e.probeBodyCeiling ≤ hiddenProbeCeilingBytes) ∧
    (e.targets.length ≤ maxDeployments ∧ ∀ d ∈ e.targets, d.Valid) ∧
    (e.coverage.length ≤ maxDeployments ∧ ∀ c ∈ e.coverage, c.Valid) ∧
    (e.indexAbstentions.length ≤ maxDeployments ∧ ∀ r ∈ e.indexAbstentions, r.Valid) ∧
    (count e.sampledEndpointCount ∧ count e.pathUnavailableEndpointCount) ∧
    (e.indexSuspectRequests.length ≤ maxObservations ∧ ∀ r ∈ e.indexSuspectRequests, r.Valid) ∧
    (e.endpoints.length ≤ maxEndpoints ∧ ∀ t ∈ e.endpoints, t.Valid) ∧
    (e.contentFaultEvidence.length ≤ maxObservations ∧ ∀ r ∈ e.contentFaultEvidence, r.Valid) ∧
    (e.fraudEvidence.length ≤ maxObservations ∧ ∀ r ∈ e.fraudEvidence, r.Valid) ∧
    (e.endpointActions.length ≤ maxEndpoints ∧ ∀ a ∈ e.endpointActions, a.Valid) ∧
    (e.alerts.length ≤ maxEndpoints * 4 ∧ ∀ a ∈ e.alerts, a.Valid) ∧
    (e.observations.length ≤ maxObservations ∧ ∀ o ∈ e.observations, o.Valid) ∧
    (∀ d ∈ e.transportPolicyDigestSha256, hex64 d) ∧
    (∀ d ∈ e.releaseRevocationPolicyDigestSha256, hex64 d) ∧
    (∀ d ∈ e.releaseRevocationSnapshotDigest, sha256Digest d) ∧
    hex64 e.observationVectorDigestSha256 ∧ hex64 e.epochScoreDigestSha256

/-- The record is of the public framing. -/
def Framed (e : StaticEpochScore) : Prop :=
  e.schemaVersion = .framed ∨ (e.schemaVersion = .revocationBound ∧ e.publicFraming = true)

instance (e : StaticEpochScore) : Decidable e.Framed := inferInstanceAs (Decidable (_ ∨ _))

/-- The purpose, the transport and the revocation authority go with the version. -/
def TransportValid (e : StaticEpochScore) : Prop :=
  e.purpose = (if e.Framed then .publicFraming else .scoring) ∧
    (¬ e.Framed → e.publicFraming = false ∧ e.transportPolicyDigestSha256 = none) ∧
    (e.Framed → e.publicFraming = true ∧ e.transportPolicyDigestSha256 ≠ none ∧
      (e.network, e.netuid) = (.test, 581)) ∧
    (e.releaseRevocationPolicyDigestSha256 ≠ none ↔ e.schemaVersion = .revocationBound) ∧
    (e.releaseRevocationSnapshotDigest ≠ none ↔ e.schemaVersion = .revocationBound) ∧
    (e.schemaVersion ≠ .revocationBound → ∀ row ∈ e.indexAbstentions, row.code ≠ .releaseRevoked) ∧
    (∀ o ∈ e.observations, o.schemaVersion = (if e.Framed then .framed else .direct) ∧
      o.publicFraming = e.publicFraming ∧ o.transportPolicyDigestSha256 = e.transportPolicyDigestSha256) ∧
    (e.network, e.netuid) ∈ networks

/-- The targets, and the index state of each, in canonical order. -/
def TargetsValid (e : StaticEpochScore) : Prop :=
  let ids := e.targets.map StaticDeploymentTarget.deploymentID
  let covered := e.coverage.map StaticDeploymentCoverage.deploymentID
  let abstained := e.indexAbstentions.map StaticIndexAbstentionRow.deploymentID
  (ids = Sorting.sortedSet ids ∧ covered = Sorting.sortedSet covered ∧
      abstained = Sorting.sortedSet abstained ∧ (∀ d ∈ covered, d ∉ abstained) ∧
      (∀ d ∈ covered ++ abstained, d ∈ ids) ∧ ∀ d ∈ ids, d ∈ covered ++ abstained) ∧
    (∀ row ∈ e.coverage, ∀ d ∈ e.targets, d.deploymentID = row.deploymentID →
      row.siteDigest = d.siteDigest) ∧
    ∀ row ∈ e.indexAbstentions, ∀ d ∈ e.targets, d.deploymentID = row.deploymentID →
      row.siteDigest = d.siteDigest

/-- `canonical_epoch`. -/
def Canonical (e : StaticEpochScore) : Prop :=
  e.TransportValid ∧ e.TargetsValid ∧ e.observations = Sorting.sortOn observationOrder e.observations ∧
    (e.observations.map StaticProbeObservation.probeNonce).Nodup ∧
    (∀ o ∈ e.observations, o.validatorHotkey = e.validatorHotkey ∧ o.probeKind = .hidden) ∧
    (∀ row ∈ e.coverage,
      (row.routesProbed, row.routesBodyVerified, row.unlistedPathProbes) =
        probed e.observations row.deploymentID ∧
      row.ceilingBytes = e.probeBodyCeiling ∧ row.bytesGetEligible ≤ row.bytesTotal ∧
      row.routesProbed ≤ row.routesTotal ∧ row.routesBodyVerified ≤ row.routesProbed) ∧
    deriveStaticEpoch e.targets (indexedOf e.coverage) (abstainedOf e.indexAbstentions) e.observations
      e.epochSeconds e.epochIndex e.minAttempts = .ok e.toStaticDerived ∧
    e.observationVectorDigestSha256 = digest (observationVector e.observations) ∧
    e.epochScoreDigestSha256 = digest (document e.members)

/-- The values of the contract. -/
def Valid (e : StaticEpochScore) : Prop := e.FieldsValid ∧ e.Canonical

instance (e : StaticEpochScore) : Decidable e.FieldsValid := by
  unfold FieldsValid
  infer_instance

instance (e : StaticEpochScore) : Decidable e.TransportValid := by
  unfold TransportValid
  infer_instance

instance (e : StaticEpochScore) : Decidable e.TargetsValid := by
  unfold TargetsValid
  infer_instance

instance (e : StaticEpochScore) : Decidable e.Canonical := by
  unfold Canonical
  infer_instance

instance (e : StaticEpochScore) : Decidable e.Valid := inferInstanceAs (Decidable (_ ∧ _))

end StaticEpochScore

/-! ## The scorer -/

/-- The keyword arguments of `score_static_epoch`. -/
structure EpochPolicy where
  validatorHotkey : String
  epochIndex : ℤ
  epochSeconds : ℤ
  minAttempts : ℤ
  probeBodyCeiling : ℤ
  network : Network
  netuid : ℤ
  publicTransportPolicy : Option StaticPublicTransportPolicy
  /-- `release_revocation`: the digests of the policy and of the snapshot. -/
  releaseRevocation : Option (String × String)

/-- `revalidate`: a value of the contract, or an error. -/
def revalidate {α : Type} (valid : α → Prop) [DecidablePred valid] (a : α) : Except StaticFailure Unit :=
  reject (¬ valid a) (.contract "validation error")

/-- One round of the loop that indexes the targets: `by_id`. -/
def indexTarget (byID : Dict String StaticDeploymentTarget) (item : StaticDeploymentTarget) :
    Except StaticFailure (Dict String StaticDeploymentTarget) := do
  revalidate StaticDeploymentTarget.Valid item
  reject ((byID.get item.deploymentID).getD item ≠ item) (.scoring .identityConflict)
  return byID.setdefault item.deploymentID item

/-- One round of the loop that admits the indexes: `verified`. -/
def verifyIndex (byID : Dict String StaticDeploymentTarget) (verified : Dict String AuthenticatedIndex)
    (index : AuthenticatedIndex) : Except StaticFailure (Dict String AuthenticatedIndex) := do
  let key := index.target.deploymentID
  reject (byID.get key ≠ some index.target ∨ key ∈ verified.keys) (.scoring .indexStateInvalid)
  return verified.set key index

/-- One round of the loop that admits the abstentions: `abstained`. -/
def abstain (byID : Dict String StaticDeploymentTarget) (verified : Dict String AuthenticatedIndex)
    (abstained : Dict String StaticIndexAbstention) (row : StaticIndexAbstention) :
    Except StaticFailure (Dict String StaticIndexAbstention) := do
  let key := row.deploymentID
  reject ((byID.get key).map StaticDeploymentTarget.siteDigest ≠ some row.siteDigest ∨
    key ∈ verified.keys ∨ key ∈ abstained.keys) (.scoring .indexStateInvalid)
  return abstained.set key row

/-- The digests and the nonces seen so far. -/
structure Seen where
  digests : List String
  nonces : List String

/-- The index of the observation's deployment is known, and bears the observation out. -/
def judgeAgainst (ed25519 : String → String → List UInt8 → Bool) (ceiling : ℤ) (obs : StaticProbeObservation) :
    Option AuthenticatedIndex → Except StaticFailure Unit
  | none => .error (.scoring .observationUnpublished)
  | some index => (verifyObservation ed25519 obs index ceiling).mapError .scoring

/-- One round of the loop that judges the observations. -/
def judge (ed25519 : String → String → List UInt8 → Bool) (policy : EpochPolicy)
    (verified : Dict String AuthenticatedIndex) (abstained : Dict String StaticIndexAbstention) (seen : Seen)
    (obs : StaticProbeObservation) : Except StaticFailure Seen := do
  reject (obs.validatorHotkey ≠ policy.validatorHotkey) (.scoring .validatorMismatch)
  reject (obs.probeKind ≠ .hidden) (.scoring .probeKindInvalid)
  reject (obs.observationDigestSha256 ∈ seen.digests ∨ obs.probeNonce ∈ seen.nonces)
    (.scoring .observationDuplicate)
  checkEpoch policy.epochSeconds policy.epochIndex obs.issuedAt
  reject (obs.deploymentID ∈ abstained.keys) (.scoring .indexAbstained)
  judgeAgainst ed25519 policy.probeBodyCeiling obs (verified.get obs.deploymentID)
  return ⟨seen.digests ++ [obs.observationDigestSha256], seen.nonces ++ [obs.probeNonce]⟩

/-- The version of the record. -/
def EpochPolicy.version (policy : EpochPolicy) : EpochVersion :=
  if policy.releaseRevocation ≠ none then .revocationBound
  else if policy.publicTransportPolicy ≠ none then .framed
  else .direct

/-- The row of an abstention. -/
def abstentionRow (row : StaticIndexAbstention) : StaticIndexAbstentionRow where
  deploymentID := row.deploymentID
  siteDigest := row.siteDigest
  code := row.code
  recordCode := row.code.recordCode

/-- What is scored: the targets, the state of their indexes and the observations, each in canonical order. -/
structure Evidence where
  targets : List StaticDeploymentTarget
  indexes : List AuthenticatedIndex
  abstentions : List StaticIndexAbstention
  observations : List StaticProbeObservation

/-- The digests an epoch binds its indexes to. -/
def Evidence.indexed (v : Evidence) : Dict String (String × String) :=
  v.indexes.map fun index =>
    (index.target.deploymentID, (index.target.releaseDigest, index.trustPolicyDigestSha256))

/-- The record codes of the abstentions. -/
def Evidence.abstained (v : Evidence) : Dict String AbstentionRecordCode :=
  v.abstentions.map fun row => (row.deploymentID, row.code.recordCode)

/-- The record that is sealed, before its own contract is checked. -/
def epochRecord (policy : EpochPolicy) (v : Evidence) (derived : StaticDerived) : StaticEpochScore :=
  let unsigned : StaticEpochScore :=
    { derived with
      schemaVersion := policy.version
      purpose := if policy.publicTransportPolicy = none then .scoring else .publicFraming
      network := policy.network
      netuid := policy.netuid
      validatorHotkey := policy.validatorHotkey
      epochSeconds := policy.epochSeconds
      epochIndex := policy.epochIndex
      minAttempts := policy.minAttempts
      probeBodyCeiling := policy.probeBodyCeiling
      targets := v.targets
      coverage := v.indexes.map (coverageRow policy.probeBodyCeiling v.observations)
      indexAbstentions := v.abstentions.map abstentionRow
      observations := v.observations
      publicFraming := policy.publicTransportPolicy ≠ none
      transportPolicyDigestSha256 :=
        policy.publicTransportPolicy.map StaticPublicTransportPolicy.policyDigestSha256
      releaseRevocationPolicyDigestSha256 := policy.releaseRevocation.map Prod.fst
      releaseRevocationSnapshotDigest := policy.releaseRevocation.map Prod.snd
      observationVectorDigestSha256 := digest (observationVector v.observations)
      epochScoreDigestSha256 := "" }
  { unsigned with epochScoreDigestSha256 := digest (document unsigned.members) }

/-- The record of canonical evidence, when its contract holds. -/
def sealEpoch (policy : EpochPolicy) (v : Evidence) : Except StaticFailure StaticEpochScore := do
  let derived ← deriveStaticEpoch v.targets v.indexed v.abstained v.observations policy.epochSeconds
    policy.epochIndex policy.minAttempts
  revalidate StaticEpochScore.Valid (epochRecord policy v derived)
  return epochRecord policy v derived

/-- The checks of the arguments that are made before any loop. -/
def EpochPolicy.Valid (policy : EpochPolicy) : Prop :=
  (60 ≤ policy.epochSeconds ∧ policy.epochSeconds ≤ 3600) ∧
    (1 ≤ policy.minAttempts ∧ policy.minAttempts ≤ maxAttemptsPerEndpoint) ∧
    (1 ≤ policy.probeBodyCeiling ∧ policy.probeBodyCeiling ≤ hiddenProbeCeilingBytes)

instance (policy : EpochPolicy) : Decidable policy.Valid := inferInstanceAs (Decidable (_ ∧ _ ∧ _))

/-- The observation was made over the transport of the epoch. -/
def EpochPolicy.Carries (policy : EpochPolicy) (obs : StaticProbeObservation) : Prop :=
  obs.schemaVersion = (if policy.publicTransportPolicy ≠ none then .framed else .direct) ∧
    obs.transportPolicyDigestSha256 =
      policy.publicTransportPolicy.map StaticPublicTransportPolicy.policyDigestSha256

instance (policy : EpochPolicy) (obs : StaticProbeObservation) : Decidable (policy.Carries obs) :=
  inferInstanceAs (Decidable (_ ∧ _))

/-- `score_static_epoch`. -/
def scoreStaticEpoch (ed25519 : String → String → List UInt8 → Bool) (targets : List StaticDeploymentTarget)
    (indexes : List AuthenticatedIndex) (abstentions : List StaticIndexAbstention)
    (observations : List StaticProbeObservation) (policy : EpochPolicy) :
    Except StaticFailure StaticEpochScore := do
  reject (¬ policy.Valid) (.scoring .policyInvalid)
  reject (targets.length > maxDeployments ∨ observations.length > maxObservations)
    (.scoring .attemptsOverflow)
  let byID ← targets.foldlM indexTarget []
  let verified ← indexes.foldlM (verifyIndex byID) []
  let abstained ← abstentions.foldlM (abstain byID verified) []
  reject (¬ ∀ key ∈ byID.keys, key ∈ verified.keys ∨ key ∈ abstained.keys) (.scoring .indexStateInvalid)
  reject (policy.releaseRevocation = none ∧ ∃ entry ∈ abstained, entry.2.code = .releaseRevoked)
    (.scoring .indexStateInvalid)
  observations.forM (revalidate StaticProbeObservation.Valid)
  reject (policy.publicTransportPolicy ≠ none ∧ (policy.network, policy.netuid) ≠ (.test, 581))
    (.scoring .policyInvalid)
  reject (∃ obs ∈ observations, ¬ policy.Carries obs) (.scoring .policyInvalid)
  let _ ← observations.foldlM (judge ed25519 policy verified abstained) ⟨[], []⟩
  sealEpoch policy
    { targets := (Sorting.sortOn Prod.fst byID).map Prod.snd
      indexes := (Sorting.sortOn Prod.fst verified).map Prod.snd
      abstentions := (Sorting.sortOn Prod.fst abstained).map Prod.snd
      observations := Sorting.sortOn observationOrder observations }

end StaticScoring

end Misscomputer
