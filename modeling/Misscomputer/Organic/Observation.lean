import Misscomputer.Organic.Contracts

set_option relaxedAutoImplicit false
set_option autoImplicit false

/-!
# Observations of organic probes

One sealed observation for each attempted probe of a published endpoint, and the judgement of the miner's
attestation in it.

## Main definitions

* `Organic.OrganicProbeObservation` — what was asked, what came back, and who the outcome is charged to.
* `Organic.OrganicProbeObservation.Valid` — the values of the contract.
* `Organic.failureAttribution` — the party a failure is attributable to.
* `Organic.verifyAttestationV2` — the judgement of an attestation.

## Main results

* `Organic.OrganicProbeObservation.Valid.success_iff` — a valid observation is a success exactly when it
  is charged to no one.

## Implementation notes

Verification of an Ed25519 signature is a parameter: the key and the signature in hexadecimal digits, and
the message.

## References

* `src/misscomputer_subnet/organic_probe.py`
-/

namespace Misscomputer

namespace Organic

open Contract
open StaticIndex (Method)

/-- `AttestationStatus`. -/
inductive AttestationStatus
  | fraudulent | notPresented | rejected | verified
deriving DecidableEq, Repr

/-- The status in a document. -/
def AttestationStatus.text : AttestationStatus → String
  | fraudulent => "fraudulent"
  | notPresented => "not_presented"
  | rejected => "rejected"
  | verified => "verified"

/-- `Attribution`. -/
inductive Attribution
  | application | miner | none | path
deriving DecidableEq, Repr

/-- The party in a document. -/
def Attribution.text : Attribution → String
  | application => "application"
  | miner => "miner"
  | none => "none"
  | path => "path"

/-- `ProbeOutcome`. -/
inductive ProbeOutcome
  | failure | success
deriving DecidableEq, Repr

/-- The outcome in a document. -/
def ProbeOutcome.text : ProbeOutcome → String
  | failure => "failure"
  | success => "success"

/-- `ProbeFailureCode`. -/
inductive ProbeFailureCode
  | attestationFraud | attestationInvalid | attestationMissing | connectionFailed | edgeGenerated
  | markerMissing | responseOversized | timeout | tlsCertificateInvalid | tlsHandshakeFailed
  | tlsPinMismatch | transportError | unexpectedStatus
deriving DecidableEq, Repr

/-- The code in a document. -/
def ProbeFailureCode.text : ProbeFailureCode → String
  | attestationFraud => "attestation_fraud"
  | attestationInvalid => "attestation_invalid"
  | attestationMissing => "attestation_missing"
  | connectionFailed => "connection_failed"
  | edgeGenerated => "edge_generated"
  | markerMissing => "marker_missing"
  | responseOversized => "response_oversized"
  | timeout => "timeout"
  | tlsCertificateInvalid => "tls_certificate_invalid"
  | tlsHandshakeFailed => "tls_handshake_failed"
  | tlsPinMismatch => "tls_pin_mismatch"
  | transportError => "transport_error"
  | unexpectedStatus => "unexpected_status"

/-- `_ATTRIBUTION`. -/
def ProbeFailureCode.attribution : ProbeFailureCode → Attribution
  | attestationFraud => .miner
  | attestationInvalid => .miner
  | attestationMissing => .miner
  | connectionFailed => .path
  | edgeGenerated => .path
  | markerMissing => .application
  | responseOversized => .application
  | timeout => .path
  | tlsCertificateInvalid => .path
  | tlsHandshakeFailed => .path
  | tlsPinMismatch => .path
  | transportError => .path
  | unexpectedStatus => .application

/-- `failure_attribution`. -/
def failureAttribution : Option ProbeFailureCode → Attribution
  | .none => .none
  | some code => code.attribution

/-- `MAX_RESPONSE_BYTES_CEILING`. -/
def maxResponseBytesCeiling : ℤ := 1048576

/-- `MAX_LATENCY_MILLIS`. -/
def maxLatencyMillis : ℤ := 3600000

/-! ## Observations -/

/-- `OrganicProbeObservation`. -/
structure OrganicProbeObservation where
  validatorHotkey : String
  manifestDigestSha256 : String
  trustPolicyDigestSha256 : String
  deploymentID : String
  assignmentDigestSha256 : String
  endpointID : String
  generation : ℤ
  minerUID : ℤ
  minerHotkey : String
  probeNonce : String
  issuedAt : String
  requestMethod : Method
  requestPath : String
  latencyMillis : ℤ
  outcome : ProbeOutcome
  failureCode : Option ProbeFailureCode
  attribution : Attribution
  upstreamMarker : Bool
  responseStatus : Option ℤ
  responseBytes : ℤ
  responseBodySha256 : Option String
  tlsLeafCertificateSha256 : Option String
  attestationStatus : AttestationStatus
  attestation : Option MinerProbeAttestationV2
  observationDigestSha256 : String
deriving DecidableEq

namespace OrganicProbeObservation

/-- The members the digest covers. -/
def members (o : OrganicProbeObservation) : List (String × Json) :=
  [("schema", text "miss.computer/misscomputer-subnet/organic-probe-observation"),
    ("schema_version", .num 1), ("validator_hotkey", text o.validatorHotkey),
    ("manifest_digest_sha256", text o.manifestDigestSha256),
    ("trust_policy_digest_sha256", text o.trustPolicyDigestSha256),
    ("deployment_id", text o.deploymentID), ("assignment_digest_sha256", text o.assignmentDigestSha256),
    ("endpoint_id", text o.endpointID), ("generation", .num o.generation), ("miner_uid", .num o.minerUID),
    ("miner_hotkey", text o.minerHotkey), ("probe_nonce", text o.probeNonce), ("issued_at", text o.issuedAt),
    ("request_method", text o.requestMethod.text), ("request_path", text o.requestPath),
    ("latency_millis", .num o.latencyMillis), ("outcome", text o.outcome.text),
    ("failure_code", optional (fun code => text code.text) o.failureCode),
    ("attribution", text o.attribution.text), ("upstream_marker", .bool o.upstreamMarker),
    ("response_status", optional .num o.responseStatus), ("response_bytes", .num o.responseBytes),
    ("response_body_sha256", optional text o.responseBodySha256),
    ("tls_leaf_certificate_sha256", optional text o.tlsLeafCertificateSha256),
    ("attestation_status", text o.attestationStatus.text),
    ("attestation", optional MinerProbeAttestationV2.toJson o.attestation)]

/-- The observation with its digest. -/
def sealed (o : OrganicProbeObservation) : OrganicProbeObservation :=
  { o with observationDigestSha256 := digest (document o.members) }

lemma digest_sealed (o : OrganicProbeObservation) :
    o.sealed.observationDigestSha256 = digest (document o.sealed.members) := rfl

/-- `model_document` of an observation. -/
def toJson (o : OrganicProbeObservation) : Json :=
  document (o.members ++ [("observation_digest_sha256", text o.observationDigestSha256)])

/-- The checks of the fields. -/
def FieldsValid (o : OrganicProbeObservation) : Prop :=
  hotkey o.validatorHotkey ∧ hex64 o.manifestDigestSha256 ∧ hex64 o.trustPolicyDigestSha256 ∧
    routeLabel o.deploymentID ∧ hex64 o.assignmentDigestSha256 ∧ Contract.endpointID o.endpointID ∧
    positiveCount o.generation ∧ uid o.minerUID ∧ hotkey o.minerHotkey ∧ hex64 o.probeNonce ∧
    secondsTimestamp o.issuedAt ∧ healthPath o.requestPath ∧
    (0 ≤ o.latencyMillis ∧ o.latencyMillis ≤ maxLatencyMillis) ∧
    (∀ code ∈ o.responseStatus, status code) ∧
    (0 ≤ o.responseBytes ∧ o.responseBytes ≤ maxResponseBytesCeiling + 1) ∧
    (∀ body ∈ o.responseBodySha256, hex64 body) ∧ (∀ leaf ∈ o.tlsLeafCertificateSha256, hex64 leaf) ∧
    (∀ a ∈ o.attestation, a.Valid) ∧ hex64 o.observationDigestSha256

/-- What a verified attestation in an observation has to say. -/
def Binds (o : OrganicProbeObservation) (a : MinerProbeAttestationV2) : Prop :=
  a.endpointID = o.endpointID ∧ a.probeNonce = o.probeNonce ∧ a.validatorHotkey = o.validatorHotkey ∧
    some a.responseStatus = o.responseStatus ∧ some a.responseBodySha256 = o.responseBodySha256

/-- `canonical_observation`. -/
def Canonical (o : OrganicProbeObservation) : Prop :=
  (o.outcome = .success ↔ o.failureCode = none) ∧ o.attribution = failureAttribution o.failureCode ∧
    (o.outcome = .success → o.upstreamMarker = true ∧ o.responseStatus ≠ none ∧
      o.responseBodySha256 ≠ none ∧ o.attestationStatus = .verified) ∧
    (o.attestationStatus = .fraudulent ∨ o.attestationStatus = .verified ↔ o.attestation ≠ none) ∧
    (o.attestationStatus = .fraudulent ↔ o.failureCode = some .attestationFraud) ∧
    (o.attestationStatus = .verified → ∀ a ∈ o.attestation, o.Binds a) ∧
    (o.attribution = .application → o.upstreamMarker = true) ∧
    o.observationDigestSha256 = digest (document o.members)

/-- The values of the contract. -/
def Valid (o : OrganicProbeObservation) : Prop := o.FieldsValid ∧ o.Canonical

instance (o : OrganicProbeObservation) : Decidable o.FieldsValid := by
  unfold FieldsValid
  infer_instance

instance (o : OrganicProbeObservation) (a : MinerProbeAttestationV2) : Decidable (o.Binds a) := by
  unfold Binds
  infer_instance

instance (o : OrganicProbeObservation) : Decidable o.Canonical := by
  unfold Canonical
  infer_instance

instance (o : OrganicProbeObservation) : Decidable o.Valid := inferInstanceAs (Decidable (_ ∧ _))

variable {o : OrganicProbeObservation}

lemma Valid.issuedAt (h : o.Valid) : secondsTimestamp o.issuedAt = true :=
  h.1.2.2.2.2.2.2.2.2.2.2.1

/-- **A valid observation is a success exactly when it is charged to no one.** -/
theorem Valid.success_iff (h : o.Valid) : o.outcome = .success ↔ o.attribution = .none := by
  obtain ⟨-, houtcome, hattribution, -⟩ := h
  rw [houtcome, hattribution]
  cases o.failureCode with
  | none => exact iff_of_true rfl rfl
  | some code => cases code <;> simp [failureAttribution, ProbeFailureCode.attribution]

end OrganicProbeObservation

/-! ## Attestations -/

/-- `AttestationVerdict`. -/
inductive AttestationVerdict
  | contentMismatch | fraudulent | signatureInvalid | verified
deriving DecidableEq, Repr

/-- `ATTESTATION_CLOCK_SKEW_NANOS`. -/
def attestationClockSkewNanos : ℤ := 2000000000

/-- `PROBE_AUTHORIZATION_VALIDITY_NANOS`. -/
def probeAuthorizationValidityNanos : ℤ := 30000000000

/-- What a verified statement is compared with: the validator's own request. -/
structure ProbeRequest where
  validatorHotkey : String
  probeNonce : String
  requestMethod : Method
  requestPath : String
  issuedAt : String

/-- The statement is about another endpoint incarnation, ticket, artifact, validator, nonce or request, or
was observed outside the authorization's window. -/
def Mismatched (a : MinerProbeAttestationV2) (d : OrganicDeploymentAssignment) (r : OrganicAssignedReplica)
    (request : ProbeRequest) (issued observed : ℤ) : Prop :=
  a.endpointID ≠ r.endpointID ∨ a.generation ≠ r.generation ∨ a.ticketDigest ≠ r.ticketDigest ∨
    a.artifactDigest ≠ d.artifactDigest ∨ a.validatorHotkey ≠ request.validatorHotkey ∨
    a.probeNonce ≠ request.probeNonce ∨ a.requestMethod ≠ request.requestMethod ∨
    a.requestPath ≠ request.requestPath ∨ observed < issued - attestationClockSkewNanos ∨
    observed > issued + probeAuthorizationValidityNanos + attestationClockSkewNanos

instance (a : MinerProbeAttestationV2) (d : OrganicDeploymentAssignment) (r : OrganicAssignedReplica)
    (request : ProbeRequest) (issued observed : ℤ) : Decidable (Mismatched a d r request issued observed) := by
  unfold Mismatched
  infer_instance

/-- `verify_attestation_v2`: `none` where the source raises. -/
def verifyAttestationV2 (ed25519 : String → String → List UInt8 → Bool) (a : MinerProbeAttestationV2)
    (d : OrganicDeploymentAssignment) (r : OrganicAssignedReplica) (request : ProbeRequest)
    (responseStatus : ℤ) (responseBodySha256 : String) : Option AttestationVerdict :=
  if ¬ a.Valid then none
  else if ed25519 r.minerServicePublicKey a.signatureHex a.message = false then some .signatureInvalid
  else do
    let issued ← rfc3339nanoInstant request.issuedAt
    let observed ← rfc3339nanoInstant a.observedAt
    if Mismatched a d r request issued observed then some .fraudulent
    else if a.responseStatus ≠ responseStatus ∨ a.responseBodySha256 ≠ responseBodySha256 then
      some .contentMismatch
    else some .verified

end Organic

end Misscomputer
