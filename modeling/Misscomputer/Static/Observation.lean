import Misscomputer.Organic.Attestations
import Misscomputer.Organic.Observation
import Misscomputer.Static.Response

set_option relaxedAutoImplicit false
set_option autoImplicit false

/-!
# Observations of static probes

The static deployments of a verified manifest, the authenticated index of each, and one sealed observation
for each attempted request to one of their endpoints.

## Main definitions

* `StaticIndex.StaticDeploymentTarget` — a deployment and its endpoint incarnations.
* `StaticIndex.AuthenticatedIndex` — the index a validator authenticated for a deployment.
* `StaticProbe.StaticProbeObservation` — what was asked, what was expected, what came back, and who the
  outcome is charged to.
* `StaticProbe.StaticProbeObservation.Valid` — the values of the contract.
* `StaticProbe.publicFramingValid` — the headers a public edge may deliver a response with.

## Main results

* `StaticProbe.StaticProbeObservation.Valid.success_iff` — a valid observation is a success exactly when it
  is charged to no one.

## Implementation notes

Names and values of headers are ASCII where the code lowers them. The release a site is published under is
no part of the model of an index: probing and scoring read its digests only.

## References

* `src/misscomputer_subnet/static_index.py`
* `src/misscomputer_subnet/static_probe.py`
-/

namespace Misscomputer

open Contract

/-! ## Deployments and their indexes -/

namespace StaticIndex

/-- `StaticEndpointTarget`. -/
structure StaticEndpointTarget where
  endpointID : String
  generation : ℤ
  minerUID : ℤ
  minerHotkey : String
  minerServicePublicKey : String
  ticketDigest : String
deriving DecidableEq

/-- `StaticDeploymentTarget`. -/
structure StaticDeploymentTarget where
  deploymentID : String
  routeHost : String
  siteDigest : String
  releaseDigest : String
  serverImplementationDigest : String
  endpoints : List StaticEndpointTarget
deriving DecidableEq

/-- The values of the contract. -/
def StaticEndpointTarget.Valid (e : StaticEndpointTarget) : Prop :=
  Contract.endpointID e.endpointID ∧ positiveCount e.generation ∧ uid e.minerUID ∧ hotkey e.minerHotkey ∧
    hex64 e.minerServicePublicKey ∧ sha256Digest e.ticketDigest

instance (e : StaticEndpointTarget) : Decidable e.Valid := by
  unfold StaticEndpointTarget.Valid
  infer_instance

/-- The values of the contract. -/
def StaticDeploymentTarget.Valid (d : StaticDeploymentTarget) : Prop :=
  dnsLabel d.deploymentID ∧ Organic.OrganicDeploymentAssignment.hostname d.routeHost ∧
    sha256Digest d.siteDigest ∧ sha256Digest d.releaseDigest ∧ sha256Digest d.serverImplementationDigest ∧
    (1 ≤ d.endpoints.length ∧ d.endpoints.length ≤ 8) ∧ (∀ e ∈ d.endpoints, e.Valid) ∧
    (d.endpoints.map StaticEndpointTarget.endpointID).Nodup

instance (d : StaticDeploymentTarget) : Decidable d.Valid := by
  unfold StaticDeploymentTarget.Valid
  infer_instance

/-- `model_document` of an endpoint. -/
def StaticEndpointTarget.toJson (e : StaticEndpointTarget) : Json :=
  document [("endpoint_id", text e.endpointID), ("generation", .num e.generation),
    ("miner_uid", .num e.minerUID), ("miner_hotkey", text e.minerHotkey),
    ("miner_service_public_key", text e.minerServicePublicKey), ("ticket_digest", text e.ticketDigest)]

/-- `model_document` of a deployment. -/
def StaticDeploymentTarget.toJson (d : StaticDeploymentTarget) : Json :=
  document [("deployment_id", text d.deploymentID), ("route_host", text d.routeHost),
    ("site_digest", text d.siteDigest), ("release_digest", text d.releaseDigest),
    ("server_implementation_digest", text d.serverImplementationDigest),
    ("endpoints", .arr (d.endpoints.map StaticEndpointTarget.toJson))]

/-- `VerifiedStaticIndex`: the deployment, the policy its release was accepted under, and the site. -/
structure AuthenticatedIndex extends VerifiedStaticIndex where
  target : StaticDeploymentTarget
  trustPolicyDigestSha256 : String

/-- The text of a response kind. -/
def ResponseKind.text : ResponseKind → String
  | directoryIndex => "directory_index"
  | file => "file"
  | navigationFallback => "navigation_fallback"
  | notFound => "not_found"

/-- The digest of a body. -/
def bodyDigest (body : List UInt8) : List Char := (sha256Hex body).toList

/-- The digest of pairs of header names and values. -/
def pairsDigest (pairs : List (List Char × List Char)) : List Char :=
  (Contract.digest (.arr (pairs.map fun pair => .arr [.str pair.1, .str pair.2]))).toList

/-- `expected_static_response` with the digests of the contract. -/
def AuthenticatedIndex.expectedResponse (index : AuthenticatedIndex) (method : Method) (path : String) :
    Except ResponseError ExpectedStaticResponse :=
  expectedStaticResponse bodyDigest pairsDigest index.toVerifiedStaticIndex method path.toList

end StaticIndex

/-! ## The vocabulary of observations -/

namespace StaticProbe

open Organic (MinerProbeAttestationV2 ProbeOutcome headerValues lowerName attestationHeader
  upstreamResponseHeader)
open StaticIndex (Method ResponseKind)

/-- `schema_version` of an observation. -/
inductive Version
  | direct | framed
deriving DecidableEq, Repr

/-- The version in a document. -/
def Version.number : Version → ℤ
  | direct => 1
  | framed => 2

/-- `ProbeKind`. -/
inductive ProbeKind
  | admission | hidden
deriving DecidableEq, Repr

/-- The kind in a document. -/
def ProbeKind.text : ProbeKind → String
  | admission => "admission"
  | hidden => "hidden"

/-- `Attribution`. -/
inductive Attribution
  | miner | none | path
deriving DecidableEq, Repr

/-- The party in a document. -/
def Attribution.text : Attribution → String
  | miner => "miner"
  | none => "none"
  | path => "path"

/-- `AttestationStatus`. -/
inductive AttestationStatus
  | fraudulent | notPresented | rejected | replayed | verified
deriving DecidableEq, Repr

/-- The status in a document. -/
def AttestationStatus.text : AttestationStatus → String
  | fraudulent => "fraudulent"
  | notPresented => "not_presented"
  | rejected => "rejected"
  | replayed => "replayed"
  | verified => "verified"

/-- `StaticFailureCode`. -/
inductive StaticFailureCode
  | attestationFraud | attestationInvalid | attestationMissing | bodyMismatch | cacheReplay
  | connectionFailed | contentAlteredInTransit | edgeGenerated | forbiddenHeader | headerMismatch
  | responseOversized | statusMismatch | timeout | tlsCertificateInvalid | tlsHandshakeFailed
  | tlsPinMismatch | transportError
deriving DecidableEq, Repr

/-- The code in a document. -/
def StaticFailureCode.text : StaticFailureCode → String
  | attestationFraud => "attestation_fraud"
  | attestationInvalid => "attestation_invalid"
  | attestationMissing => "attestation_missing"
  | bodyMismatch => "body_mismatch"
  | cacheReplay => "cache_replay"
  | connectionFailed => "connection_failed"
  | contentAlteredInTransit => "content_altered_in_transit"
  | edgeGenerated => "edge_generated"
  | forbiddenHeader => "forbidden_header"
  | headerMismatch => "header_mismatch"
  | responseOversized => "response_oversized"
  | statusMismatch => "status_mismatch"
  | timeout => "timeout"
  | tlsCertificateInvalid => "tls_certificate_invalid"
  | tlsHandshakeFailed => "tls_handshake_failed"
  | tlsPinMismatch => "tls_pin_mismatch"
  | transportError => "transport_error"

/-- `_ATTRIBUTION`. -/
def StaticFailureCode.attribution : StaticFailureCode → Attribution
  | attestationFraud => .miner
  | attestationInvalid => .miner
  | attestationMissing => .miner
  | bodyMismatch => .miner
  | cacheReplay => .path
  | connectionFailed => .path
  | contentAlteredInTransit => .path
  | edgeGenerated => .path
  | forbiddenHeader => .path
  | headerMismatch => .miner
  | responseOversized => .path
  | statusMismatch => .miner
  | timeout => .path
  | tlsCertificateInvalid => .path
  | tlsHandshakeFailed => .path
  | tlsPinMismatch => .path
  | transportError => .path

/-- `static_failure_attribution`. -/
def staticFailureAttribution : Option StaticFailureCode → Attribution
  | .none => .none
  | some code => code.attribution

/-- `_CONTENT_FAULTS`. -/
def contentFaults : List StaticFailureCode := [.bodyMismatch, .headerMismatch, .statusMismatch]

/-- `Literal["HTTP/1.1", "HTTP/2", "HTTP/3"]`. -/
inductive HTTPVersion
  | http11 | http2 | http3
deriving DecidableEq, Repr

/-- The version on the wire. -/
def HTTPVersion.text : HTTPVersion → String
  | http11 => "HTTP/1.1"
  | http2 => "HTTP/2"
  | http3 => "HTTP/3"

/-- The versions a public edge may answer with. -/
def HTTPVersion.of (version : String) : Option HTTPVersion :=
  if version = "HTTP/1.1" then some .http11
  else if version = "HTTP/2" then some .http2
  else if version = "HTTP/3" then some .http3
  else none

/-- `HIDDEN_PROBE_CEILING_BYTES`. -/
def hiddenProbeCeilingBytes : ℤ := Organic.maxResponseBytesCeiling

/-! ## Headers -/

/-- `NORMATIVE_HEADER_NAMES`. -/
def normativeHeaderNames : List String :=
  ["allow", "cache-control", "content-length", "content-type", "x-content-type-options"]

/-- `FORBIDDEN_HEADER_NAMES`. -/
def forbiddenHeaderNames : List String :=
  ["accept-ranges", "content-disposition", "content-encoding", "content-range", "etag", "last-modified",
    "location", "refresh", "set-cookie", "transfer-encoding", "vary"]

/-- `observed_header_sha256`. -/
def observedHeaderSha256 (headers : List (String × String)) : String :=
  String.ofList (Static.responseHeaderSha256 StaticIndex.pairsDigest
    ((headers.filter fun pair => lowerName pair.1 ∈ normativeHeaderNames).map fun pair =>
      ((lowerName pair.1).toList, pair.2.toList)))

/-- `_has_forbidden_header`. -/
def hasForbiddenHeader (headers : List (String × String)) : Bool :=
  headers.any fun pair => lowerName pair.1 ∈ forbiddenHeaderNames ||
    ("x-miss-".toList.isPrefixOf (lowerName pair.1).toList &&
      lowerName pair.1 ∉ [attestationHeader, upstreamResponseHeader])

/-- `value.isascii()`. -/
def isAscii (s : String) : Bool := s.toList.all fun c => c.toNat < 128

/-- The headers a framed observation may carry. -/
def Bounded (headers : List (String × String)) : Prop :=
  headers.length ≤ 128 ∧
    (headers.map fun pair => pair.1.toList.length + pair.2.toList.length).sum ≤ 16384 ∧
    ∀ pair ∈ headers, isAscii pair.1 ∧ isAscii pair.2 ∧ pair.1.toList.length ≤ 128 ∧
      pair.2.toList.length ≤ 8192

instance (headers : List (String × String)) : Decidable (Bounded headers) := by
  unfold Bounded
  infer_instance

/-- `_public_framing_valid`. -/
def publicFramingValid (headers : List (String × String)) (httpVersion : String) (requestMethod : Method)
    (expectedContentType : List Char) (expectedContentLength : ℤ) : Prop :=
  let lengths := headerValues headers "content-length"
  let codings := headerValues headers "transfer-encoding"
  HTTPVersion.of httpVersion ≠ none ∧ Bounded headers ∧
    (∀ pair ∈ (StaticIndex.normativeHeaders expectedContentType expectedContentLength).filter
        (fun pair => pair.1 ≠ "content-length".toList),
      headerValues headers (String.ofList pair.1) = [String.ofList pair.2]) ∧
    headerValues headers "allow" = [] ∧
    hasForbiddenHeader (headers.filter fun pair => lowerName pair.1 ≠ "transfer-encoding") = false ∧
    lengths.length ≤ 1 ∧ codings.length ≤ 1 ∧
    (lengths ≠ [] → lengths.head? = some (String.ofList (Static.decimal expectedContentLength)) ∧
      codings = []) ∧
    (codings ≠ [] → httpVersion = "HTTP/1.1" ∧ codings = ["chunked"]) ∧
    ¬ (httpVersion = "HTTP/1.1" ∧ requestMethod = .get ∧ lengths = [] ∧ codings = [])

instance (headers : List (String × String)) (httpVersion : String) (requestMethod : Method)
    (expectedContentType : List Char) (expectedContentLength : ℤ) :
    Decidable (publicFramingValid headers httpVersion requestMethod expectedContentType
      expectedContentLength) := by
  unfold publicFramingValid
  infer_instance

/-! ## Observations -/

/-- `StaticProbeObservation`. The profile of a framed observation has one value, and its presence is that of
the transport. -/
structure StaticProbeObservation where
  schemaVersion : Version
  probeKind : ProbeKind
  validatorHotkey : String
  deploymentID : String
  siteDigest : String
  releaseDigest : String
  releaseTrustPolicyDigestSha256 : String
  endpointID : String
  generation : ℤ
  minerUID : ℤ
  minerHotkey : String
  probeNonce : String
  issuedAt : String
  requestMethod : Method
  requestPath : String
  expectedKind : ResponseKind
  expectedStatus : ℤ
  expectedContentLength : ℤ
  expectedBodySha256 : String
  expectedHeaderSha256 : String
  latencyMillis : ℤ
  outcome : ProbeOutcome
  failureCode : Option StaticFailureCode
  attribution : Attribution
  quarantineCandidate : Bool
  upstreamMarker : Bool
  responseStatus : Option ℤ
  responseBytes : ℤ
  responseBodySha256 : Option String
  responseHeaderSha256 : Option String
  tlsLeafCertificateSha256 : Option String
  attestationStatus : AttestationStatus
  attestation : Option MinerProbeAttestationV2
  /-- `transport_profile` is `public-framing-v1`. -/
  publicFraming : Bool
  transportPolicyDigestSha256 : Option String
  deliveredHTTPVersion : Option HTTPVersion
  deliveredHeaders : Option (List (String × String))
  observationDigestSha256 : String
deriving DecidableEq

namespace StaticProbeObservation

/-- The members a framed observation has and a direct one has not. -/
def framingMembers (o : StaticProbeObservation) : List (String × Json) :=
  [("transport_profile", if o.publicFraming then Contract.text "public-framing-v1" else .null),
    ("transport_policy_digest_sha256", optional Contract.text o.transportPolicyDigestSha256),
    ("delivered_http_version", optional (fun v => Contract.text v.text) o.deliveredHTTPVersion),
    ("delivered_headers", optional (fun headers => .arr (headers.map fun pair =>
      .arr [Contract.text pair.1, Contract.text pair.2])) o.deliveredHeaders)]

/-- The members the digest covers. -/
def members (o : StaticProbeObservation) : List (String × Json) :=
  [("schema", Contract.text "miss.computer/misscomputer-subnet/static-probe-observation"),
    ("schema_version", .num o.schemaVersion.number), ("probe_kind", Contract.text o.probeKind.text),
    ("validator_hotkey", Contract.text o.validatorHotkey), ("deployment_id", Contract.text o.deploymentID),
    ("site_digest", Contract.text o.siteDigest), ("release_digest", Contract.text o.releaseDigest),
    ("release_trust_policy_digest_sha256", Contract.text o.releaseTrustPolicyDigestSha256),
    ("endpoint_id", Contract.text o.endpointID), ("generation", .num o.generation),
    ("miner_uid", .num o.minerUID), ("miner_hotkey", Contract.text o.minerHotkey),
    ("probe_nonce", Contract.text o.probeNonce), ("issued_at", Contract.text o.issuedAt),
    ("request_method", Contract.text o.requestMethod.text), ("request_path", Contract.text o.requestPath),
    ("expected_kind", Contract.text o.expectedKind.text), ("expected_status", .num o.expectedStatus),
    ("expected_content_length", .num o.expectedContentLength),
    ("expected_body_sha256", Contract.text o.expectedBodySha256),
    ("expected_header_sha256", Contract.text o.expectedHeaderSha256),
    ("latency_millis", .num o.latencyMillis), ("outcome", Contract.text o.outcome.text),
    ("failure_code", optional (fun code => Contract.text code.text) o.failureCode),
    ("attribution", Contract.text o.attribution.text), ("quarantine_candidate", .bool o.quarantineCandidate),
    ("upstream_marker", .bool o.upstreamMarker), ("response_status", optional .num o.responseStatus),
    ("response_bytes", .num o.responseBytes),
    ("response_body_sha256", optional Contract.text o.responseBodySha256),
    ("response_header_sha256", optional Contract.text o.responseHeaderSha256),
    ("tls_leaf_certificate_sha256", optional Contract.text o.tlsLeafCertificateSha256),
    ("attestation_status", Contract.text o.attestationStatus.text),
    ("attestation", optional MinerProbeAttestationV2.toJson o.attestation)] ++
  if o.schemaVersion = .framed then o.framingMembers else []

/-- The observation with its digest. -/
def sealed (o : StaticProbeObservation) : StaticProbeObservation :=
  { o with observationDigestSha256 := digest (document o.members) }

lemma digest_sealed (o : StaticProbeObservation) :
    o.sealed.observationDigestSha256 = digest (document o.sealed.members) := rfl

/-- `model_document` of an observation. -/
def toJson (o : StaticProbeObservation) : Json :=
  document (o.members ++ [("observation_digest_sha256", Contract.text o.observationDigestSha256)])

/-- The checks of the fields the digest covers. -/
def DocumentValid (o : StaticProbeObservation) : Prop :=
  hotkey o.validatorHotkey ∧ dnsLabel o.deploymentID ∧ sha256Digest o.siteDigest ∧
    sha256Digest o.releaseDigest ∧ hex64 o.releaseTrustPolicyDigestSha256 ∧
    Contract.endpointID o.endpointID ∧ positiveCount o.generation ∧ uid o.minerUID ∧ hotkey o.minerHotkey ∧
    hex64 o.probeNonce ∧ secondsTimestamp o.issuedAt ∧ healthPath o.requestPath ∧ status o.expectedStatus ∧
    (0 ≤ o.expectedContentLength ∧ o.expectedContentLength ≤ Static.maxFileBytes) ∧
    hex64 o.expectedBodySha256 ∧ hex64 o.expectedHeaderSha256 ∧
    (0 ≤ o.latencyMillis ∧ o.latencyMillis ≤ Organic.maxLatencyMillis) ∧
    (∀ code ∈ o.responseStatus, status code) ∧
    (0 ≤ o.responseBytes ∧ o.responseBytes ≤ Static.maxFileBytes + 1) ∧
    (∀ body ∈ o.responseBodySha256, hex64 body) ∧ (∀ header ∈ o.responseHeaderSha256, hex64 header) ∧
    (∀ leaf ∈ o.tlsLeafCertificateSha256, hex64 leaf) ∧ (∀ a ∈ o.attestation, a.Valid) ∧
    ∀ policy ∈ o.transportPolicyDigestSha256, hex64 policy

/-- The transport of an observation: a direct one has no framing, a framed one names its policy. -/
def ProfileValid (o : StaticProbeObservation) : Prop :=
  match o.schemaVersion with
  | .direct => o.publicFraming = false ∧ o.transportPolicyDigestSha256 = none ∧
      o.deliveredHTTPVersion = none ∧ o.deliveredHeaders = none
  | .framed => o.publicFraming = true ∧ o.transportPolicyDigestSha256 ≠ none

/-- The delivered headers of a framed observation come with a version and the digest of the response. -/
def DeliveredValid (o : StaticProbeObservation) : Prop :=
  o.schemaVersion = .framed → ∀ headers ∈ o.deliveredHeaders,
    o.deliveredHTTPVersion ≠ none ∧ o.responseHeaderSha256 = some (observedHeaderSha256 headers)

/-- A success is what was expected. -/
def SuccessValid (o : StaticProbeObservation) : Prop :=
  o.outcome = .success → o.upstreamMarker = true ∧ o.responseStatus = some o.expectedStatus ∧
    o.responseBodySha256 = some o.expectedBodySha256 ∧
    (o.schemaVersion = .direct → o.responseHeaderSha256 = some o.expectedHeaderSha256) ∧
    o.attestationStatus = .verified

/-- A verified attestation says what was observed. -/
def Binds (o : StaticProbeObservation) (a : MinerProbeAttestationV2) : Prop :=
  a.endpointID = o.endpointID ∧ a.probeNonce = o.probeNonce ∧ o.responseStatus = some a.responseStatus ∧
    o.responseBodySha256 = some a.responseBodySha256 ∧
    (o.schemaVersion = .direct → o.responseHeaderSha256 = some a.responseHeaderSha256)

/-- A framed success was delivered with well-formed framing. -/
def FramingValid (o : StaticProbeObservation) : Prop :=
  o.schemaVersion = .framed → o.outcome = .success →
    o.attestation.map MinerProbeAttestationV2.responseHeaderSha256 = some o.expectedHeaderSha256 ∧
    o.responseBytes = (if o.requestMethod = .get then o.expectedContentLength else 0) ∧
    ∃ headers ∈ o.deliveredHeaders, ∃ version ∈ o.deliveredHTTPVersion,
      ∃ contentType ∈ (headerValues headers "content-type").head?,
        (headerValues headers "content-type").length = 1 ∧
        publicFramingValid headers version.text o.requestMethod contentType.toList o.expectedContentLength

/-- A content fault of a framed observation is proved: the status or the body, and nothing else, differs
from what was expected. -/
def FaultProved (o : StaticProbeObservation) (expectedStatus : ℤ) (expectedBodySha256 expectedHeaderSha256 :
    String) : Prop :=
  o.attestation.map MinerProbeAttestationV2.responseHeaderSha256 = some expectedHeaderSha256 ∧
    o.failureCode ≠ some .headerMismatch ∧
    ¬ (o.failureCode = some .statusMismatch ∧ o.responseStatus = some expectedStatus) ∧
    ¬ (o.failureCode = some .bodyMismatch ∧
      (o.responseStatus ≠ some expectedStatus ∨ o.responseBodySha256 = some expectedBodySha256))

/-- `canonical_observation`, but for the digest. -/
def Consistent (o : StaticProbeObservation) : Prop :=
  o.ProfileValid ∧ o.DeliveredValid ∧ (o.outcome = .success ↔ o.failureCode = none) ∧
    o.attribution = staticFailureAttribution o.failureCode ∧
    (o.quarantineCandidate = true ↔ ∃ code ∈ o.failureCode, code ∈ contentFaults) ∧ o.SuccessValid ∧
    (o.attestationStatus ∈ [.fraudulent, .replayed, .verified] ↔ o.attestation ≠ none) ∧
    (o.attestationStatus = .fraudulent ↔ o.failureCode = some .attestationFraud) ∧
    (o.attestationStatus = .verified → ∀ a ∈ o.attestation, o.Binds a) ∧ o.FramingValid ∧
    (o.schemaVersion = .framed → o.quarantineCandidate = true → o.attestationStatus = .verified ∧
      o.FaultProved o.expectedStatus o.expectedBodySha256 o.expectedHeaderSha256) ∧
    (o.attribution = .miner → o.upstreamMarker = true)

/-- The values of the contract. -/
def Valid (o : StaticProbeObservation) : Prop :=
  o.DocumentValid ∧ hex64 o.observationDigestSha256 ∧ o.Consistent ∧
    o.observationDigestSha256 = digest (document o.members)

section Instances

variable (o : StaticProbeObservation)

instance : Decidable o.DocumentValid := by
  unfold DocumentValid
  infer_instance

instance : Decidable o.ProfileValid := by
  unfold ProfileValid
  cases o.schemaVersion <;> infer_instance

instance : Decidable o.DeliveredValid := by
  unfold DeliveredValid
  infer_instance

instance : Decidable o.SuccessValid := by
  unfold SuccessValid
  infer_instance

instance (a : MinerProbeAttestationV2) : Decidable (o.Binds a) := by
  unfold Binds
  infer_instance

instance : Decidable o.FramingValid := by
  unfold FramingValid
  infer_instance

instance (expectedStatus : ℤ) (expectedBodySha256 expectedHeaderSha256 : String) :
    Decidable (o.FaultProved expectedStatus expectedBodySha256 expectedHeaderSha256) := by
  unfold FaultProved
  infer_instance

instance : Decidable o.Consistent := by
  unfold Consistent
  infer_instance

instance : Decidable o.Valid := inferInstanceAs (Decidable (_ ∧ _ ∧ _ ∧ _))

end Instances

variable {o : StaticProbeObservation}

/-- Sealing keeps every field but the digest. -/
lemma sealed_valid_iff : o.sealed.Valid ↔ o.DocumentValid ∧ o.Consistent :=
  ⟨fun h => ⟨h.1, h.2.2.1⟩, fun h => ⟨h.1, hex64_digest _, h.2, o.digest_sealed⟩⟩

/-- **A valid observation is a success exactly when it is charged to no one.** -/
theorem Valid.success_iff (h : o.Valid) : o.outcome = .success ↔ o.attribution = .none := by
  obtain ⟨-, -, ⟨-, -, houtcome, hattribution, -⟩, -⟩ := h
  rw [houtcome, hattribution]
  cases o.failureCode with
  | none => exact iff_of_true rfl rfl
  | some code => cases code <;> simp [staticFailureAttribution, StaticFailureCode.attribution]

end StaticProbeObservation

end StaticProbe

end Misscomputer
