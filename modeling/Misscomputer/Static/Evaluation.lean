import Misscomputer.Static.Observation

set_option relaxedAutoImplicit false
set_option autoImplicit false

/-!
# Judging a static probe

The evaluator turns what the transport reports of one request into one sealed observation, and the scorer
binds an observation to the published incarnation and the authenticated index, deriving the status of its
attestation once more.

## Main definitions

* `StaticProbe.evaluateStaticProbe` — the evaluator.
* `StaticScoring.verifyObservation` — the check of the scorer.

## Implementation notes

The evaluator fills a document and returns it from many places; each of them seals what has been filled in,
so the evaluator is a function to the document and one check of it. Timestamps are those of validated
documents, so the source's readings of them do not raise; a document whose timestamp could not be read would
fall outside the window here.

## References

* `src/misscomputer_subnet/static_probe.py` (`evaluate_static_probe`)
* `src/misscomputer_subnet/static_scoring.py` (`_attestation_status`, `_verify_observation`)
-/

namespace Misscomputer

open Contract
open Except (reject)
open Organic (MinerProbeAttestationV2 OrganicProbeAuthorization ProbeResult ProbeResponse ProbeOutcome
  TransportFailureCode attestationClockSkewNanos attestationHeader headerValues
  parseAttestationV2Header probeAuthorizationValidityNanos upstreamResponseHeader upstreamResponseMarker)
open StaticIndex (AuthenticatedIndex ExpectedStaticResponse Method ResponseError StaticEndpointTarget)

namespace StaticProbe

/-! ## Attestations -/

/-- The statement names another endpoint, generation, ticket, site, validator or request. -/
def Misstates (a : MinerProbeAttestationV2) (endpoint : StaticEndpointTarget) (siteDigest validatorHotkey :
    String) (requestMethod : Method) (requestPath : String) : Prop :=
  a.endpointID ≠ endpoint.endpointID ∨ a.generation ≠ endpoint.generation ∨
    a.ticketDigest ≠ endpoint.ticketDigest ∨ a.artifactDigest ≠ siteDigest ∨
    a.validatorHotkey ≠ validatorHotkey ∨ a.requestMethod ≠ requestMethod ∨ a.requestPath ≠ requestPath

/-- The statement was made inside the window of an authorization. -/
def InWindow (issuedAt observedAt : String) : Prop :=
  ∃ issued ∈ rfc3339nanoInstant issuedAt, ∃ observed ∈ rfc3339nanoInstant observedAt,
    issued - attestationClockSkewNanos ≤ observed ∧
      observed ≤ issued + probeAuthorizationValidityNanos + attestationClockSkewNanos

instance (a : MinerProbeAttestationV2) (endpoint : StaticEndpointTarget) (siteDigest validatorHotkey : String)
    (requestMethod : Method) (requestPath : String) :
    Decidable (Misstates a endpoint siteDigest validatorHotkey requestMethod requestPath) := by
  unfold Misstates
  infer_instance

instance (issuedAt observedAt : String) : Decidable (InWindow issuedAt observedAt) := by
  unfold InWindow
  infer_instance

/-! ## The evaluator -/

/-- `StaticPublicTransportPolicy`. -/
structure StaticPublicTransportPolicy where
  manifestTrustPolicyDigestSha256 : String
  policyDigestSha256 : String
deriving DecidableEq

namespace StaticPublicTransportPolicy

/-- The members the digest covers. -/
def members (p : StaticPublicTransportPolicy) : List (String × Json) :=
  [("schema", text "miss.computer/misscomputer-subnet/static-public-transport-policy"),
    ("schema_version", .num 1), ("profile", text "public-framing-v1"), ("network", text "test"),
    ("netuid", .num 581), ("route_host_suffix", text "on.miss.computer"),
    ("manifest_trust_policy_digest_sha256", text p.manifestTrustPolicyDigestSha256)]

/-- The policy with its digest. -/
def sealed (p : StaticPublicTransportPolicy) : StaticPublicTransportPolicy :=
  { p with policyDigestSha256 := digest (document p.members) }

lemma digest_sealed (p : StaticPublicTransportPolicy) :
    p.sealed.policyDigestSha256 = digest (document p.sealed.members) := rfl

/-- The values of the contract. -/
def Valid (p : StaticPublicTransportPolicy) : Prop :=
  hex64 p.manifestTrustPolicyDigestSha256 ∧ hex64 p.policyDigestSha256 ∧
    p.policyDigestSha256 = digest (document p.members)

end StaticPublicTransportPolicy

/-- What `evaluate_static_probe` raises. -/
inductive EvaluationError
  | authorizationInvalid | endpointUnpublished | authorizationRequestMismatch
  | response (e : ResponseError) | publicTransportRouteOutOfScope | observationInvalid
deriving DecidableEq

/-- `result.code`, where a timeout of the transport is no timeout of the probe. -/
def transportFailure : TransportFailureCode → StaticFailureCode
  | .connectionFailed => .connectionFailed
  | .responseOversized => .responseOversized
  | .timeout => .transportError
  | .tlsCertificateInvalid => .tlsCertificateInvalid
  | .tlsHandshakeFailed => .tlsHandshakeFailed
  | .transportError => .transportError

/-- What is judged: the authenticated index, the request to one of its endpoints, and what is expected. -/
structure Trial where
  index : AuthenticatedIndex
  request : OrganicProbeAuthorization
  endpoint : StaticEndpointTarget
  expected : ExpectedStaticResponse
  probeKind : ProbeKind
  timeoutMillis : ℤ
  /-- `pinned_edge_leaf_certificate_sha256`. -/
  pins : List String
  /-- `public_transport_policy`. -/
  policy : Option StaticPublicTransportPolicy

/-- The document before the result is looked at. -/
def Trial.opening (t : Trial) (result : ProbeResult) : StaticProbeObservation where
  schemaVersion := if t.policy = none then .direct else .framed
  probeKind := t.probeKind
  validatorHotkey := t.request.validatorHotkey
  deploymentID := t.index.target.deploymentID
  siteDigest := t.index.target.siteDigest
  releaseDigest := t.index.target.releaseDigest
  releaseTrustPolicyDigestSha256 := t.index.trustPolicyDigestSha256
  endpointID := t.endpoint.endpointID
  generation := t.endpoint.generation
  minerUID := t.endpoint.minerUID
  minerHotkey := t.endpoint.minerHotkey
  probeNonce := t.request.nonce
  issuedAt := t.request.issuedAt
  requestMethod := t.request.method
  requestPath := t.request.path
  expectedKind := t.expected.kind
  expectedStatus := t.expected.status
  expectedContentLength := t.expected.contentLength
  expectedBodySha256 := String.ofList t.expected.bodySha256
  expectedHeaderSha256 := String.ofList t.expected.headerSha256
  latencyMillis := min (max result.latencyMillis 0) Organic.maxLatencyMillis
  outcome := .failure
  failureCode := none
  attribution := .none
  quarantineCandidate := false
  upstreamMarker := false
  responseStatus := none
  responseBytes := 0
  responseBodySha256 := none
  responseHeaderSha256 := none
  tlsLeafCertificateSha256 := result.tlsLeafCertificateSha256
  attestationStatus := .notPresented
  attestation := none
  publicFraming := t.policy ≠ none
  transportPolicyDigestSha256 := t.policy.map StaticPublicTransportPolicy.policyDigestSha256
  deliveredHTTPVersion := none
  deliveredHeaders := none
  observationDigestSha256 := ""

/-- `fail`, before the document is sealed. -/
def StaticProbeObservation.fail (o : StaticProbeObservation) (code : StaticFailureCode) :
    StaticProbeObservation :=
  { o with
    failureCode := some code
    attribution := staticFailureAttribution (some code)
    quarantineCandidate := code ∈ contentFaults }

/-- The document with what was received. -/
def Trial.received (t : Trial) (o : StaticProbeObservation) (r : ProbeResponse) : StaticProbeObservation :=
  { o with
    responseStatus := some r.status
    responseBytes := min (r.body.length : ℤ) (Static.maxFileBytes + 1)
    responseBodySha256 := some (sha256Hex r.body)
    responseHeaderSha256 := some (observedHeaderSha256 r.headers)
    deliveredHTTPVersion := if t.policy = none then none else r.httpVersion.bind HTTPVersion.of
    deliveredHeaders := if t.policy ≠ none ∧ Bounded r.headers then some r.headers else none }

/-- The document of a response whose attestation says what was observed. -/
def Trial.judgeContent (t : Trial) (o : StaticProbeObservation) (r : ProbeResponse)
    (a : MinerProbeAttestationV2) : StaticProbeObservation :=
  if t.policy ≠ none then
    if a.responseHeaderSha256.toList ≠ t.expected.headerSha256 then o.fail .contentAlteredInTransit
    else if r.status ≠ t.expected.status then o.fail .statusMismatch
    else if (sha256Hex r.body).toList ≠ t.expected.bodySha256 then o.fail .bodyMismatch
    else if (r.body.length : ℤ) ≠ (if t.request.method = .get then t.expected.contentLength else 0) then
      o.fail .contentAlteredInTransit
    else if ¬ publicFramingValid r.headers (r.httpVersion.getD "") t.request.method t.expected.contentType
        t.expected.contentLength then
      o.fail .contentAlteredInTransit
    else { o with outcome := .success }
  else if r.status ≠ t.expected.status then o.fail .statusMismatch
  else if (sha256Hex r.body).toList ≠ t.expected.bodySha256 then o.fail .bodyMismatch
  else if (observedHeaderSha256 r.headers).toList ≠ t.expected.headerSha256 then o.fail .headerMismatch
  else if hasForbiddenHeader r.headers then o.fail .forbiddenHeader
  else { o with outcome := .success }

/-- The document of a response with a signed statement of the miner. -/
def Trial.judgeStatement (t : Trial) (o : StaticProbeObservation) (r : ProbeResponse)
    (a : MinerProbeAttestationV2) : StaticProbeObservation :=
  if a.probeNonce ≠ t.request.nonce then
    { o with attestationStatus := .replayed, attestation := some a }.fail .cacheReplay
  else if Misstates a t.endpoint t.index.target.siteDigest t.request.validatorHotkey t.request.method
      t.request.path then
    { o with attestationStatus := .fraudulent, attestation := some a }.fail .attestationFraud
  else if ¬ InWindow t.request.issuedAt a.observedAt then
    { o with attestationStatus := .rejected }.fail .attestationInvalid
  else if a.responseStatus ≠ r.status ∨ a.responseBodySha256 ≠ sha256Hex r.body ∨
      (t.policy = none ∧ a.responseHeaderSha256 ≠ observedHeaderSha256 r.headers) then
    { o with attestationStatus := .rejected }.fail .contentAlteredInTransit
  else t.judgeContent { o with attestationStatus := .verified, attestation := some a } r a

/-- The statement a response presents, when its signature is the miner's. -/
def signedStatement (ed25519 : String → String → List UInt8 → Bool) (miner_service_public_key : String) :
    List String → Option MinerProbeAttestationV2
  | [value] => (parseAttestationV2Header value).filter fun a =>
      ed25519 miner_service_public_key a.signatureHex a.message
  | _ => none

/-- The document of a response. -/
def Trial.judgeResponse (t : Trial) (ed25519 : String → String → List UInt8 → Bool)
    (o : StaticProbeObservation) (r : ProbeResponse) : StaticProbeObservation :=
  if t.pins ≠ [] ∧ ∀ leaf ∈ r.tlsLeafCertificateSha256, leaf ∉ t.pins then o.fail .tlsPinMismatch
  else if headerValues r.headers upstreamResponseHeader ≠ [upstreamResponseMarker] then
    o.fail .edgeGenerated
  else
    let o := { o with upstreamMarker := true }
    if headerValues r.headers attestationHeader = [] then o.fail .attestationMissing
    else match signedStatement ed25519 t.endpoint.minerServicePublicKey
        (headerValues r.headers attestationHeader) with
      | none => { o with attestationStatus := .rejected }.fail .attestationInvalid
      | some a => t.judgeStatement o r a

/-- The document of a result. -/
def Trial.judge (t : Trial) (ed25519 : String → String → List UInt8 → Bool) (result : ProbeResult) :
    StaticProbeObservation :=
  let o := t.opening result
  if result.latencyMillis > t.timeoutMillis then o.fail .timeout
  else match result with
    | .failure f => { o with responseStatus := f.responseStatus }.fail (transportFailure f.code)
    | .response r =>
      if ¬ (100 ≤ r.status ∧ r.status ≤ 599) then o.fail .transportError
      else t.judgeResponse ed25519 (t.received o r) r

/-- `find_static_endpoint`: `none` where the source raises. -/
def findStaticEndpoint (index : AuthenticatedIndex) (endpointID : String) : Option StaticEndpointTarget :=
  index.target.endpoints.find? fun e => e.endpointID = endpointID

/-- `public_transport_policy.route_host_suffix`, after a dot. -/
def publicRouteSuffix : List Char := ".on.miss.computer".toList

/-- `evaluate_static_probe`. -/
def evaluateStaticProbe (ed25519 : String → String → List UInt8 → Bool) (index : AuthenticatedIndex)
    (authorization : OrganicProbeAuthorization) (result : ProbeResult) (probeKind : ProbeKind)
    (timeoutMillis : ℤ) (pins : List String) (policy : Option StaticPublicTransportPolicy) :
    Except EvaluationError StaticProbeObservation := do
  reject (¬ authorization.Valid) .authorizationInvalid
  match findStaticEndpoint index authorization.endpointID with
  | none => .error .endpointUnpublished
  | some endpoint => do
    reject (authorization.generation ≠ endpoint.generation) .authorizationRequestMismatch
    let expected ← (index.expectedResponse authorization.method authorization.path).mapError .response
    reject (policy ≠ none ∧ ¬ publicRouteSuffix <:+ index.target.routeHost.toList)
      .publicTransportRouteOutOfScope
    let trial : Trial := ⟨index, authorization, endpoint, expected, probeKind, timeoutMillis, pins, policy⟩
    let document := trial.judge ed25519 result
    reject (¬ document.sealed.Valid) .observationInvalid
    return document.sealed

end StaticProbe

/-! ## The check of the scorer -/

namespace StaticScoring

open StaticProbe

/-- `StaticScoringRejectionCode`. -/
inductive StaticScoringRejectionCode
  | attemptsOverflow | attestationUnverified | bodyOverCeiling | epochMismatch | epochsInvalid
  | expectationMismatch | identityConflict | indexAbstained | indexStateInvalid | networkMismatch
  | observationDuplicate | observationUnpublished | outcomeInconsistent | policyInvalid
  | probeKindInvalid | validatorMismatch
deriving DecidableEq, Repr

/-- `_attestation_status`. -/
def attestationStatus (ed25519 : String → String → List UInt8 → Bool) (obs : StaticProbeObservation)
    (siteDigest : String) (endpoint : StaticEndpointTarget) : AttestationStatus :=
  match obs.attestation with
  | none => obs.attestationStatus
  | some a =>
    if ed25519 endpoint.minerServicePublicKey a.signatureHex a.message = false then .rejected
    else if a.probeNonce ≠ obs.probeNonce then .replayed
    else if Misstates a endpoint siteDigest obs.validatorHotkey obs.requestMethod obs.requestPath then
      .fraudulent
    else if ¬ InWindow obs.issuedAt a.observedAt then .rejected
    else if some a.responseStatus ≠ obs.responseStatus ∨
        some a.responseBodySha256 ≠ obs.responseBodySha256 ∨
        (obs.schemaVersion = .direct ∧ some a.responseHeaderSha256 ≠ obs.responseHeaderSha256) then
      .rejected
    else .verified

/-- The framing of a success, against the authenticated content type. -/
def FramedSuccess (obs : StaticProbeObservation) (expected : ExpectedStaticResponse) : Prop :=
  ∃ headers ∈ obs.deliveredHeaders, ∃ version ∈ obs.deliveredHTTPVersion,
    publicFramingValid headers version.text obs.requestMethod expected.contentType expected.contentLength

instance (obs : StaticProbeObservation) (expected : ExpectedStaticResponse) :
    Decidable (FramedSuccess obs expected) := by
  unfold FramedSuccess
  infer_instance

/-- The expectation an observation records. -/
def Expects (obs : StaticProbeObservation) (expected : ExpectedStaticResponse) : Prop :=
  obs.expectedKind = expected.kind ∧ obs.expectedStatus = expected.status ∧
    obs.expectedContentLength = expected.contentLength ∧
    obs.expectedBodySha256.toList = expected.bodySha256 ∧
    obs.expectedHeaderSha256.toList = expected.headerSha256

instance (obs : StaticProbeObservation) (expected : ExpectedStaticResponse) :
    Decidable (Expects obs expected) := by
  unfold Expects
  infer_instance

/-- `_verify_observation`, for the endpoint and the response it finds. A `KeyError` of the index, which an
index built from a validated manifest never raises, is reported like a path outside the grammar. -/
def verifyObservation (ed25519 : String → String → List UInt8 → Bool) (obs : StaticProbeObservation)
    (index : AuthenticatedIndex) (probeBodyCeiling : ℤ) : Except StaticScoringRejectionCode Unit :=
  match findStaticEndpoint index obs.endpointID with
  | none => .error .observationUnpublished
  | some endpoint => do
    reject (obs.siteDigest ≠ index.target.siteDigest ∨ obs.generation ≠ endpoint.generation ∨
      obs.minerUID ≠ endpoint.minerUID ∨ obs.minerHotkey ≠ endpoint.minerHotkey) .observationUnpublished
    reject (obs.releaseDigest ≠ index.target.releaseDigest ∨
      obs.releaseTrustPolicyDigestSha256 ≠ index.trustPolicyDigestSha256) .expectationMismatch
    let expected ← (index.expectedResponse obs.requestMethod obs.requestPath).mapError
      fun _ => .expectationMismatch
    reject (¬ Expects obs expected) .expectationMismatch
    reject ((if obs.requestMethod = .get then expected.contentLength else 0) > probeBodyCeiling ∨
      obs.responseBytes > probeBodyCeiling + 1) .bodyOverCeiling
    reject (attestationStatus ed25519 obs index.target.siteDigest endpoint ≠ obs.attestationStatus)
      .attestationUnverified
    reject (obs.schemaVersion = .framed ∧ obs.outcome = .success ∧ ¬ FramedSuccess obs expected)
      .attestationUnverified
    reject (obs.schemaVersion = .framed ∧ obs.quarantineCandidate = true ∧
      ¬ obs.FaultProved expected.status (String.ofList expected.bodySha256)
        (String.ofList expected.headerSha256)) .attestationUnverified

end StaticScoring

end Misscomputer
