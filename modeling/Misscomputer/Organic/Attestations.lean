import Misscomputer.Organic.Contracts

set_option relaxedAutoImplicit false
set_option autoImplicit false

/-!
# Probes on the wire

A validator sends an authorization with each probe. A miner sends its attestation in a response header: the
base64 text of the canonical document. The reader accepts one text for each document.

## Main definitions

* `Organic.OrganicProbeAuthorization` — the authorization of one probe.

* `Organic.ProbeResponse`, `Organic.ProbeTransportFailure` — what the transport reports of a request.
* `Organic.headerValues` — the values of a header.
* `Organic.parseAttestationV2Header` — the attestation in a header.

## Main results

* `Organic.valid_of_parseAttestationV2Header` — what is read from a header is a value of the contract.

## References

* `src/misscomputer_subnet/organic_probe.py`
* `src/misscomputer_subnet/assignment_probe.py` (`ProbeResponse`, `ProbeTransportFailure`)
-/

namespace Misscomputer

namespace Organic

open Contract
open StaticIndex (Method)

/-! ## Authorizations -/

/-- `OrganicProbeAuthorization`. -/
structure OrganicProbeAuthorization where
  validatorHotkey : String
  endpointID : String
  generation : ℤ
  method : Method
  path : String
  nonce : String
  issuedAt : String
  signature : String
deriving DecidableEq

namespace OrganicProbeAuthorization

/-- The values of the contract. -/
def Valid (a : OrganicProbeAuthorization) : Prop :=
  hotkey a.validatorHotkey ∧ Contract.endpointID a.endpointID ∧ positiveCount a.generation ∧
    healthPath a.path ∧ hex64 a.nonce ∧ secondsTimestamp a.issuedAt ∧ hexSignature a.signature

instance (a : OrganicProbeAuthorization) : Decidable a.Valid := by
  unfold Valid
  infer_instance

end OrganicProbeAuthorization

/-! ## What the transport reports -/

/-- `TransportFailureCode`. -/
inductive TransportFailureCode
  | connectionFailed | responseOversized | timeout | tlsCertificateInvalid | tlsHandshakeFailed
  | transportError
deriving DecidableEq, Repr

/-- `ProbeTransportFailure`. -/
structure ProbeTransportFailure where
  code : TransportFailureCode
  latencyMillis : ℤ
  responseStatus : Option ℤ
  tlsLeafCertificateSha256 : Option String
  responseBytes : ℤ
deriving DecidableEq

/-- `ProbeResponse`. -/
structure ProbeResponse where
  status : ℤ
  headers : List (String × String)
  body : List UInt8
  latencyMillis : ℤ
  tlsLeafCertificateSha256 : Option String
  httpVersion : Option String
deriving DecidableEq

/-- What the transport reports of one request. -/
inductive ProbeResult
  | failure (f : ProbeTransportFailure)
  | response (r : ProbeResponse)
deriving DecidableEq

/-- `result.latency_millis`. -/
def ProbeResult.latencyMillis : ProbeResult → ℤ
  | failure f => f.latencyMillis
  | response r => r.latencyMillis

/-- `result.tls_leaf_certificate_sha256`. -/
def ProbeResult.tlsLeafCertificateSha256 : ProbeResult → Option String
  | failure f => f.tlsLeafCertificateSha256
  | response r => r.tlsLeafCertificateSha256

/-- `ATTESTATION_HEADER`. -/
def attestationHeader : String := "x-miss-probe-attestation"

/-- `UPSTREAM_RESPONSE_HEADER`. -/
def upstreamResponseHeader : String := "x-miss-edge-upstream"

/-- `UPSTREAM_RESPONSE_MARKER`. -/
def upstreamResponseMarker : String := "replica"

/-- `name.lower()` of an ASCII name. -/
def lowerName (name : String) : String := String.ofList (Static.lower name.toList)

/-- `_header_values`. -/
def headerValues (headers : List (String × String)) (name : String) : List String :=
  (headers.filter fun pair => lowerName pair.1 = name).map Prod.snd

/-! ## Base64 -/

/-- The digits of base64. -/
def base64Alphabet : List Char := "ABCDEFGHIJKLMNOPQRSTUVWXYZabcdefghijklmnopqrstuvwxyz0123456789+/".toList

/-- The digit of a sextet. -/
def base64Digit (n : ℕ) : Char := base64Alphabet.getD n 'A'

/-- The sextet of a digit. -/
def base64Sextet (c : Char) : Option ℕ := base64Alphabet.findIdx? (· = c)

/-- `base64.b64encode`. -/
def b64encode : List UInt8 → List Char
  | [] => []
  | [a] => [base64Digit (a.toNat / 4), base64Digit (a.toNat % 4 * 16), '=', '=']
  | [a, b] => [base64Digit (a.toNat / 4), base64Digit (a.toNat % 4 * 16 + b.toNat / 16),
      base64Digit (b.toNat % 16 * 4), '=']
  | a :: b :: c :: rest => base64Digit (a.toNat / 4) :: base64Digit (a.toNat % 4 * 16 + b.toNat / 16) ::
      base64Digit (b.toNat % 16 * 4 + c.toNat / 64) :: base64Digit (c.toNat % 64) :: b64encode rest

/-- `base64.b64decode(value, validate=True)`. -/
def b64decode : List Char → Option (List UInt8)
  | [] => some []
  | [a, b, '=', '='] => do
    let x ← base64Sextet a
    let y ← base64Sextet b
    some [UInt8.ofNat (x * 4 + y / 16)]
  | [a, b, c, '='] => do
    let x ← base64Sextet a
    let y ← base64Sextet b
    let z ← base64Sextet c
    some [UInt8.ofNat (x * 4 + y / 16), UInt8.ofNat (y % 16 * 16 + z / 4)]
  | a :: b :: c :: d :: rest => do
    let x ← base64Sextet a
    let y ← base64Sextet b
    let z ← base64Sextet c
    let w ← base64Sextet d
    let bytes ← b64decode rest
    some (UInt8.ofNat (x * 4 + y / 16) :: UInt8.ofNat (y % 16 * 16 + z / 4) ::
      UInt8.ofNat (z % 4 * 64 + w) :: bytes)
  | _ => none

/-! ## Attestations in headers -/

/-- The method of a text. -/
def methodOf (s : List Char) : Option Method :=
  if s = "GET".toList then some .get else if s = "HEAD".toList then some .head else none

/-- An attestation from a JSON value. -/
def MinerProbeAttestationV2.ofJson (j : Json) : Option MinerProbeAttestationV2 := do
  let ms ← Static.members j
  let endpointID ← Static.readString ms "endpoint_id"
  let generation ← Static.readInt ms "generation"
  let ticketDigest ← Static.readString ms "ticket_digest"
  let artifactDigest ← Static.readString ms "artifact_digest"
  let validatorHotkey ← Static.readString ms "validator_hotkey"
  let probeNonce ← Static.readString ms "probe_nonce"
  let requestMethod ← methodOf (← Static.readString ms "request_method")
  let requestPath ← Static.readString ms "request_path"
  let responseStatus ← Static.readInt ms "response_status"
  let responseBodySha256 ← Static.readString ms "response_body_sha256"
  let responseHeaderSha256 ← Static.readString ms "response_header_sha256"
  let observedAt ← Static.readString ms "observed_at"
  let signatureHex ← Static.readString ms "signature_hex"
  some
    { endpointID := .ofList endpointID
      generation := generation
      ticketDigest := .ofList ticketDigest
      artifactDigest := .ofList artifactDigest
      validatorHotkey := .ofList validatorHotkey
      probeNonce := .ofList probeNonce
      requestMethod := requestMethod
      requestPath := .ofList requestPath
      responseStatus := responseStatus
      responseBodySha256 := .ofList responseBodySha256
      responseHeaderSha256 := .ofList responseHeaderSha256
      observedAt := .ofList observedAt
      signatureHex := .ofList signatureHex }

/-- `MAX_ATTESTATION_BYTES`. -/
def maxAttestationBytes : ℕ := 8192

/-- `parse_attestation_v2_header`: `none` where the source raises. The members that can hold one value only
are part of the canonical text, with which the bytes are compared. -/
def parseAttestationV2Header (value : String) : Option MinerProbeAttestationV2 :=
  if value = "" ∨ maxAttestationBytes * 2 < value.toList.length then none
  else do
    let rendered ← b64decode value.toList
    if rendered = [] ∨ maxAttestationBytes < rendered.length ∨ b64encode rendered ≠ value.toList then none
    else do
      let a ← MinerProbeAttestationV2.ofJson (← Json.parse (← Static.asciiText rendered))
      if a.Valid ∧ rendered = canonicalJson a.toJson then some a else none

/-- **What is read from a header is a value of the contract.** -/
theorem valid_of_parseAttestationV2Header {value : String} {a : MinerProbeAttestationV2}
    (h : parseAttestationV2Header value = some a) : a.Valid := by
  simp only [parseAttestationV2Header, Option.bind_eq_bind, Option.bind_eq_some_iff,
    Option.ite_none_left_eq_some, Option.ite_none_right_eq_some] at h
  obtain ⟨-, -, -, -, -, -, -, -, a', -, ⟨hvalid, -⟩, ha⟩ := h
  obtain rfl := Option.some.inj ha
  exact hvalid

end Organic

end Misscomputer
