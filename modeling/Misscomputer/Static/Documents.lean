import Misscomputer.Contract.Parsing
import Misscomputer.Static.Observation

set_option relaxedAutoImplicit false
set_option autoImplicit false

/-!
# Observations read back

How an observation of a static probe and the attestation in it are read from their documents.

## Main definitions

* `Organic.MinerProbeAttestationV2.ofJson` — an attestation from its document.
* `StaticProbe.StaticProbeObservation.model` — the contract of observations.

## References

* `src/misscomputer_subnet/organic_contracts.py`
* `src/misscomputer_subnet/static_probe.py`
-/

namespace Misscomputer

open Contract

/-! ## Literals -/

namespace StaticIndex

/-- The methods of a request. -/
def Method.all : List Method := [.get, .head]

lemma Method.mem_all (a : Method) : a ∈ all := by cases a <;> simp [all]

lemma Method.nodup_text : (all.map text).Nodup := by simp [all, text]

/-- The kinds of a response. -/
def ResponseKind.all : List ResponseKind := [.directoryIndex, .file, .navigationFallback, .notFound]

lemma ResponseKind.mem_all (a : ResponseKind) : a ∈ all := by cases a <;> simp [all]

lemma ResponseKind.nodup_text : (all.map text).Nodup := by simp [all, text]

end StaticIndex

namespace Organic

/-- The outcomes of a probe. -/
def ProbeOutcome.all : List ProbeOutcome := [.failure, .success]

lemma ProbeOutcome.mem_all (a : ProbeOutcome) : a ∈ all := by cases a <;> simp [all]

lemma ProbeOutcome.nodup_text : (all.map text).Nodup := by simp [all, text]

end Organic

namespace StaticProbe

def ProbeKind.all : List ProbeKind := [.admission, .hidden]

lemma ProbeKind.mem_all (a : ProbeKind) : a ∈ all := by cases a <;> simp [all]

lemma ProbeKind.nodup_text : (all.map text).Nodup := by simp [all, text]

def Attribution.all : List Attribution := [.miner, .none, .path]

lemma Attribution.mem_all (a : Attribution) : a ∈ all := by cases a <;> simp [all]

lemma Attribution.nodup_text : (all.map text).Nodup := by simp [all, text]

def AttestationStatus.all : List AttestationStatus := [.fraudulent, .notPresented, .rejected, .replayed, .verified]

lemma AttestationStatus.mem_all (a : AttestationStatus) : a ∈ all := by cases a <;> simp [all]

lemma AttestationStatus.nodup_text : (all.map text).Nodup := by simp [all, text]

/-- The failure codes. -/
def StaticFailureCode.all : List StaticFailureCode :=
  [.attestationFraud, .attestationInvalid, .attestationMissing, .bodyMismatch, .cacheReplay, .connectionFailed,
    .contentAlteredInTransit, .edgeGenerated, .forbiddenHeader, .headerMismatch, .responseOversized,
    .statusMismatch, .timeout, .tlsCertificateInvalid, .tlsHandshakeFailed, .tlsPinMismatch, .transportError]

lemma StaticFailureCode.mem_all (a : StaticFailureCode) : a ∈ all := by cases a <;> simp [all]

lemma StaticFailureCode.nodup_text : (all.map text).Nodup := by simp [all, text]

/-- The versions of a response. -/
def HTTPVersion.all : List HTTPVersion := [.http11, .http2, .http3]

lemma HTTPVersion.mem_all (a : HTTPVersion) : a ∈ all := by cases a <;> simp [all]

lemma HTTPVersion.nodup_text : (all.map text).Nodup := by simp [all, text]

/-- `schema_version` of an observation. -/
def readVersion (j : Json) : Option Version :=
  (readInt j).bind fun n => [Version.direct, .framed].find? fun v => v.number = n

@[simp] lemma readVersion_number (v : Version) : readVersion (.num v.number) = some v := by
  cases v <;> rfl

end StaticProbe

/-! ## Attestations -/

namespace Contract

variable {members : List (String × Json)} {key : String}

lemma lookup_eq_get {ν : Type} (d : List (List Char × ν)) (k : List Char) : d.lookup k = Dict.get d k := by
  induction d with
  | nil => rfl
  | cons e d ih =>
    rw [Dict.get_cons, List.lookup_cons, ih]
    by_cases h : k = e.1
    · rw [if_pos h, beq_iff_eq.mpr h]
    · rw [if_neg h, beq_eq_false_iff_ne.mpr h]

/-- A string member of a document. -/
lemma readString_document (hnodup : (members.map Prod.fst).Nodup) {s : String} (hm : (key, text s) ∈ members) :
    Static.readString (Sorting.sortOn Prod.fst (members.map fun m => (m.1.toList, m.2))) key = some s.toList := by
  have hget := get_document hnodup hm
  dsimp only at hget
  rw [Static.readString, lookup_eq_get, hget]
  rfl

/-- An integer member of a document. -/
lemma readInt_document (hnodup : (members.map Prod.fst).Nodup) {n : ℤ} (hm : (key, .num n) ∈ members) :
    Static.readInt (Sorting.sortOn Prod.fst (members.map fun m => (m.1.toList, m.2))) key = some n := by
  have hget := get_document hnodup hm
  dsimp only at hget
  rw [Static.readInt, lookup_eq_get, hget]

end Contract

namespace Organic.MinerProbeAttestationV2

open StaticIndex (Method)

/-- The members of an attestation. -/
def members (a : MinerProbeAttestationV2) : List (String × Json) :=
  [("schema", text "miss.computer/misscomputer-subnet/miner-probe-attestation"), ("schema_version", .num 2)] ++
    a.signedMembers ++ [("signature_hex", text a.signatureHex)]

lemma nodup_keys (a : MinerProbeAttestationV2) : (a.members.map Prod.fst).Nodup := by
  simp [members, signedMembers]

lemma methodOf_text (m : Method) : methodOf m.text.toList = some m := by
  cases m <;> rfl

/-- An attestation is read back from its document. -/
@[simp] lemma ofJson_toJson (a : MinerProbeAttestationV2) : ofJson a.toJson = some a := by
  have hstr : ∀ (i : ℕ) {key s : String}, a.members[i]? = some (key, text s) →
      Static.readString (Sorting.sortOn Prod.fst (a.members.map fun m => (m.1.toList, m.2))) key = some s.toList :=
    fun i _ _ h => readString_document a.nodup_keys (List.mem_of_getElem? h)
  have hint : ∀ (i : ℕ) {key : String} {n : ℤ}, a.members[i]? = some (key, .num n) →
      Static.readInt (Sorting.sortOn Prod.fst (a.members.map fun m => (m.1.toList, m.2))) key = some n :=
    fun i _ _ h => readInt_document a.nodup_keys (List.mem_of_getElem? h)
  have hmembers : a.toJson = document a.members := rfl
  rw [hmembers, document, ofJson, Static.members, Option.bind_eq_bind, Option.bind_some]
  generalize Sorting.sortOn Prod.fst (a.members.map fun m => (m.1.toList, m.2)) = ms at hstr hint ⊢
  simp only [hstr 2 rfl, hint 3 rfl, hstr 4 rfl, hstr 5 rfl, hstr 6 rfl, hstr 7 rfl, hstr 8 rfl, hstr 9 rfl,
    hint 10 rfl, hstr 11 rfl, hstr 12 rfl, hstr 13 rfl, hstr 14 rfl, methodOf_text, Option.bind_eq_bind,
    Option.bind_some, String.ofList_toList]

lemma wellKeyed_toJson (a : MinerProbeAttestationV2) : a.toJson.WellKeyed := by
  refine wellKeyed_document a.nodup_keys ?_
  simp [signedMembers, text, Json.WellKeyed]

end Organic.MinerProbeAttestationV2

/-! ## Observations -/

namespace StaticProbe

open Organic (MinerProbeAttestationV2 ProbeOutcome)
open StaticIndex (Method ResponseKind)

/-- The members every observation has. -/
def observationKeys : List String :=
  ["schema", "schema_version", "probe_kind", "validator_hotkey", "deployment_id", "site_digest", "release_digest",
    "release_trust_policy_digest_sha256", "endpoint_id", "generation", "miner_uid", "miner_hotkey", "probe_nonce",
    "issued_at", "request_method", "request_path", "expected_kind", "expected_status", "expected_content_length",
    "expected_body_sha256", "expected_header_sha256", "latency_millis", "outcome", "failure_code", "attribution",
    "quarantine_candidate", "upstream_marker", "response_status", "response_bytes", "response_body_sha256",
    "response_header_sha256", "tls_leaf_certificate_sha256", "attestation_status", "attestation",
    "observation_digest_sha256"]

/-- The members that default to null. -/
def framingDefaults : List (String × Json) :=
  [("transport_profile", .null), ("transport_policy_digest_sha256", .null), ("delivered_http_version", .null),
    ("delivered_headers", .null)]

/-- A header. -/
def readPair : Json → Option (String × String)
  | .arr [name, value] => do return (← readText name, ← readText value)
  | _ => none

/-- `transport_profile`: whether it is there. -/
def readProfile (j : Json) : Option Bool := do
  match ← readOptional readText j with
  | none => some false
  | some profile => if profile = "public-framing-v1" then some true else none

/-- An observation from the values of its members. -/
def observationOfValues : List Json → Option StaticProbeObservation
  | schema :: schemaVersion :: probeKind :: validatorHotkey :: deploymentID :: siteDigest :: releaseDigest ::
      releaseTrustPolicyDigestSha256 :: endpoint :: generation :: minerUID :: minerHotkey :: probeNonce ::
      issuedAt :: requestMethod :: requestPath :: expectedKind :: expectedStatus :: expectedContentLength ::
      expectedBodySha256 :: expectedHeaderSha256 :: latencyMillis :: outcome :: failureCode :: attribution ::
      quarantineCandidate :: upstreamMarker :: responseStatus :: responseBytes :: responseBodySha256 ::
      responseHeaderSha256 :: tlsLeafCertificateSha256 :: attestationStatus :: attestation ::
      observationDigestSha256 :: transportProfile :: transportPolicyDigestSha256 :: deliveredHTTPVersion ::
      [deliveredHeaders] => do
    guard (readText schema = some "miss.computer/misscomputer-subnet/static-probe-observation")
    return {
      schemaVersion := ← readVersion schemaVersion
      probeKind := ← readLiteral ProbeKind.all ProbeKind.text probeKind
      validatorHotkey := ← readText validatorHotkey
      deploymentID := ← readText deploymentID
      siteDigest := ← readText siteDigest
      releaseDigest := ← readText releaseDigest
      releaseTrustPolicyDigestSha256 := ← readText releaseTrustPolicyDigestSha256
      endpointID := ← readText endpoint
      generation := ← readInt generation
      minerUID := ← readInt minerUID
      minerHotkey := ← readText minerHotkey
      probeNonce := ← readText probeNonce
      issuedAt := ← readText issuedAt
      requestMethod := ← readLiteral Method.all Method.text requestMethod
      requestPath := ← readText requestPath
      expectedKind := ← readLiteral ResponseKind.all ResponseKind.text expectedKind
      expectedStatus := ← readInt expectedStatus
      expectedContentLength := ← readInt expectedContentLength
      expectedBodySha256 := ← readText expectedBodySha256
      expectedHeaderSha256 := ← readText expectedHeaderSha256
      latencyMillis := ← readInt latencyMillis
      outcome := ← readLiteral ProbeOutcome.all ProbeOutcome.text outcome
      failureCode := ← readOptional (readLiteral StaticFailureCode.all StaticFailureCode.text) failureCode
      attribution := ← readLiteral Attribution.all Attribution.text attribution
      quarantineCandidate := ← readBool quarantineCandidate
      upstreamMarker := ← readBool upstreamMarker
      responseStatus := ← readOptional readInt responseStatus
      responseBytes := ← readInt responseBytes
      responseBodySha256 := ← readOptional readText responseBodySha256
      responseHeaderSha256 := ← readOptional readText responseHeaderSha256
      tlsLeafCertificateSha256 := ← readOptional readText tlsLeafCertificateSha256
      attestationStatus := ← readLiteral AttestationStatus.all AttestationStatus.text attestationStatus
      attestation := ← readOptional MinerProbeAttestationV2.ofJson attestation
      publicFraming := ← readProfile transportProfile
      transportPolicyDigestSha256 := ← readOptional readText transportPolicyDigestSha256
      deliveredHTTPVersion := ← readOptional (readLiteral HTTPVersion.all HTTPVersion.text) deliveredHTTPVersion
      deliveredHeaders := ← readOptional (readList readPair) deliveredHeaders
      observationDigestSha256 := ← readText observationDigestSha256 }
  | _ => none

/-- An observation from its document. -/
def StaticProbeObservation.ofJson (j : Json) : Option StaticProbeObservation :=
  (memberValues observationKeys framingDefaults j).bind observationOfValues

lemma nodup_observationKeys : (observationKeys ++ framingDefaults.map Prod.fst).Nodup := by
  simp [observationKeys, framingDefaults]

lemma readProfile_member (b : Bool) :
    readProfile (if b then Contract.text "public-framing-v1" else .null) = some b := by
  cases b with
  | false => rfl
  | true =>
    rw [if_pos rfl, readProfile, readOptional, readText_text]
    · rfl
    · nofun

lemma readPair_arr (pair : String × String) : readPair (.arr [Contract.text pair.1, Contract.text pair.2]) = some pair := by
  rw [readPair, readText_text, readText_text]
  rfl

namespace StaticProbeObservation

/-- The members of every observation. -/
def common (o : StaticProbeObservation) : List (String × Json) :=
  o.members.take 34 ++ [("observation_digest_sha256", Contract.text o.observationDigestSha256)]

lemma keys_common (o : StaticProbeObservation) : o.common.map Prod.fst = observationKeys := rfl

lemma toJson_direct {o : StaticProbeObservation} (h : o.schemaVersion = .direct) : o.toJson = document o.common := by
  rw [toJson, common, members, h]
  rfl

lemma toJson_framed {o : StaticProbeObservation} (h : o.schemaVersion = .framed) :
    o.toJson = document (o.common ++ o.framingMembers) := by
  have hmembers : o.members = o.members.take 34 ++ o.framingMembers := by
    rw [members, h]
    rfl
  rw [toJson, common]
  conv_lhs => rw [hmembers]
  refine document_congr ?_ ?_
  · rw [List.append_assoc, List.append_assoc]
    exact List.Perm.append_left _ List.perm_append_comm
  · have hperm : ((o.members.take 34 ++ o.framingMembers ++
        [("observation_digest_sha256", Contract.text o.observationDigestSha256)]).map Prod.fst).Perm
        (observationKeys ++ framingDefaults.map Prod.fst) := by
      rw [← o.keys_common, common, List.map_append, List.map_append, List.map_append, List.append_assoc,
        List.append_assoc]
      exact List.Perm.append_left _ List.perm_append_comm
    exact hperm.nodup_iff.mpr nodup_observationKeys

/-- **An observation is read back from its document.** -/
lemma ofJson_toJson {o : StaticProbeObservation} (h : o.ProfileValid) : ofJson o.toJson = some o := by
  have hattestation : readOptional MinerProbeAttestationV2.ofJson
      (optional MinerProbeAttestationV2.toJson o.attestation) = some o.attestation :=
    readOptional_optional fun a _ => ⟨nofun, a.ofJson_toJson⟩
  have hversion := readOptional_literal HTTPVersion.nodup_text (a := o.deliveredHTTPVersion)
    fun v _ => v.mem_all
  have hheaders : readOptional (readList readPair) (optional (fun headers => .arr (headers.map fun pair =>
      .arr [Contract.text pair.1, Contract.text pair.2])) o.deliveredHeaders) = some o.deliveredHeaders :=
    readOptional_optional fun headers _ => ⟨nofun, readList_arr fun pair _ => readPair_arr pair⟩
  have hcode := readOptional_literal StaticFailureCode.nodup_text (a := o.failureCode) fun c _ => c.mem_all
  have hkind := readLiteral_text ProbeKind.nodup_text o.probeKind.mem_all
  have hmethod := readLiteral_text Method.nodup_text o.requestMethod.mem_all
  have hexpected := readLiteral_text ResponseKind.nodup_text o.expectedKind.mem_all
  have houtcome := readLiteral_text ProbeOutcome.nodup_text o.outcome.mem_all
  have hattribution := readLiteral_text Attribution.nodup_text o.attribution.mem_all
  have hstatus := readLiteral_text AttestationStatus.nodup_text o.attestationStatus.mem_all
  rw [ofJson]
  cases hschema : o.schemaVersion with
  | direct =>
    have hnodup : ((o.common ++ framingDefaults).map Prod.fst).Nodup := by
      rw [List.map_append, o.keys_common]
      exact nodup_observationKeys
    rw [toJson_direct hschema, ← o.keys_common, memberValues_document hnodup, Option.bind_some]
    rw [ProfileValid, hschema] at h
    obtain ⟨hframing, hpolicy, hhttp, hdelivered⟩ := h
    simp [common, members, framingDefaults, observationOfValues, hattestation, hcode, hkind, hmethod, hexpected,
      houtcome, hattribution, hstatus, readProfile]
    rw [← hframing, ← hpolicy, ← hhttp, ← hdelivered]
  | framed =>
    have hmore : o.framingMembers.map Prod.fst = framingDefaults.map Prod.fst := rfl
    have hnodup : ((o.common ++ o.framingMembers).map Prod.fst).Nodup := by
      rw [List.map_append, o.keys_common, hmore]
      exact nodup_observationKeys
    rw [toJson_framed hschema, ← o.keys_common, memberValues_document_full hnodup hmore, Option.bind_some]
    simp [common, members, framingMembers, observationOfValues, hattestation, hcode, hkind, hmethod, hexpected,
      houtcome, hattribution, hstatus, hversion, hheaders, readProfile_member]

lemma wellKeyed_optional {α : Type} {render : α → Json} (h : ∀ x, (render x).WellKeyed) (a : Option α) :
    (optional render a).WellKeyed := by
  cases a with
  | none => trivial
  | some x => exact h x

lemma wellKeyed_common (o : StaticProbeObservation) : ∀ m ∈ o.common, m.2.WellKeyed := by
  have htext : ∀ s, (Contract.text s).WellKeyed := fun _ => trivial
  have hnum : ∀ n, (Json.num n).WellKeyed := fun _ => trivial
  have hbool : ∀ b, (Json.bool b).WellKeyed := fun _ => trivial
  simp [common, members, htext, hnum, hbool, wellKeyed_optional, MinerProbeAttestationV2.wellKeyed_toJson]

lemma wellKeyed_framingMembers (o : StaticProbeObservation) : ∀ m ∈ o.framingMembers, m.2.WellKeyed := by
  have htext : ∀ s, (Contract.text s).WellKeyed := fun _ => trivial
  have hheaders : ∀ headers : List (String × String),
      (Json.arr (headers.map fun pair => .arr [Contract.text pair.1, Contract.text pair.2])).WellKeyed := by
    intro headers
    refine Json.wellKeyedItems_iff.mpr fun item hitem => ?_
    obtain ⟨pair, -, rfl⟩ := List.mem_map.mp hitem
    exact ⟨trivial, trivial, trivial⟩
  have hprofile : (if o.publicFraming then Contract.text "public-framing-v1" else .null).WellKeyed := by
    split <;> trivial
  simp [framingMembers, htext, hheaders, wellKeyed_optional, hprofile]

/-- No key stands twice in the document of an observation. -/
lemma wellKeyed_toJson (o : StaticProbeObservation) : o.toJson.WellKeyed := by
  cases hschema : o.schemaVersion with
  | direct =>
    rw [toJson_direct hschema]
    refine wellKeyed_document ?_ o.wellKeyed_common
    rw [o.keys_common]
    have h := nodup_observationKeys
    exact h.of_append_left
  | framed =>
    rw [toJson_framed hschema]
    refine wellKeyed_document ?_ (List.forall_mem_append.mpr ⟨o.wellKeyed_common, o.wellKeyed_framingMembers⟩)
    rw [List.map_append, o.keys_common]
    exact nodup_observationKeys

/-- The contract of observations. -/
def model : Model StaticProbeObservation where
  toJson := toJson
  ofJson := ofJson
  Valid := Valid
  decidable := inferInstance
  ofJson_toJson := fun _ h => ofJson_toJson h.2.2.1.1
  wellKeyed := fun o _ => o.wellKeyed_toJson

end StaticProbeObservation

end StaticProbe

end Misscomputer
