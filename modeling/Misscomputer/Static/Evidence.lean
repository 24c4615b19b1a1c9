import Misscomputer.Static.Evaluation

set_option relaxedAutoImplicit false
set_option autoImplicit false

/-!
# Every result becomes one scorable observation

The evaluator, the contract of observations and the scorer state the permitted combinations of an
observation's fields separately. Here they are compared: for which results of the transport does the
evaluator seal an observation, and does the scorer accept it.

## Main definitions

* `StaticIndex.AuthenticatedIndex.Verified` — what an authenticated index is known to satisfy.
* `StaticProbe.Sealable` — the results of the transport that can be sealed.
* `StaticProbe.Trial.Accepted` — a document that is valid once it is sealed, and accepted by the scorer.

## Main results

* `StaticProbe.judge_accepted` — the document of a result that can be sealed is accepted.
* `StaticProbe.evaluate_scorable_iff` — the evaluator returns a scorable observation exactly for the results
  that can be sealed.

## References

* `src/misscomputer_subnet/static_probe.py`
* `src/misscomputer_subnet/static_scoring.py`
-/

namespace Misscomputer

open Contract
open Except (reject)
open Organic (MinerProbeAttestationV2 OrganicProbeAuthorization ProbeResult ProbeResponse headerValues
  parseAttestationV2Header attestationHeader upstreamResponseHeader upstreamResponseMarker)
open Static (Manifest File)

/-! ## What is expected of an endpoint -/

namespace StaticIndex

/-- A loop that stores its files in a table stores no others. -/
lemma mem_foldl_table (step : List (List Char × File) → File → List (List Char × File))
    (hstep : ∀ table item, ∀ entry ∈ step table item, entry ∈ table ∨ entry.2 = item) (files : List File)
    (table : List (List Char × File)) :
    ∀ entry ∈ files.foldl step table, entry ∈ table ∨ entry.2 ∈ files := by
  induction files generalizing table with
  | nil => exact fun entry hentry => Or.inl hentry
  | cons item files ih =>
    intro entry hentry
    rcases ih (step table item) entry hentry with htable | hmem
    · rcases hstep table item entry htable with htable | rfl
      · exact Or.inl htable
      · exact Or.inr List.mem_cons_self
    · exact Or.inr (List.mem_cons_of_mem _ hmem)

/-- The files of the table are those of the manifest. -/
lemma mem_of_lookup_routes {m : Manifest} {path : List Char} {item : File}
    (h : (routes m).lookup path = some item) : item ∈ m.files := by
  obtain ⟨before, after, htable, -⟩ := List.lookup_eq_some_iff.mp h
  have hentry : (path, item) ∈ routes m := by
    rw [htable]
    simp
  have hindexes := mem_foldl_table (fun table item =>
    if Static.lastSegment item.path = Static.indexName then
      (item.path.take (item.path.length - Static.indexName.length), item) :: table
    else table) (by
      intro table item entry hentry
      by_cases hindex : Static.lastSegment item.path = Static.indexName
      · simp only [if_pos hindex, List.mem_cons] at hentry
        exact hentry.symm.imp id fun h => congrArg Prod.snd h
      · simp only [if_neg hindex] at hentry
        exact Or.inl hentry)
  have hfiles := mem_foldl_table (fun table item => (item.path, item) :: table) (by
    intro table item entry hentry
    exact (List.mem_cons.mp hentry).symm.imp id fun h => congrArg Prod.snd h)
  rcases hindexes _ _ _ hentry with hmem | hmem
  · rcases hfiles _ _ _ hmem with hnil | hmem
    · cases hnil
    · exact hmem
  · exact hmem

/-- What an authenticated index is known to satisfy: the manifest and the deployment are values of their
contracts, and the table is that of the manifest. -/
structure AuthenticatedIndex.Verified (index : AuthenticatedIndex) : Prop where
  manifestValid : validate index.manifest = .ok ()
  routesOf : index.routes = routes index.manifest
  targetValid : index.target.Valid
  policyDigest : hex64 index.trustPolicyDigestSha256 = true

/-- What an expected response is known to satisfy. -/
structure Expectable (e : ExpectedStaticResponse) : Prop where
  status : Contract.status e.status = true
  length : 0 ≤ e.contentLength ∧ e.contentLength ≤ Static.maxFileBytes
  body : hex64 (String.ofList e.bodySha256) = true
  header : hex64 (String.ofList e.headerSha256) = true

lemma hex64_of_validHex64 {s : List Char} (h : Static.validHex64 s = true) :
    hex64 (String.ofList s) = true := by
  rw [Static.validHex64, Bool.and_eq_true, decide_eq_true_eq] at h
  rw [hex64, Protocol.lowercaseHex, String.toList_ofList, Bool.and_eq_true, beq_iff_eq]
  exact ⟨h.1, h.2⟩

/-- The response built from a length, a body digest and a status in their ranges. -/
lemma expectable_expected {path : List Char} {method : Method} {kind : ResponseKind} {status : ℕ}
    {contentType : List Char} {contentLength : ℤ} {body : List Char}
    (hstatus : Contract.status status = true)
    (hlength : 0 ≤ contentLength ∧ contentLength ≤ Static.maxFileBytes)
    (hbody : hex64 (String.ofList body) = true) :
    Expectable (expected bodyDigest pairsDigest path method kind status contentType contentLength body) := by
  refine ⟨hstatus, hlength, ?_, ?_⟩
  · unfold expected
    dsimp only
    by_cases hget : method = .get
    · rwa [if_pos hget]
    · rw [if_neg hget, bodyDigest, String.ofList_toList]
      exact hex64_sha256Hex _
  · unfold expected Static.responseHeaderSha256
    dsimp only
    rw [pairsDigest, String.ofList_toList]
    exact hex64_digest _

/-- **A verified index expects something of every valid path**, with a length that does not depend on the
method. -/
lemma AuthenticatedIndex.Verified.expectedResponse {index : AuthenticatedIndex} (h : index.Verified)
    (method : Method) {path : String} (hpath : validateRequestPath path.toList = .ok ()) :
    ∃ e, index.expectedResponse method path = .ok e ∧ Expectable e ∧
      ∃ e', index.expectedResponse .get path = .ok e' ∧ e'.contentLength = e.contentLength := by
  have hrules := (Static.index_validate_ok index.manifest).mp h.manifestValid
  have hlisted : ∀ {p : List Char} {item : File}, index.routes.lookup p = some item →
      Static.FileRules item := by
    intro p item hitem
    rw [h.routesOf] at hitem
    exact hrules.file item (mem_of_lookup_routes hitem)
  have hfile : ∀ (kind : ResponseKind) {p : List Char} {item : File}, index.routes.lookup p = some item →
      Expectable (expectedFile bodyDigest pairsDigest path.toList method kind item) := by
    intro kind p item hitem
    have hitem := hlisted hitem
    exact expectable_expected (by decide) ⟨hitem.nonneg, hitem.le_max⟩ (hex64_of_validHex64 hitem.digest)
  have hmissing : Expectable (expectedNotFound bodyDigest pairsDigest path.toList method) := by
    apply expectable_expected (by decide) (by decide)
    rw [bodyDigest, String.ofList_toList]
    exact hex64_sha256Hex _
  unfold AuthenticatedIndex.expectedResponse expectedStaticResponse
  rw [hpath]
  dsimp only
  cases hroute : index.routes.lookup path.toList with
  | some item => exact ⟨_, rfl, hfile _ hroute, _, rfl, rfl⟩
  | none =>
    dsimp only
    cases hdeclared : index.manifest.fallback with
    | none => exact ⟨_, rfl, hmissing, _, rfl, rfl⟩
    | some fallback =>
      dsimp only
      by_cases hdot : '.' ∉ Static.lastSegment path.toList
      · obtain ⟨-, file, hmem, htarget, -⟩ := hrules.fallback fallback hdeclared
        obtain ⟨found, hfound⟩ := Static.exists_lookup_of_listed hmem
        rw [htarget, ← h.routesOf] at hfound
        simp only [if_pos hdot, hfound]
        exact ⟨_, rfl, hfile _ hfound, _, rfl, rfl⟩
      · simp only [if_neg hdot]
        exact ⟨_, rfl, hmissing, _, rfl, rfl⟩

end StaticIndex

/-! ## Sealing a document -/

namespace StaticProbe

open StaticIndex (AuthenticatedIndex Expectable)
open StaticScoring (FramedSuccess attestationStatus verifyObservation)

/-- What is known of a trial: it is about a published endpoint and an expected response within the
ceiling. -/
structure Trial.Sound (t : Trial) (ceiling : ℤ) : Prop where
  requestValid : t.request.Valid
  targetValid : t.index.target.Valid
  policyDigest : hex64 t.index.trustPolicyDigestSha256 = true
  published : findStaticEndpoint t.index t.endpoint.endpointID = some t.endpoint
  expects : t.index.expectedResponse t.request.method t.request.path = .ok t.expected
  expectable : Expectable t.expected
  ceiling : (if t.request.method = .get then t.expected.contentLength else 0) ≤ ceiling
  transport : ∀ p ∈ t.policy, hex64 p.policyDigestSha256 = true

/-- The document is about the trial. -/
def Trial.About (t : Trial) (o : StaticProbeObservation) : Prop :=
  (o.schemaVersion = (if t.policy = none then .direct else .framed)) ∧
    (o.endpointID = t.endpoint.endpointID ∧ o.siteDigest = t.index.target.siteDigest ∧
      o.generation = t.endpoint.generation ∧ o.minerUID = t.endpoint.minerUID ∧
      o.minerHotkey = t.endpoint.minerHotkey ∧ o.releaseDigest = t.index.target.releaseDigest ∧
      o.releaseTrustPolicyDigestSha256 = t.index.trustPolicyDigestSha256) ∧
    (o.validatorHotkey = t.request.validatorHotkey ∧ o.probeNonce = t.request.nonce ∧
      o.issuedAt = t.request.issuedAt ∧ o.requestMethod = t.request.method ∧
      o.requestPath = t.request.path) ∧
    o.expectedKind = t.expected.kind ∧ o.expectedStatus = t.expected.status ∧
    o.expectedContentLength = t.expected.contentLength ∧
    o.expectedBodySha256 = String.ofList t.expected.bodySha256 ∧
    o.expectedHeaderSha256 = String.ofList t.expected.headerSha256

/-- A document that can still fail: about the trial, with its fields and its transport in order. -/
def Trial.Pending (t : Trial) (ceiling : ℤ) (o : StaticProbeObservation) : Prop :=
  t.About o ∧ o.DocumentValid ∧ o.ProfileValid ∧ o.DeliveredValid ∧ o.outcome = .failure ∧
    o.responseBytes ≤ ceiling + 1

/-- A document that is valid once it is sealed, and then accepted by the scorer. -/
def Trial.Accepted (t : Trial) (ed25519 : String → String → List UInt8 → Bool) (ceiling : ℤ)
    (o : StaticProbeObservation) : Prop :=
  o.sealed.Valid ∧ verifyObservation ed25519 o.sealed t.index ceiling = .ok ()

variable {t : Trial} {ed25519 : String → String → List UInt8 → Bool} {ceiling : ℤ}
  {o : StaticProbeObservation}

/-- **What the scorer checks of a document about the trial.** -/
lemma verifyObservation_of_about (ht : t.Sound ceiling) (ho : t.About o)
    (hbytes : o.responseBytes ≤ ceiling + 1)
    (hstatus : attestationStatus ed25519 o t.index.target.siteDigest t.endpoint = o.attestationStatus)
    (hsuccess : o.schemaVersion = .framed → o.outcome = .success → FramedSuccess o t.expected)
    (hfault : o.schemaVersion = .framed → o.quarantineCandidate = true →
      o.FaultProved o.expectedStatus o.expectedBodySha256 o.expectedHeaderSha256) :
    verifyObservation ed25519 o t.index ceiling = .ok () := by
  obtain ⟨-, ⟨hend, hsite, hgen, huid, hkey, hrel, hpol⟩, ⟨-, -, -, hmethod, hpath⟩, hkind, hst, hlen,
    hbody, hheader⟩ := ho
  rw [verifyObservation, hend, ht.published]
  simp only [Except.bind_eq_ok, Except.reject_eq_ok, Except.mapError_eq_ok, exists_const]
  refine ⟨?_, ?_, t.expected, ?_, ?_, ?_, ?_, ?_, ?_⟩
  · simp [hsite, hgen, huid, hkey]
  · simp [hrel, hpol]
  · rw [hmethod, hpath]
    exact ht.expects
  · rw [not_not]
    exact ⟨hkind, hst, hlen, by rw [hbody, String.toList_ofList], by rw [hheader, String.toList_ofList]⟩
  · rw [hmethod]
    have := ht.ceiling
    omega
  · rw [not_not]
    exact hstatus
  · rintro ⟨hframed, hout, hnot⟩
    exact hnot (hsuccess hframed hout)
  · rintro ⟨hframed, hcandidate, hnot⟩
    apply hnot
    rw [← hst, ← hbody, ← hheader]
    exact hfault hframed hcandidate

/-- The statuses under which an attestation is embedded. -/
lemma binds_of_status (ho : t.About o) {a : MinerProbeAttestationV2} (ha : o.attestation = some a)
    (hstatus : attestationStatus ed25519 o t.index.target.siteDigest t.endpoint = .verified) :
    o.Binds a := by
  rw [attestationStatus, ha] at hstatus
  dsimp only at hstatus
  split_ifs at hstatus with hkey hnonce hmis hwindow hsame
  push Not at hnonce hsame
  have hendpoint : a.endpointID = t.endpoint.endpointID := by
    by_contra hne
    exact hmis (Or.inl hne)
  refine ⟨hendpoint.trans ho.2.1.1.symm, hnonce, hsame.1.symm, hsame.2.1.symm, fun hdirect => ?_⟩
  exact (hsame.2.2 hdirect).symm

/-- **A failure is accepted** when its attestation is in order: an attestation is embedded exactly under the
statuses that need one, fraud is the code of a fraudulent statement, the scorer derives the same status, a
content fault of a framed observation is proved, and the miner is charged behind the marker only. -/
lemma accepted_fail (ht : t.Sound ceiling) (ho : t.Pending ceiling o) {code : StaticFailureCode}
    (hembedded : o.attestationStatus ∈ [.fraudulent, .replayed, .verified] ↔ o.attestation ≠ none)
    (hfraud : o.attestationStatus = .fraudulent ↔ code = .attestationFraud)
    (hstatus : attestationStatus ed25519 o t.index.target.siteDigest t.endpoint = o.attestationStatus)
    (hfault : o.schemaVersion = .framed → code ∈ contentFaults → o.attestationStatus = .verified ∧
      (o.fail code).FaultProved o.expectedStatus o.expectedBodySha256 o.expectedHeaderSha256)
    (hmarker : code.attribution = .miner → o.upstreamMarker = true) :
    t.Accepted ed25519 ceiling (o.fail code) := by
  obtain ⟨habout, hdocument, hprofile, hdelivered, houtcome, hbytes⟩ := ho
  have hcandidate : (o.fail code).quarantineCandidate = true ↔ code ∈ contentFaults := decide_eq_true_iff
  have hnosuccess : (o.fail code).outcome ≠ .success := by
    change o.outcome ≠ .success
    rw [houtcome]
    decide
  constructor
  · rw [StaticProbeObservation.sealed_valid_iff]
    refine ⟨hdocument, hprofile, hdelivered, ?_, rfl, ?_, fun h => absurd h hnosuccess, hembedded, ?_, ?_,
      fun _ h => absurd h hnosuccess, ?_, hmarker⟩
    · exact iff_of_false hnosuccess (by simp [StaticProbeObservation.fail])
    · rw [hcandidate]
      simp [StaticProbeObservation.fail]
    · change o.attestationStatus = .fraudulent ↔ some code = some .attestationFraud
      rw [hfraud, Option.some.injEq]
    · intro hverified a ha
      exact binds_of_status habout ha (hstatus.trans hverified)
    · intro hframed hc
      exact hfault hframed (hcandidate.mp hc)
  · apply verifyObservation_of_about (o := (o.fail code).sealed) ht habout hbytes hstatus
    · exact fun _ h => absurd h hnosuccess
    · intro hframed hc
      exact (hfault hframed (hcandidate.mp hc)).2

/-- **A success is accepted** when the response is the expected one. -/
lemma accepted_success (ht : t.Sound ceiling) (ho : t.Pending ceiling o) (hcode : o.failureCode = none)
    (hnone : o.attribution = .none) (hcandidate : o.quarantineCandidate = false)
    (hmarker : o.upstreamMarker = true) {a : MinerProbeAttestationV2} (ha : o.attestation = some a)
    (hverified : o.attestationStatus = .verified)
    (hstatus : attestationStatus ed25519 o t.index.target.siteDigest t.endpoint = o.attestationStatus)
    (hexpected : o.responseStatus = some o.expectedStatus ∧
      o.responseBodySha256 = some o.expectedBodySha256 ∧
      (o.schemaVersion = .direct → o.responseHeaderSha256 = some o.expectedHeaderSha256))
    (hframed : o.schemaVersion = .framed → a.responseHeaderSha256 = o.expectedHeaderSha256 ∧
      o.responseBytes = (if o.requestMethod = .get then o.expectedContentLength else 0) ∧
      ∃ headers ∈ o.deliveredHeaders, ∃ version ∈ o.deliveredHTTPVersion,
        publicFramingValid headers version.text o.requestMethod t.expected.contentType
          t.expected.contentLength) :
    t.Accepted ed25519 ceiling { o with outcome := .success } := by
  obtain ⟨habout, hdocument, hprofile, hdelivered, -, hbytes⟩ := ho
  constructor
  · rw [StaticProbeObservation.sealed_valid_iff]
    refine ⟨hdocument, hprofile, hdelivered, iff_of_true rfl hcode, ?_, ?_, fun _ => ?_, ?_, ?_, ?_, ?_, ?_, ?_⟩
    · change o.attribution = staticFailureAttribution o.failureCode
      rw [hnone, hcode]
      rfl
    · simp [hcandidate, hcode]
    · exact ⟨hmarker, hexpected.1, hexpected.2.1, hexpected.2.2, hverified⟩
    · simp [hverified, ha]
    · simp [hverified, hcode]
    · intro _ a' ha'
      exact binds_of_status habout ha' (hstatus.trans hverified)
    · intro hversion _
      obtain ⟨hheader, hlength, headers, hheaders, version, hhttp, hframing⟩ := hframed hversion
      -- the delivered content type is the expected one, by the framing
      have htype : headerValues headers "content-type" = [String.ofList t.expected.contentType] := by
        apply hframing.2.2.1 ("content-type".toList, t.expected.contentType)
        rw [List.mem_filter]
        exact ⟨by simp [StaticIndex.normativeHeaders],
          decide_eq_true (by decide : "content-type".toList ≠ "content-length".toList)⟩
      refine ⟨?_, hlength, headers, hheaders, version, hhttp, String.ofList t.expected.contentType, ?_, ?_, ?_⟩
      · change o.attestation.map MinerProbeAttestationV2.responseHeaderSha256 = some o.expectedHeaderSha256
        rw [ha, Option.map_some, hheader]
      · rw [htype]
        rfl
      · rw [htype]
        rfl
      · rw [String.toList_ofList]
        change publicFramingValid headers version.text o.requestMethod t.expected.contentType
          o.expectedContentLength
        rw [habout.2.2.2.2.2.1]
        exact hframing
    · intro _ h
      exact absurd h (by simp [hcandidate])
    · intro h
      exact hmarker
  · apply verifyObservation_of_about (o := StaticProbeObservation.sealed { o with outcome := .success }) ht
      habout hbytes hstatus
    · intro hversion _
      exact (hframed hversion).2.2
    · intro _ h
      exact absurd h (by simp [StaticProbeObservation.sealed, hcandidate])

/-! ## The documents of the evaluator -/

/-- What is known of a result: the digest of the leaf certificate is one, the headers are ASCII, and the
body was cut off behind the ceiling. -/
structure WellFormed (ceiling : ℤ) (result : ProbeResult) : Prop where
  leaf : ∀ leaf ∈ result.tlsLeafCertificateSha256, hex64 leaf = true
  ascii : ∀ r, result = .response r → ∀ pair ∈ r.headers, isAscii pair.1 = true ∧ isAscii pair.2 = true
  body : ∀ r, result = .response r → (r.body.length : ℤ) ≤ ceiling + 1

/-- The document before the result is looked at is in order. -/
lemma opening_pending (ht : t.Sound ceiling) (hceiling : 0 ≤ ceiling) {result : ProbeResult}
    (hresult : WellFormed ceiling result) : t.Pending ceiling (t.opening result) := by
  obtain ⟨hhotkey, -, -, hpath, hnonce, hissued, -⟩ := ht.requestValid
  obtain ⟨hdns, -, hsite, hrelease, -, -, hendpoints, -⟩ := ht.targetValid
  obtain ⟨hend, hgen, huid, hkey, -, -⟩ := hendpoints t.endpoint (List.mem_of_find?_eq_some ht.published)
  refine ⟨⟨rfl, ⟨rfl, rfl, rfl, rfl, rfl, rfl, rfl⟩, ⟨rfl, rfl, rfl, rfl, rfl⟩, rfl, rfl, rfl, rfl, rfl⟩,
    ⟨hhotkey, hdns, hsite, hrelease, ht.policyDigest, hend, hgen, huid, hkey, hnonce, hissued, hpath,
      ht.expectable.status, ht.expectable.length, ht.expectable.body, ht.expectable.header, ?_, ?_, ?_, ?_, ?_,
      hresult.leaf, ?_, ?_⟩, ?_, ?_, rfl, ?_⟩
  · change 0 ≤ min (max result.latencyMillis 0) Organic.maxLatencyMillis ∧
      min (max result.latencyMillis 0) Organic.maxLatencyMillis ≤ Organic.maxLatencyMillis
    have hmax : Organic.maxLatencyMillis = 3600000 := rfl
    omega
  · intro code h
    cases h
  · exact ⟨le_refl 0, (by decide : (0 : ℤ) ≤ Static.maxFileBytes + 1)⟩
  · intro body h
    cases h
  · intro header h
    cases h
  · intro a h
    cases h
  · intro policy h
    obtain ⟨p, hp, rfl⟩ := Option.map_eq_some_iff.mp h
    exact ht.transport p hp
  · unfold StaticProbeObservation.ProfileValid Trial.opening
    dsimp only
    cases t.policy with
    | none => exact ⟨rfl, rfl, rfl, rfl⟩
    | some p => exact ⟨rfl, by simp⟩
  · intro _ headers h
    cases h
  · change (0 : ℤ) ≤ ceiling + 1
    omega

/-- The results that can be sealed: a failure of the transport has a status of the contract or none, and a
framed response that would be delivered with its headers has a version the contract names. -/
def Sealable (policy : Option StaticPublicTransportPolicy) (timeoutMillis : ℤ) (result : ProbeResult) : Prop :=
  result.latencyMillis > timeoutMillis ∨ match result with
    | .failure f => ∀ code ∈ f.responseStatus, status code = true
    | .response r => ¬ (100 ≤ r.status ∧ r.status ≤ 599) ∨ policy = none ∨ ¬ Bounded r.headers ∨
        r.httpVersion.bind HTTPVersion.of ≠ none

instance (policy : Option StaticPublicTransportPolicy) (timeoutMillis : ℤ) (result : ProbeResult) :
    Decidable (Sealable policy timeoutMillis result) := by
  unfold Sealable
  cases result <;> infer_instance

/-- The document with what was received is in order. -/
lemma received_pending (ht : t.Sound ceiling) (hceiling : 0 ≤ ceiling ∧ ceiling ≤ hiddenProbeCeilingBytes)
    {r : ProbeResponse} (hresult : WellFormed ceiling (.response r))
    (hstatus : 100 ≤ r.status ∧ r.status ≤ 599)
    (hversion : t.policy = none ∨ ¬ Bounded r.headers ∨ r.httpVersion.bind HTTPVersion.of ≠ none) :
    t.Pending ceiling (t.received (t.opening (.response r)) r) := by
  obtain ⟨habout, hdocument, hprofile, -, houtcome, -⟩ := opening_pending ht hceiling.1 hresult
  have hbody := hresult.body r rfl
  obtain ⟨h1, h2, h3, h4, h5, h6, h7, h8, h9, h10, h11, h12, h13, h14, h15, h16, h17, -, -, -, -, h22, h23,
    h24⟩ := hdocument
  refine ⟨habout, ⟨h1, h2, h3, h4, h5, h6, h7, h8, h9, h10, h11, h12, h13, h14, h15, h16, h17, ?_, ?_, ?_, ?_,
    h22, h23, h24⟩, ?_, ?_, houtcome, ?_⟩
  · intro code hcode
    obtain rfl := Option.some.inj hcode
    simp [status, hstatus]
  · change 0 ≤ min (r.body.length : ℤ) (Static.maxFileBytes + 1) ∧
      min (r.body.length : ℤ) (Static.maxFileBytes + 1) ≤ Static.maxFileBytes + 1
    have hmax : Static.maxFileBytes = 16777216 := rfl
    omega
  · intro body h
    obtain rfl := Option.some.inj h
    exact hex64_sha256Hex _
  · intro header h
    obtain rfl := Option.some.inj h
    rw [observedHeaderSha256, Static.responseHeaderSha256, StaticIndex.pairsDigest, String.ofList_toList]
    exact hex64_digest _
  · unfold StaticProbeObservation.ProfileValid Trial.received Trial.opening
    dsimp only
    cases hpolicy : t.policy with
    | none => exact ⟨rfl, rfl, rfl, by simp⟩
    | some p => exact ⟨rfl, by simp⟩
  · intro hframed headers hheaders
    have hsome : t.policy ≠ none := by
      intro hnone
      have hversion : (t.received (t.opening (.response r)) r).schemaVersion = .direct := by
        change (if t.policy = none then Version.direct else .framed) = .direct
        rw [if_pos hnone]
      rw [hversion] at hframed
      cases hframed
    have hdelivered : (if t.policy ≠ none ∧ Bounded r.headers then some r.headers else none) = some headers :=
      hheaders
    rw [Option.ite_none_right_eq_some] at hdelivered
    obtain ⟨⟨-, hbounded⟩, hsame⟩ := hdelivered
    obtain rfl := Option.some.inj hsame
    refine ⟨?_, rfl⟩
    change (if t.policy = none then none else r.httpVersion.bind HTTPVersion.of) ≠ none
    rw [if_neg hsome]
    rcases hversion with hnone | hunbounded | hknown
    · exact absurd hnone hsome
    · exact absurd hbounded hunbounded
    · exact hknown
  · change min (r.body.length : ℤ) (Static.maxFileBytes + 1) ≤ ceiling + 1
    omega

/-- Embedding a valid attestation keeps a document in order. -/
lemma pending_attested (ho : t.Pending ceiling o) (st : AttestationStatus) {a : MinerProbeAttestationV2}
    (ha : a.Valid) : t.Pending ceiling { o with attestationStatus := st, attestation := some a } := by
  obtain ⟨habout, hdocument, hprofile, hdelivered, houtcome, hbytes⟩ := ho
  obtain ⟨h1, h2, h3, h4, h5, h6, h7, h8, h9, h10, h11, h12, h13, h14, h15, h16, h17, h18, h19, h20, h21, h22, -,
    h24⟩ := hdocument
  refine ⟨habout, ⟨h1, h2, h3, h4, h5, h6, h7, h8, h9, h10, h11, h12, h13, h14, h15, h16, h17, h18, h19, h20,
    h21, h22, ?_, h24⟩, hprofile, hdelivered, houtcome, hbytes⟩
  intro a' ha'
  obtain rfl := Option.some.inj ha'
  exact ha

/-- The status the scorer derives for a document about the trial, from a statement the miner signed. -/
lemma attestationStatus_of_about (ho : t.About o) {a : MinerProbeAttestationV2} (ha : o.attestation = some a)
    (hsigned : ed25519 t.endpoint.minerServicePublicKey a.signatureHex a.message = true) :
    attestationStatus ed25519 o t.index.target.siteDigest t.endpoint =
      if a.probeNonce ≠ t.request.nonce then .replayed
      else if Misstates a t.endpoint t.index.target.siteDigest t.request.validatorHotkey t.request.method
        t.request.path then .fraudulent
      else if ¬ InWindow t.request.issuedAt a.observedAt then .rejected
      else if some a.responseStatus ≠ o.responseStatus ∨ some a.responseBodySha256 ≠ o.responseBodySha256 ∨
          (o.schemaVersion = .direct ∧ some a.responseHeaderSha256 ≠ o.responseHeaderSha256) then .rejected
      else .verified := by
  obtain ⟨-, -, ⟨hhotkey, hnonce, hissued, hmethod, hpath⟩, -⟩ := ho
  rw [attestationStatus, ha]
  simp only [hsigned, hhotkey, hnonce, hissued, hmethod, hpath, Bool.true_eq_false, if_false]

/-- The transport of the trial is direct or framed. -/
lemma schemaVersion_iff (ho : t.About o) :
    (o.schemaVersion = .direct ↔ t.policy = none) ∧ (o.schemaVersion = .framed ↔ t.policy ≠ none) := by
  rw [ho.1]
  by_cases h : t.policy = none <;> simp [h]

/-- The document reports the response, behind the marker, and no failure yet. -/
structure Trial.Reports (t : Trial) (r : ProbeResponse) (o : StaticProbeObservation) : Prop where
  code : o.failureCode = none
  attribution : o.attribution = .none
  candidate : o.quarantineCandidate = false
  marker : o.upstreamMarker = true
  status : o.responseStatus = some r.status
  bytes : o.responseBytes = min (r.body.length : ℤ) (Static.maxFileBytes + 1)
  body : o.responseBodySha256 = some (sha256Hex r.body)
  header : o.responseHeaderSha256 = some (observedHeaderSha256 r.headers)
  version : o.deliveredHTTPVersion = if t.policy = none then none else r.httpVersion.bind HTTPVersion.of
  headers : o.deliveredHeaders = if t.policy ≠ none ∧ Bounded r.headers then some r.headers else none

section Content

variable {r : ProbeResponse} {a : MinerProbeAttestationV2}

/-- A failure under a verified attestation is accepted, a content fault of a framed observation if it is
proved. -/
lemma accepted_verified_fail (ht : t.Sound ceiling) (ho : t.Pending ceiling o) (hr : t.Reports r o)
    (ha : o.attestation = some a) (hverified : o.attestationStatus = .verified)
    (hstatus : attestationStatus ed25519 o t.index.target.siteDigest t.endpoint = .verified)
    {code : StaticFailureCode} (hcode : code ≠ .attestationFraud)
    (hfault : t.policy ≠ none → code ∈ contentFaults →
      (o.fail code).FaultProved o.expectedStatus o.expectedBodySha256 o.expectedHeaderSha256) :
    t.Accepted ed25519 ceiling (o.fail code) := by
  apply accepted_fail ht ho
  · rw [hverified, ha]
    exact iff_of_true (by simp) (by simp)
  · rw [hverified]
    exact iff_of_false (by decide) hcode
  · exact hstatus.trans hverified.symm
  · intro hversion hmem
    exact ⟨hverified, hfault ((schemaVersion_iff ho.1).2.mp hversion) hmem⟩
  · exact fun _ => hr.marker

/-- A response that is the expected one is accepted as a success. -/
lemma accepted_expected (ht : t.Sound ceiling) (ho : t.Pending ceiling o) (hr : t.Reports r o)
    (ha : o.attestation = some a) (hverified : o.attestationStatus = .verified)
    (hstatus : attestationStatus ed25519 o t.index.target.siteDigest t.endpoint = .verified)
    (hbytes : (r.body.length : ℤ) ≤ Static.maxFileBytes + 1)
    (hst : r.status = t.expected.status) (hbody : (sha256Hex r.body).toList = t.expected.bodySha256)
    (hheader : t.policy = none → (observedHeaderSha256 r.headers).toList = t.expected.headerSha256)
    (hframed : t.policy ≠ none → a.responseHeaderSha256.toList = t.expected.headerSha256 ∧
      (r.body.length : ℤ) = (if t.request.method = .get then t.expected.contentLength else 0) ∧
      publicFramingValid r.headers (r.httpVersion.getD "") t.request.method t.expected.contentType
        t.expected.contentLength) :
    t.Accepted ed25519 ceiling { o with outcome := .success } := by
  obtain ⟨-, -, ⟨-, -, -, hmethod, -⟩, -, hexpst, hexplen, hexpbody, hexpheader⟩ := ho.1
  obtain ⟨hdirect, hversion⟩ := schemaVersion_iff ho.1
  apply accepted_success ht ho hr.code hr.attribution hr.candidate hr.marker ha hverified
    (hstatus.trans hverified.symm)
  · refine ⟨?_, ?_, fun h => ?_⟩
    · rw [hr.status, hexpst, hst]
    · rw [hr.body, hexpbody, ← hbody, String.ofList_toList]
    · rw [hr.header, hexpheader, ← hheader (hdirect.mp h), String.ofList_toList]
  · intro h
    have hpolicy := hversion.mp h
    obtain ⟨hah, hlength, hframing⟩ := hframed hpolicy
    obtain ⟨version, hknown⟩ := Option.ne_none_iff_exists'.mp hframing.1
    have htext : version.text = r.httpVersion.getD "" := by
      revert hknown
      unfold HTTPVersion.of
      split_ifs with h1 h2 h3 <;> intro hknown <;> cases hknown
      · exact h1.symm
      · exact h2.symm
      · exact h3.symm
    refine ⟨?_, ?_, r.headers, ?_, version, ?_, ?_⟩
    · rw [hexpheader, ← hah, String.ofList_toList]
    · rw [hr.bytes, min_eq_left hbytes, hmethod, hexplen]
      exact hlength
    · rw [hr.headers, if_pos ⟨hpolicy, hframing.2.1⟩]
      rfl
    · rw [hr.version, if_neg hpolicy, Option.mem_def, ← hknown]
      cases r.httpVersion with
      | none => rfl
      | some v => rfl
    · rw [hmethod, htext]
      exact hframing

/-- **A response whose attestation says what was observed is accepted**, whatever it is judged to be. -/
lemma judgeContent_accepted (ht : t.Sound ceiling) (ho : t.Pending ceiling o) (hr : t.Reports r o)
    (ha : o.attestation = some a) (hverified : o.attestationStatus = .verified)
    (hstatus : attestationStatus ed25519 o t.index.target.siteDigest t.endpoint = .verified)
    (hbytes : (r.body.length : ℤ) ≤ Static.maxFileBytes + 1) :
    t.Accepted ed25519 ceiling (t.judgeContent o r a) := by
  obtain ⟨-, -, -, -, hexpst, -, hexpbody, hexpheader⟩ := ho.1
  have hfail : ∀ code : StaticFailureCode, code ≠ .attestationFraud →
      (t.policy ≠ none → code ∈ contentFaults →
        (o.fail code).FaultProved o.expectedStatus o.expectedBodySha256 o.expectedHeaderSha256) →
      t.Accepted ed25519 ceiling (o.fail code) :=
    fun code => accepted_verified_fail ht ho hr ha hverified hstatus
  have hplain : ∀ code : StaticFailureCode, code ≠ .attestationFraud → code ∉ contentFaults →
      t.Accepted ed25519 ceiling (o.fail code) :=
    fun code hcode hmem => hfail code hcode fun _ h => absurd h hmem
  have hsuccess := accepted_expected ht ho hr ha hverified hstatus hbytes
  unfold Trial.judgeContent
  by_cases hpolicy : t.policy = none
  · rw [if_neg (not_not.mpr hpolicy)]
    split_ifs with h1 h2 h3 h4
    · exact hfail _ (by decide) fun h => absurd hpolicy h
    · exact hfail _ (by decide) fun h => absurd hpolicy h
    · exact hfail _ (by decide) fun h => absurd hpolicy h
    · exact hplain _ (by decide) (by decide)
    · exact hsuccess (not_not.mp h1) (not_not.mp h2) (fun _ => not_not.mp h3) fun h => absurd hpolicy h
  · rw [if_pos hpolicy]
    by_cases h1 : a.responseHeaderSha256.toList ≠ t.expected.headerSha256
    · rw [if_pos h1]
      exact hplain _ (by decide) (by decide)
    rw [if_neg h1]
    rw [not_not] at h1
    by_cases h2 : r.status ≠ t.expected.status
    · rw [if_pos h2]
      apply hfail _ (by decide)
      intro _ _
      have hheader : (o.fail .statusMismatch).attestation = some a := ha
      have hresponse : (o.fail .statusMismatch).responseStatus = some r.status := hr.status
      have hcode : (o.fail .statusMismatch).failureCode = some .statusMismatch := rfl
      rw [StaticProbeObservation.FaultProved, hheader, hresponse, hcode, hexpst, hexpheader, ← h1,
        String.ofList_toList]
      simp [h2]
    rw [if_neg h2]
    rw [not_not] at h2
    by_cases h3 : (sha256Hex r.body).toList ≠ t.expected.bodySha256
    · rw [if_pos h3]
      apply hfail _ (by decide)
      intro _ _
      have hheader : (o.fail .bodyMismatch).attestation = some a := ha
      have hresponse : (o.fail .bodyMismatch).responseStatus = some r.status := hr.status
      have hbody : (o.fail .bodyMismatch).responseBodySha256 = some (sha256Hex r.body) := hr.body
      have hcode : (o.fail .bodyMismatch).failureCode = some .bodyMismatch := rfl
      have hdiffers : sha256Hex r.body ≠ String.ofList t.expected.bodySha256 := by
        intro hsame
        apply h3
        rw [hsame, String.toList_ofList]
      rw [StaticProbeObservation.FaultProved, hheader, hresponse, hcode, hbody, hexpst, hexpbody, hexpheader,
        ← h1, String.ofList_toList, h2]
      simp [hdiffers]
    rw [if_neg h3]
    rw [not_not] at h3
    by_cases h4 : (r.body.length : ℤ) ≠ (if t.request.method = .get then t.expected.contentLength else 0)
    · rw [if_pos h4]
      exact hplain _ (by decide) (by decide)
    rw [if_neg h4]
    rw [not_not] at h4
    by_cases h5 : publicFramingValid r.headers (r.httpVersion.getD "") t.request.method t.expected.contentType
        t.expected.contentLength
    · rw [if_neg (not_not.mpr h5)]
      exact hsuccess h2 h3 (fun h => absurd h hpolicy) fun _ => ⟨h1, h4, h5⟩
    · rw [if_pos h5]
      exact hplain _ (by decide) (by decide)

/-- **A response with a signed statement is accepted**, whatever it is judged to be. -/
lemma judgeStatement_accepted (ht : t.Sound ceiling) (ho : t.Pending ceiling o) (hr : t.Reports r o)
    (hnone : o.attestation = none) (ha : a.Valid)
    (hsigned : ed25519 t.endpoint.minerServicePublicKey a.signatureHex a.message = true)
    (hbytes : (r.body.length : ℤ) ≤ Static.maxFileBytes + 1) :
    t.Accepted ed25519 ceiling (t.judgeStatement o r a) := by
  have hattested : ∀ st : AttestationStatus,
      t.Pending ceiling { o with attestationStatus := st, attestation := some a } :=
    fun st => pending_attested ho st ha
  have hderived : ∀ st : AttestationStatus, attestationStatus ed25519
      { o with attestationStatus := st, attestation := some a } t.index.target.siteDigest t.endpoint = _ :=
    fun st => attestationStatus_of_about (hattested st).1 rfl hsigned
  have hrejected : ∀ code : StaticFailureCode, code ≠ .attestationFraud → code ∉ contentFaults →
      t.Accepted ed25519 ceiling ({ o with attestationStatus := .rejected }.fail code) := by
    intro code hcode hmem
    apply accepted_fail (o := { o with attestationStatus := .rejected }) ht ho
    · exact iff_of_false (by simp) (not_not.mpr hnone)
    · exact iff_of_false (by simp) hcode
    · rw [attestationStatus]
      simp only [hnone]
    · exact fun _ h => absurd h hmem
    · exact fun _ => hr.marker
  unfold Trial.judgeStatement
  by_cases hnonce : a.probeNonce ≠ t.request.nonce
  · rw [if_pos hnonce]
    apply accepted_fail ht (hattested .replayed)
    · exact iff_of_true (by simp) (by simp)
    · exact iff_of_false (by simp) (by decide)
    · rw [hderived, if_pos hnonce]
    · exact fun _ h => absurd h (by decide)
    · exact fun _ => hr.marker
  rw [if_neg hnonce]
  by_cases hmis : Misstates a t.endpoint t.index.target.siteDigest t.request.validatorHotkey t.request.method
      t.request.path
  · rw [if_pos hmis]
    apply accepted_fail ht (hattested .fraudulent)
    · exact iff_of_true (by simp) (by simp)
    · exact iff_of_true rfl rfl
    · rw [hderived, if_neg hnonce, if_pos hmis]
    · exact fun _ h => absurd h (by decide)
    · exact fun _ => hr.marker
  rw [if_neg hmis]
  by_cases hwindow : ¬ InWindow t.request.issuedAt a.observedAt
  · rw [if_pos hwindow]
    exact hrejected _ (by decide) (by decide)
  rw [if_neg hwindow]
  by_cases haltered : a.responseStatus ≠ r.status ∨ a.responseBodySha256 ≠ sha256Hex r.body ∨
      (t.policy = none ∧ a.responseHeaderSha256 ≠ observedHeaderSha256 r.headers)
  · rw [if_pos haltered]
    exact hrejected _ (by decide) (by decide)
  rw [if_neg haltered]
  apply judgeContent_accepted ht (hattested .verified)
    ⟨hr.code, hr.attribution, hr.candidate, hr.marker, hr.status, hr.bytes, hr.body, hr.header, hr.version,
      hr.headers⟩ rfl rfl _ hbytes
  rw [hderived, if_neg hnonce, if_neg hmis, if_neg hwindow, if_neg]
  dsimp only
  rw [hr.status, hr.body, hr.header, (schemaVersion_iff ho.1).1]
  push Not at haltered ⊢
  exact ⟨congrArg some haltered.1, congrArg some haltered.2.1, fun h => congrArg some (haltered.2.2 h)⟩

/-- **A response is accepted**, whatever it is judged to be. -/
lemma judgeResponse_accepted (ht : t.Sound ceiling)
    (ho : t.Pending ceiling (t.received (t.opening (.response r)) r))
    (hbytes : (r.body.length : ℤ) ≤ Static.maxFileBytes + 1) :
    t.Accepted ed25519 ceiling (t.judgeResponse ed25519 (t.received (t.opening (.response r)) r) r) := by
  set o := t.received (t.opening (.response r)) r with hoeq
  have hnone : o.attestation = none := rfl
  have hpresented : o.attestationStatus = .notPresented := rfl
  have hreports : t.Reports r { o with upstreamMarker := true } :=
    ⟨rfl, rfl, rfl, rfl, rfl, rfl, rfl, rfl, rfl, rfl⟩
  clear_value o
  -- before a statement is read, nothing is embedded
  have hbare : ∀ (o' : StaticProbeObservation) (code : StaticFailureCode), t.Pending ceiling o' →
      o'.attestation = none → o'.attestationStatus ∉ [.fraudulent, .replayed, .verified] →
      code ≠ .attestationFraud → code ∉ contentFaults → (code.attribution = .miner → o'.upstreamMarker = true) →
      t.Accepted ed25519 ceiling (o'.fail code) := by
    intro o' code ho' hnone' hstatus hcode hmem hmarker
    apply accepted_fail ht ho'
    · exact iff_of_false hstatus (not_not.mpr hnone')
    · refine iff_of_false (fun h => hstatus ?_) hcode
      rw [h]
      simp
    · rw [attestationStatus, hnone']
    · exact fun _ h => absurd h hmem
    · exact hmarker
  unfold Trial.judgeResponse
  by_cases hpins : t.pins ≠ [] ∧ ∀ leaf ∈ r.tlsLeafCertificateSha256, leaf ∉ t.pins
  · rw [if_pos hpins]
    exact hbare o _ ho hnone (by simp [hpresented]) (by decide) (by decide) (fun h => by cases h)
  rw [if_neg hpins]
  by_cases hmarked : headerValues r.headers upstreamResponseHeader ≠ [upstreamResponseMarker]
  · rw [if_pos hmarked]
    exact hbare o _ ho hnone (by simp [hpresented]) (by decide) (by decide) (fun h => by cases h)
  rw [if_neg hmarked]
  dsimp only
  by_cases hmissing : headerValues r.headers attestationHeader = []
  · rw [if_pos hmissing]
    exact hbare { o with upstreamMarker := true } _ ho hnone (by simp [hpresented]) (by decide) (by decide)
      fun _ => rfl
  rw [if_neg hmissing]
  cases hstatement : signedStatement ed25519 t.endpoint.minerServicePublicKey
      (headerValues r.headers attestationHeader) with
  | none =>
    dsimp only
    exact hbare { o with upstreamMarker := true, attestationStatus := .rejected } _ ho hnone (by simp)
      (by decide) (by decide) fun _ => rfl
  | some a =>
    dsimp only
    have hread : ∃ value, (parseAttestationV2Header value).filter (fun a =>
        ed25519 t.endpoint.minerServicePublicKey a.signatureHex a.message) = some a := by
      revert hstatement
      cases headerValues r.headers attestationHeader with
      | nil => intro h; cases h
      | cons value rest =>
        cases rest with
        | nil => exact fun h => ⟨value, h⟩
        | cons _ _ => intro h; cases h
    obtain ⟨value, hvalue⟩ := hread
    rw [Option.filter_eq_some_iff] at hvalue
    exact judgeStatement_accepted (o := { o with upstreamMarker := true }) ht ho hreports hnone
      (Organic.valid_of_parseAttestationV2Header hvalue.1) hvalue.2 hbytes

end Content

/-- **The document of a result that can be sealed is accepted.** -/
theorem judge_accepted (ht : t.Sound ceiling) (hceiling : 0 ≤ ceiling ∧ ceiling ≤ hiddenProbeCeilingBytes)
    {result : ProbeResult} (hresult : WellFormed ceiling result)
    (hseal : Sealable t.policy t.timeoutMillis result) :
    t.Accepted ed25519 ceiling (t.judge ed25519 result) := by
  have hopening := opening_pending ht hceiling.1 hresult
  have hbare : ∀ (o' : StaticProbeObservation) (code : StaticFailureCode), t.Pending ceiling o' →
      o'.attestation = none → o'.attestationStatus = .notPresented → code.attribution = .path →
      t.Accepted ed25519 ceiling (o'.fail code) := by
    intro o' code ho' hnone hstatus hpath
    apply accepted_fail ht ho'
    · exact iff_of_false (by simp [hstatus]) (not_not.mpr hnone)
    · refine iff_of_false (by simp [hstatus]) ?_
      rintro rfl
      cases hpath
    · rw [attestationStatus, hnone]
    · intro _ hmem
      simp only [contentFaults, List.mem_cons, List.not_mem_nil, or_false] at hmem
      rcases hmem with rfl | rfl | rfl <;> cases hpath
    · intro hminer
      rw [hpath] at hminer
      cases hminer
  unfold Trial.judge
  dsimp only
  by_cases hlate : result.latencyMillis > t.timeoutMillis
  · rw [if_pos hlate]
    exact hbare _ _ hopening rfl rfl rfl
  rw [if_neg hlate]
  rcases hseal with hlate' | hseal
  · exact absurd hlate' hlate
  cases result with
  | failure f =>
    apply hbare _ _ _ rfl rfl
    · cases f.code <;> rfl
    · obtain ⟨habout, hdocument, hprofile, hdelivered, houtcome, hbytes⟩ := hopening
      obtain ⟨h1, h2, h3, h4, h5, h6, h7, h8, h9, h10, h11, h12, h13, h14, h15, h16, h17, -, hrest⟩ := hdocument
      exact ⟨habout, ⟨h1, h2, h3, h4, h5, h6, h7, h8, h9, h10, h11, h12, h13, h14, h15, h16, h17, hseal, hrest⟩,
        hprofile, hdelivered, houtcome, hbytes⟩
  | response r =>
    dsimp only
    by_cases hstatus : 100 ≤ r.status ∧ r.status ≤ 599
    · rw [if_neg (not_not.mpr hstatus)]
      have hversion := hseal.resolve_left (not_not.mpr hstatus)
      apply judgeResponse_accepted ht (received_pending ht hceiling hresult hstatus hversion)
      have hbody := hresult.body r rfl
      have hmax : hiddenProbeCeilingBytes = 1048576 := rfl
      have hfile : Static.maxFileBytes = 16777216 := rfl
      omega
    · rw [if_pos hstatus]
      exact hbare _ _ hopening rfl rfl rfl

/-! ## What judging leaves alone -/

/-- Judging a response changes neither its transport nor what was delivered, and sets the marker behind the
marker header only. -/
structure Kept (r : ProbeResponse) (o o' : StaticProbeObservation) : Prop where
  schemaVersion : o'.schemaVersion = o.schemaVersion
  version : o'.deliveredHTTPVersion = o.deliveredHTTPVersion
  headers : o'.deliveredHeaders = o.deliveredHeaders
  marker : o'.upstreamMarker = true → o.upstreamMarker = true ∨
    headerValues r.headers upstreamResponseHeader = [upstreamResponseMarker]

lemma judgeContent_kept (t : Trial) (o : StaticProbeObservation) (r : ProbeResponse)
    (a : MinerProbeAttestationV2) : Kept r o (t.judgeContent o r a) := by
  unfold Trial.judgeContent
  split_ifs <;> exact ⟨rfl, rfl, rfl, Or.inl⟩

lemma judgeStatement_kept (t : Trial) (o : StaticProbeObservation) (r : ProbeResponse)
    (a : MinerProbeAttestationV2) : Kept r o (t.judgeStatement o r a) := by
  unfold Trial.judgeStatement
  split_ifs
  · exact ⟨rfl, rfl, rfl, Or.inl⟩
  · exact ⟨rfl, rfl, rfl, Or.inl⟩
  · exact ⟨rfl, rfl, rfl, Or.inl⟩
  · obtain ⟨h1, h2, h3, h4⟩ := judgeContent_kept t
      { o with attestationStatus := .verified, attestation := some a } r a
    exact ⟨h1, h2, h3, h4⟩
  · exact ⟨rfl, rfl, rfl, Or.inl⟩

lemma judgeResponse_kept (t : Trial) (ed25519 : String → String → List UInt8 → Bool)
    (o : StaticProbeObservation) (r : ProbeResponse) : Kept r o (t.judgeResponse ed25519 o r) := by
  unfold Trial.judgeResponse
  by_cases hpins : t.pins ≠ [] ∧ ∀ leaf ∈ r.tlsLeafCertificateSha256, leaf ∉ t.pins
  · rw [if_pos hpins]
    exact ⟨rfl, rfl, rfl, Or.inl⟩
  rw [if_neg hpins]
  by_cases hmarked : headerValues r.headers upstreamResponseHeader ≠ [upstreamResponseMarker]
  · rw [if_pos hmarked]
    exact ⟨rfl, rfl, rfl, Or.inl⟩
  rw [if_neg hmarked]
  rw [not_not] at hmarked
  dsimp only
  by_cases hmissing : headerValues r.headers attestationHeader = []
  · rw [if_pos hmissing]
    exact ⟨rfl, rfl, rfl, fun _ => Or.inr hmarked⟩
  rw [if_neg hmissing]
  cases signedStatement ed25519 t.endpoint.minerServicePublicKey (headerValues r.headers attestationHeader) with
  | none => exact ⟨rfl, rfl, rfl, fun _ => Or.inr hmarked⟩
  | some a =>
    obtain ⟨h1, h2, h3, -⟩ := judgeStatement_kept t { o with upstreamMarker := true } r a
    exact ⟨h1, h2, h3, fun _ => Or.inr hmarked⟩

/-- The upstream marker header stands exactly once in the response, with the marker as its value. -/
def UpstreamMarked (result : ProbeResult) : Prop :=
  ∃ r, result = .response r ∧ headerValues r.headers upstreamResponseHeader = [upstreamResponseMarker]

/-- The marker is set behind the marker header only. -/
lemma upstreamMarked_of_judge {result : ProbeResult} (h : (t.judge ed25519 result).upstreamMarker = true) :
    UpstreamMarked result := by
  unfold Trial.judge at h
  dsimp only at h
  by_cases hlate : result.latencyMillis > t.timeoutMillis
  · rw [if_pos hlate] at h
    cases h
  rw [if_neg hlate] at h
  cases result with
  | failure f => cases h
  | response r =>
    dsimp only at h
    by_cases hstatus : ¬ (100 ≤ r.status ∧ r.status ≤ 599)
    · rw [if_pos hstatus] at h
      cases h
    · rw [if_neg hstatus] at h
      rcases (judgeResponse_kept t ed25519 _ r).marker h with hset | hmarked
      · cases hset
      · exact ⟨r, rfl, hmarked⟩

/-- **A document that is valid once it is sealed comes from a result that can be sealed.** -/
lemma sealable_of_valid {result : ProbeResult} (h : (t.judge ed25519 result).sealed.Valid) :
    Sealable t.policy t.timeoutMillis result := by
  rw [StaticProbeObservation.sealed_valid_iff] at h
  unfold Trial.judge at h
  dsimp only at h
  by_cases hlate : result.latencyMillis > t.timeoutMillis
  · exact Or.inl hlate
  rw [if_neg hlate] at h
  refine Or.inr ?_
  cases result with
  | failure f =>
    obtain ⟨-, -, -, -, -, -, -, -, -, -, -, -, -, -, -, -, -, hstatus, -⟩ := h.1
    exact hstatus
  | response r =>
    dsimp only at h ⊢
    by_cases hstatus : ¬ (100 ≤ r.status ∧ r.status ≤ 599)
    · exact Or.inl hstatus
    refine Or.inr ?_
    rw [if_neg hstatus] at h
    by_cases hpolicy : t.policy = none
    · exact Or.inl hpolicy
    by_cases hbounded : Bounded r.headers
    · refine Or.inr (Or.inr ?_)
      have hkept := judgeResponse_kept t ed25519 (t.received (t.opening (.response r)) r) r
      have hdelivered := h.2.2.1
      unfold StaticProbeObservation.DeliveredValid at hdelivered
      rw [hkept.schemaVersion, hkept.version, hkept.headers] at hdelivered
      have hversion := (hdelivered (if_neg hpolicy) r.headers (if_pos ⟨hpolicy, hbounded⟩)).1
      change (if t.policy = none then none else r.httpVersion.bind HTTPVersion.of) ≠ none at hversion
      rwa [if_neg hpolicy] at hversion
    · exact Or.inr (Or.inl hbounded)

/-! ## The evaluator -/

section Evaluator

variable {index : AuthenticatedIndex} {authorization : OrganicProbeAuthorization}
  {policy : Option StaticPublicTransportPolicy}

/-- A hidden probe of a published endpoint of a verified index, for a valid path whose length is within the
ceiling, under no policy or one that covers the route. -/
structure Probes (index : AuthenticatedIndex) (authorization : OrganicProbeAuthorization) (ceiling : ℤ)
    (policy : Option StaticPublicTransportPolicy) : Prop where
  verified : index.Verified
  authorized : authorization.Valid
  published : ∃ e ∈ index.target.endpoints, e.endpointID = authorization.endpointID ∧
    e.generation = authorization.generation
  path : StaticIndex.validateRequestPath authorization.path.toList = .ok ()
  bounded : 1 ≤ ceiling ∧ ceiling ≤ hiddenProbeCeilingBytes
  within : ∀ e, index.expectedResponse .get authorization.path = .ok e → e.contentLength ≤ ceiling
  inScope : ∀ p ∈ policy, p.Valid ∧ publicRouteSuffix <:+ index.target.routeHost.toList

/-- The endpoint a probe finds. -/
lemma Probes.found (h : Probes index authorization ceiling policy) : ∃ e,
    findStaticEndpoint index authorization.endpointID = some e ∧ authorization.generation = e.generation ∧
      e.endpointID = authorization.endpointID := by
  obtain ⟨e, he, hid, hgen⟩ := h.published
  have hnodup := h.verified.targetValid.2.2.2.2.2.2.2
  refine ⟨e, ?_, hgen.symm, hid⟩
  cases hfind : findStaticEndpoint index authorization.endpointID with
  | none =>
    have hnone := List.find?_eq_none.mp hfind e he
    simp [hid] at hnone
  | some e' =>
    have hid' : e'.endpointID = authorization.endpointID := by simpa using List.find?_some hfind
    exact congrArg some (List.inj_on_of_nodup_map hnodup (List.mem_of_find?_eq_some hfind) he
      (hid'.trans hid.symm))

/-- **The trial an evaluator judges**, and what it returns. -/
lemma Probes.trial (h : Probes index authorization ceiling policy) (probeKind : ProbeKind)
    (timeoutMillis : ℤ) (pins : List String) : ∃ t : Trial, t.Sound ceiling ∧ t.policy = policy ∧
      t.timeoutMillis = timeoutMillis ∧ t.index = index ∧ ∀ ed25519 result,
        evaluateStaticProbe ed25519 index authorization result probeKind timeoutMillis pins policy =
          if (t.judge ed25519 result).sealed.Valid then .ok (t.judge ed25519 result).sealed
          else .error .observationInvalid := by
  obtain ⟨e, hfind, hgen, hid⟩ := h.found
  obtain ⟨expected, hexpected, hexpectable, expected', hget, hlength⟩ :=
    h.verified.expectedResponse authorization.method h.path
  have hpositive := h.bounded.1
  refine ⟨⟨index, authorization, e, expected, probeKind, timeoutMillis, pins, policy⟩,
    ⟨h.authorized, h.verified.targetValid, h.verified.policyDigest, ?_, hexpected, hexpectable, ?_, ?_⟩, rfl, rfl,
    rfl, fun ed25519 result => ?_⟩
  · dsimp only
    rw [hid]
    exact hfind
  · dsimp only
    have hwithin := h.within expected' hget
    by_cases hmethod : authorization.method = .get
    · rw [if_pos hmethod]
      omega
    · rw [if_neg hmethod]
      omega
  · exact fun p hp => (h.inScope p hp).1.2.1
  · have hscope : ¬ (policy ≠ none ∧ ¬ publicRouteSuffix <:+ index.target.routeHost.toList) := by
      rintro ⟨hsome, hout⟩
      obtain ⟨p, hp⟩ := Option.ne_none_iff_exists'.mp hsome
      exact hout (h.inScope p hp).2
    unfold evaluateStaticProbe
    rw [hfind, hexpected]
    simp only [reject, if_neg (not_not.mpr h.authorized), if_neg (not_not.mpr hgen), if_neg hscope,
      Except.mapError, bind, Except.bind, pure, Except.pure]
    split <;> rename_i hvalid <;> split at hvalid <;> simp_all

/-- What the evaluator seals comes from a result that can be sealed. -/
lemma Probes.sealable (h : Probes index authorization ceiling policy) {probeKind : ProbeKind}
    {timeoutMillis : ℤ} {pins : List String} {result : ProbeResult}
    (hok : evaluateStaticProbe ed25519 index authorization result probeKind timeoutMillis pins policy = .ok o) :
    Sealable policy timeoutMillis result := by
  obtain ⟨t, -, hpolicy, htimeout, -, hevaluate⟩ := h.trial probeKind timeoutMillis pins
  rw [hevaluate] at hok
  split at hok
  · rename_i hvalid
    rw [← hpolicy, ← htimeout]
    exact sealable_of_valid hvalid
  · cases hok

end Evaluator

/-- **The evaluator returns a scorable observation exactly for the results that can be sealed.** For a hidden
probe of a published endpoint and a well-formed result of the transport, the evaluator returns a valid
observation, which is a success exactly when it is charged to no one, is charged to the miner only behind the
marker header, and is accepted by the scorer against the same index and ceiling, if and only if the result
can be sealed: a failure of the transport has a status of the contract or none, and a framed response, unless
it is late or has no status of the contract, has a known protocol version or headers too large to deliver.

**Proof sketch.** Every exit of the evaluator fills a document whose fields, attestation and attribution are
in order, so it is valid once it is sealed and accepted by the scorer; the one check that can fail is that
delivered headers come with a version. Judging changes neither, so a framed response with an unknown version
and small headers is refused on every path. -/
theorem evaluate_scorable_iff (ed25519 : String → String → List UInt8 → Bool) (index : AuthenticatedIndex)
    (authorization : OrganicProbeAuthorization) (ceiling : ℤ) (policy : Option StaticPublicTransportPolicy)
    (h : Probes index authorization ceiling policy) (result : ProbeResult) (hresult : WellFormed ceiling result)
    (probeKind : ProbeKind) (timeoutMillis : ℤ) (pins : List String) :
    (∃ o, evaluateStaticProbe ed25519 index authorization result probeKind timeoutMillis pins policy = .ok o ∧
        o.Valid ∧ (o.outcome = .success ↔ o.attribution = .none) ∧
        (o.attribution = .miner → UpstreamMarked result) ∧
        verifyObservation ed25519 o index ceiling = .ok ()) ↔
      Sealable policy timeoutMillis result := by
  obtain ⟨t, hsound, rfl, rfl, rfl, hevaluate⟩ := h.trial probeKind timeoutMillis pins
  constructor
  · rintro ⟨o, hok, -⟩
    exact h.sealable hok
  · intro hseal
    have hbounded := h.bounded
    have haccepted : t.Accepted ed25519 ceiling (t.judge ed25519 result) :=
      judge_accepted hsound ⟨by omega, hbounded.2⟩ hresult hseal
    obtain ⟨hvalid, hverify⟩ := haccepted
    refine ⟨_, (hevaluate ed25519 result).trans (if_pos hvalid), hvalid, hvalid.success_iff, ?_, hverify⟩
    intro hminer
    obtain ⟨-, -, ⟨-, -, -, -, -, -, -, -, -, -, -, hmarker⟩, -⟩ := hvalid
    exact upstreamMarked_of_judge (hmarker hminer)

/-! ## A sample probe -/

namespace Sample

/-- The endpoint of the sample. -/
def endpoint : StaticIndex.StaticEndpointTarget where
  endpointID := "site-5Miner-g1-cccccccccccccccccccccccccccccccc"
  generation := 1
  minerUID := 7
  minerHotkey := "5Miner"
  minerServicePublicKey := String.ofList (List.replicate 64 'a')
  ticketDigest := "sha256:" ++ String.ofList (List.replicate 64 'd')

/-- The deployment of the sample. -/
def target : StaticIndex.StaticDeploymentTarget where
  deploymentID := "site"
  routeHost := "site.on.miss.computer"
  siteDigest := "sha256:" ++ String.ofList (List.replicate 64 '1')
  releaseDigest := "sha256:" ++ String.ofList (List.replicate 64 '2')
  serverImplementationDigest := "sha256:" ++ String.ofList (List.replicate 64 '3')
  endpoints := [endpoint]

/-- The index of the sample: a site of one document. -/
def index : AuthenticatedIndex where
  manifest := Static.oneFileSite
  routes := StaticIndex.routes Static.oneFileSite
  target := target
  trustPolicyDigestSha256 := String.ofList (List.replicate 64 '4')

/-- The probe of the sample. -/
def authorization : OrganicProbeAuthorization where
  validatorHotkey := "5Validator"
  endpointID := endpoint.endpointID
  generation := 1
  method := .get
  path := "/"
  nonce := String.ofList (List.replicate 64 '5')
  issuedAt := "1970-01-01T00:06:40Z"
  signature := String.ofList (List.replicate 128 '6')

/-- The public transport of the sample. -/
def publicPolicy : StaticPublicTransportPolicy :=
  StaticPublicTransportPolicy.sealed ⟨String.ofList (List.replicate 64 '7'), ""⟩

/-- A response over `HTTP/1.0`. -/
def oldResponse : ProbeResponse where
  status := 200
  headers := []
  body := []
  latencyMillis := 20
  tlsLeafCertificateSha256 := none
  httpVersion := some "HTTP/1.0"

lemma endpoint_valid : endpoint.Valid :=
  ⟨by decide, by decide, by decide, by decide, hex64_replicate (by decide), sha256Digest_replicate (by decide)⟩

lemma target_valid : target.Valid :=
  ⟨by decide, by decide, sha256Digest_replicate (by decide), sha256Digest_replicate (by decide),
    sha256Digest_replicate (by decide), by decide, List.forall_mem_singleton.mpr endpoint_valid, List.nodup_singleton _⟩

lemma verified : index.Verified where
  manifestValid := by decide
  routesOf := rfl
  targetValid := target_valid
  policyDigest := hex64_replicate (by decide)

/-- The sample satisfies the conditions of a probe, under either transport. -/
lemma probes (policy : Option StaticPublicTransportPolicy) (hpolicy : ∀ p ∈ policy, p = publicPolicy) :
    Probes index authorization hiddenProbeCeilingBytes policy where
  verified := verified
  authorized := by decide +kernel
  published := ⟨endpoint, List.mem_singleton_self _, rfl, rfl⟩
  path := by decide
  bounded := by decide
  within := by
    intro e he
    have hpath : StaticIndex.validateRequestPath "/".toList = .ok () := by decide
    have hroute : index.routes.lookup "/".toList = Static.oneFileSite.files.head? := by decide
    unfold StaticIndex.AuthenticatedIndex.expectedResponse StaticIndex.expectedStaticResponse at he
    rw [show authorization.path = "/" from rfl, hpath] at he
    dsimp only at he
    rw [hroute] at he
    obtain rfl := Except.ok.inj he
    decide
  inScope := by
    intro p hp
    rw [hpolicy p hp]
    exact ⟨⟨by decide, hex64_digest _, StaticPublicTransportPolicy.digest_sealed _⟩, by decide⟩

lemma wellFormed_old : WellFormed hiddenProbeCeilingBytes (.response oldResponse) where
  leaf := by
    intro leaf h
    cases h
  ascii := by
    rintro r h pair hpair
    obtain rfl := ProbeResult.response.inj h
    cases hpair
  body := by
    rintro r h
    obtain rfl := ProbeResult.response.inj h
    decide

end Sample

/-- Over the direct transport the response of the sample becomes a scorable observation. -/
theorem evaluate_scorable_direct :
    ∃ o, evaluateStaticProbe (fun _ _ _ => false) Sample.index Sample.authorization
        (.response Sample.oldResponse) .hidden 30000 [] none = .ok o ∧
      o.Valid ∧ (o.outcome = .success ↔ o.attribution = .none) ∧
      (o.attribution = .miner → UpstreamMarked (.response Sample.oldResponse)) ∧
      verifyObservation (fun _ _ _ => false) o Sample.index hiddenProbeCeilingBytes = .ok () :=
  (evaluate_scorable_iff _ _ _ _ _ (Sample.probes none (by simp)) _ Sample.wellFormed_old .hidden 30000 []).mpr
    (by decide)

/-- **A response over another protocol version is no observation.** The probe of the sample is in order and so
is the response, but under the public policy the evaluator raises. -/
theorem old_response_raises :
    Probes Sample.index Sample.authorization hiddenProbeCeilingBytes (some Sample.publicPolicy) ∧
      WellFormed hiddenProbeCeilingBytes (.response Sample.oldResponse) ∧
      ¬ ∃ o, evaluateStaticProbe (fun _ _ _ => false) Sample.index Sample.authorization
        (.response Sample.oldResponse) .hidden 30000 [] (some Sample.publicPolicy) = .ok o := by
  have hprobes := Sample.probes (some Sample.publicPolicy) (by simp)
  refine ⟨hprobes, Sample.wellFormed_old, ?_⟩
  rintro ⟨o, ho⟩
  have hseal := hprobes.sealable ho
  revert hseal
  unfold Sealable
  simp [ProbeResult.latencyMillis, Sample.oldResponse, Bounded, HTTPVersion.of]

end StaticProbe

end Misscomputer
