import Misscomputer.Lib.Sha256Numeral
import Misscomputer.Static.Sealing

set_option relaxedAutoImplicit false
set_option autoImplicit false

/-!
# Content faults, charged and waived

A wrong response with a proof against the miner is a content fault. It is waived when the index rather than
the miner is in question: every endpoint of the deployment gave the same wrong response to the request. It is
also waived, together with all others of the epoch, when most of the sampled endpoints were not reached.

## Main definitions

* `StaticScoring.IndexInQuestion` — the index is in question for an observation.

## Main results

* `StaticScoring.content_fault_waived_iff` — a content fault is waived exactly when the index is in question.

## References

* `src/misscomputer_subnet/static_scoring.py` (`_suspect_requests`, `_derive_static_epoch`)
-/

namespace Misscomputer

namespace StaticScoring

open Contract
open StaticIndex (AuthenticatedIndex StaticDeploymentTarget StaticEndpointTarget)
open StaticProbe

/-- Two observations are of one request to one deployment. -/
def SameRequest (p o : StaticProbeObservation) : Prop :=
  p.deploymentID = o.deploymentID ∧ p.requestMethod = o.requestMethod ∧ p.requestPath = o.requestPath

/-- **The index is in question for an observation**: its request was put to every endpoint of the deployment,
every answer to it is a content fault with one status, body and header, and the endpoints of the deployment
are of two miners at least. -/
structure IndexInQuestion (targets : List StaticDeploymentTarget) (observations : List StaticProbeObservation)
    (o : StaticProbeObservation) : Prop where
  answered : ∀ d ∈ targets, d.deploymentID = o.deploymentID → ∀ e ∈ d.endpoints,
    ∃ p ∈ observations, p.endpointID = e.endpointID ∧ SameRequest p o
  agreed : ∀ p ∈ observations, SameRequest p o → p.quarantineCandidate = true ∧
    p.responseStatus = o.responseStatus ∧ p.responseBodySha256 = o.responseBodySha256 ∧
    answeredHeader p = answeredHeader o
  miners : ∃ d ∈ targets, d.deploymentID = o.deploymentID ∧ ∃ e ∈ d.endpoints, ∃ e' ∈ d.endpoints,
    e.minerHotkey ≠ e'.minerHotkey

lemma sameRequest_iff {p o : StaticProbeObservation} : SameRequest p o ↔ request p = request o := by
  rw [SameRequest, request, request, requestOf, requestOf, StaticSuspectRequest.mk.injEq]

/-- The request of an observation is in question when its index is. -/
lemma inQuestion_iff {targets targets' : List StaticDeploymentTarget}
    {observations observations' : List StaticProbeObservation} (hcoherent : Coherent targets)
    (htargets : ∀ d, d ∈ targets' ↔ d ∈ targets) (hobservations : ∀ p, p ∈ observations' ↔ p ∈ observations)
    {o : StaticProbeObservation} (ho : o ∈ observations) :
    InQuestion (incarnations targets') observations' (request o) ↔ IndexInQuestion targets observations o := by
  have hitem : ∀ item, item ∈ incarnations targets' ↔ item.1 ∈ targets ∧ item.2 ∈ item.1.endpoints := by
    intro item
    rw [mem_incarnations, htargets]
  constructor
  · rintro ⟨-, hanswered, ⟨status, body, header, hagreed⟩, item, hin, item', hin', hd, hd', hne⟩
    obtain ⟨-, hstatus, hbody, hheader⟩ := hagreed o ((hobservations o).mpr ho) rfl
    refine ⟨?_, ?_, ?_⟩
    · intro d hd hid e he
      obtain ⟨p, hp, hend, hreq⟩ := hanswered (d, e) ((hitem _).mpr ⟨hd, he⟩) hid
      exact ⟨p, (hobservations p).mp hp, hend, sameRequest_iff.mpr hreq⟩
    · intro p hp hreq
      obtain ⟨hcandidate, hstatus', hbody', hheader'⟩ :=
        hagreed p ((hobservations p).mpr hp) (sameRequest_iff.mp hreq)
      exact ⟨hcandidate, hstatus'.trans hstatus.symm, hbody'.trans hbody.symm, hheader'.trans hheader.symm⟩
    · -- the two endpoints are of one target, since a deployment has one
      obtain ⟨hmem, he⟩ := (hitem item).mp hin
      obtain ⟨hmem', he'⟩ := (hitem item').mp hin'
      have hsame : item'.1 = item.1 := hcoherent _ hmem' _ hmem (hd'.trans hd.symm)
      exact ⟨item.1, hmem, hd, item.2, he, item'.2, hsame ▸ he', hne⟩
  · rintro ⟨hanswered, hagreed, d, hd, hid, e, he, e', he', hne⟩
    refine ⟨⟨o, (hobservations o).mpr ho, rfl⟩, ?_, ?_, ?_⟩
    · intro item hin hdeployment
      obtain ⟨hmem, hend⟩ := (hitem item).mp hin
      obtain ⟨p, hp, hpe, hreq⟩ := hanswered item.1 hmem hdeployment item.2 hend
      exact ⟨p, (hobservations p).mpr hp, hpe, sameRequest_iff.mp hreq⟩
    · refine ⟨o.responseStatus, o.responseBodySha256, answeredHeader o, fun p hp hreq => ?_⟩
      exact hagreed p ((hobservations p).mp hp) (sameRequest_iff.mpr hreq)
    · exact ⟨(d, e), (hitem _).mpr ⟨hd, he⟩, (d, e'), (hitem _).mpr ⟨hd, he'⟩, hid, hid, hne⟩

section Waived

variable {ed25519 : String → String → List UInt8 → Bool} {targets : List StaticDeploymentTarget}
  {indexes : List AuthenticatedIndex} {abstentions : List StaticIndexAbstention}
  {observations : List StaticProbeObservation} {policy : EpochPolicy} {record : StaticEpochScore}
  {items : List Incarnation} {values : List StaticProbeObservation}

/-- The rows of evidence with the digest of one of the selected observations. -/
lemma filter_evidence {l : List StaticProbeObservation} {rows : List StaticEvidenceRef}
    (hperm : rows.Perm (l.map evidenceRow))
    (hnodup : (l.map StaticProbeObservation.observationDigestSha256).Nodup) {o : StaticProbeObservation}
    (ho : o ∈ l) :
    (rows.filter fun row => row.observationDigestSha256 = o.observationDigestSha256) = [evidenceRow o] := by
  apply List.perm_singleton.mp
  refine (hperm.filter _).trans ?_
  rw [List.filter_map]
  have hone := Dict.filter_eq_singleton hnodup ho
  exact (congrArg (List.map evidenceRow) hone) ▸ List.Perm.refl _

/-- A charged fault gives its endpoint an action. -/
lemma action_of_charged {j : Judgement} (tally : Tally) {o : StaticProbeObservation} (hj : j.commonMode = false)
    (ho : o ∈ tally.seen) (hcandidate : o.quarantineCandidate = true) (hsuspect : request o ∉ j.suspects) :
    ∃ action, j.action tally = some action := by
  have hcounted : o ∈ tally.counted j.suspects := List.mem_filter.mpr ⟨ho, decide_eq_true hsuspect⟩
  have hfault : o.observationDigestSha256 ∈ tally.faults j.suspects :=
    List.mem_map_of_mem (List.mem_filter.mpr ⟨hcounted, hcandidate⟩)
  have hcharged : j.charged tally ≠ [] := by
    rw [Judgement.charged, hj, if_neg Bool.false_ne_true]
    exact List.ne_nil_of_mem (Sorting.mem_sortOn.mpr hfault)
  exact ⟨_, if_pos (Or.inr hcharged)⟩

/-- What a summary says of a content fault, when the path was not down. -/
lemma Bound.fault (hbound : Bound items values) (indexed : Dict String (String × String))
    (abstained : Dict String AbstentionRecordCode) (minAttempts : ℤ)
    (hcommon : (judgementOf indexed minAttempts items values).commonMode = false)
    {o : StaticProbeObservation} (ho : o ∈ values) (hcandidate : o.quarantineCandidate = true) :
    let derived := summarize indexed abstained minAttempts (talliesOf items values)
    ((∀ row ∈ derived.contentFaultEvidence, row.observationDigestSha256 ≠ o.observationDigestSha256) ↔
      request o ∈ suspectRequests (talliesOf items values)) ∧
    (request o ∉ suspectRequests (talliesOf items values) →
      (derived.contentFaultEvidence.filter
        fun row => row.observationDigestSha256 = o.observationDigestSha256) = [evidenceRow o] ∧
      ∃ action, (derived.endpointActions.filter fun a => a.endpointID = o.endpointID) = [action]) := by
  intro derived
  have hevidence := contentFaultEvidence_perm indexed abstained minAttempts hbound hcommon
  have hnodup : ((chargedFaults items values).map StaticProbeObservation.observationDigestSha256).Nodup :=
    hbound.digests.sublist (List.filter_sublist.map _)
  have hcharged : request o ∉ suspectRequests (talliesOf items values) →
      (derived.contentFaultEvidence.filter
        fun row => row.observationDigestSha256 = o.observationDigestSha256) = [evidenceRow o] := by
    intro hsuspect
    refine filter_evidence hevidence hnodup (List.mem_filter.mpr ⟨ho, ?_⟩)
    rw [hcandidate, decide_eq_true hsuspect]
    rfl
  refine ⟨⟨fun habsent => ?_, fun hsuspect row hrow hdigest => ?_⟩, fun hsuspect => ⟨hcharged hsuspect, ?_⟩⟩
  · by_contra hsuspect
    have hrow : evidenceRow o ∈ derived.contentFaultEvidence.filter
        fun row => row.observationDigestSha256 = o.observationDigestSha256 := by
      rw [hcharged hsuspect]
      exact List.mem_singleton_self _
    exact habsent _ (List.mem_filter.mp hrow).1 rfl
  · obtain ⟨p, hp, rfl⟩ := List.mem_map.mp (hevidence.mem_iff.mp hrow)
    obtain ⟨hmem, hselected⟩ := List.mem_filter.mp hp
    obtain rfl : p = o := List.inj_on_of_nodup_map hbound.digests hmem ho hdigest
    exact of_decide_eq_true (Bool.and_eq_true_iff.mp hselected).2 hsuspect
  · obtain ⟨item, hitem, hof⟩ := hbound.incarnation o ho
    obtain ⟨action, haction⟩ := action_of_charged (tallyOf values item) hcommon
      (mem_ofEndpoint.mpr ⟨ho, hof.1.symm⟩) hcandidate hsuspect
    refine ⟨action, ?_⟩
    rw [← hof.1, filter_endpointActions indexed abstained minAttempts hbound.apart hitem, haction]
    rfl

/-- What a summary says of the attempts of an endpoint. -/
lemma Bound.attempts (hbound : Bound items values) (indexed : Dict String (String × String))
    (abstained : Dict String AbstentionRecordCode) (minAttempts : ℤ) {item : Incarnation} (hitem : item ∈ items) :
    ∃ row, ((summarize indexed abstained minAttempts (talliesOf items values)).endpoints.filter
        fun row => row.endpointID = item.id) = [row] ∧
      row.attempts = row.successes + row.pathFailures + row.minerFailures ∧
      row.attempts = (values.filter fun o => o.endpointID = item.id ∧
        request o ∉ suspectRequests (talliesOf items values)).length := by
  refine ⟨_, filter_endpoints indexed abstained minAttempts hbound.apart hitem, counts_add _ _, ?_⟩
  change (((ofEndpoint values item.id).filter _).length : ℕ) = _
  rw [ofEndpoint, List.filter_filter]
  congr 1
  apply List.filter_congr
  intro o _
  rw [Bool.decide_and, Bool.and_comm]
  rfl

/-- What a scored epoch says of its suspect requests. -/
lemma mem_indexSuspectRequests
    (h : scoreStaticEpoch ed25519 targets indexes abstentions observations policy = .ok record)
    {o : StaticProbeObservation} (ho : o ∈ observations) :
    request o ∈ record.indexSuspectRequests ↔ IndexInQuestion targets observations o := by
  obtain ⟨hbound, rfl, -⟩ := of_scoreStaticEpoch h
  obtain ⟨htargets, hobservations⟩ := mem_evidenceOf targets indexes abstentions observations
  have hcoherent := (scoreStaticEpoch_eq_ok.mp h).1.coherent
  rw [← inQuestion_iff hcoherent htargets hobservations ho, ← mem_suspectRequests hbound]
  exact Sorting.mem_sortOn

/-- **A content fault is waived exactly when the index is in question.** In a scored epoch whose path was not
down, a content fault is absent from the evidence if and only if the index is in question for it; otherwise
it is in the evidence once, under its own endpoint and miner, and its endpoint has one action. In every
scored epoch, the attempts of an endpoint are its successes and its failures of the path and of the miner,
and are its observations but for those of suspect requests.

**Proof sketch.** The evidence is that of the content faults whose request is not suspect, and the suspect
requests are those in question; digests are not repeated, so a row with the digest of an observation is its
row. A charged fault gives its endpoint an action. -/
theorem content_fault_waived_iff
    (h : scoreStaticEpoch ed25519 targets indexes abstentions observations policy = .ok record) :
    (record.epochStatus ≠ .commonModeUnavailable → ∀ o ∈ observations, o.quarantineCandidate = true →
      ((∀ row ∈ record.contentFaultEvidence, row.observationDigestSha256 ≠ o.observationDigestSha256) ↔
        IndexInQuestion targets observations o) ∧
      (¬ IndexInQuestion targets observations o →
        (record.contentFaultEvidence.filter
          fun row => row.observationDigestSha256 = o.observationDigestSha256) = [evidenceRow o] ∧
        ∃ action, (record.endpointActions.filter fun a => a.endpointID = o.endpointID) = [action])) ∧
    (∀ o ∈ observations, request o ∈ record.indexSuspectRequests ↔ IndexInQuestion targets observations o) ∧
    ∀ d ∈ targets, ∀ e ∈ d.endpoints, ∃ row,
      (record.endpoints.filter fun row => row.endpointID = e.endpointID) = [row] ∧
        row.attempts = row.successes + row.pathFailures + row.minerFailures ∧
        row.attempts = (observations.filter fun o =>
          o.endpointID = e.endpointID ∧ request o ∉ record.indexSuspectRequests).length := by
  have hquestion : ∀ o ∈ observations, request o ∈ record.indexSuspectRequests ↔
      IndexInQuestion targets observations o := fun o ho => mem_indexSuspectRequests h ho
  obtain ⟨htargets, hobservations⟩ := mem_evidenceOf targets indexes abstentions observations
  have hperm : (evidenceOf targets indexes abstentions observations).observations.Perm observations :=
    Sorting.sortOn_perm _ _
  obtain ⟨hbound, hrecord, -⟩ := of_scoreStaticEpoch h
  generalize evidenceOf targets indexes abstentions observations = v at hbound hrecord htargets hobservations hperm
  have hsuspects : ∀ r, r ∈ suspectRequests (talliesOf (incarnations v.targets) v.observations) ↔
      r ∈ record.indexSuspectRequests := by
    intro r
    rw [hrecord]
    exact Sorting.mem_sortOn.symm
  refine ⟨?_, hquestion, ?_⟩
  · intro hstatus o ho hcandidate
    have hcommon : (judgementOf v.indexed policy.minAttempts (incarnations v.targets)
        v.observations).commonMode = false := by
      apply decide_eq_false
      intro hdown
      rw [hrecord] at hstatus
      exact hstatus ((epochStatus_summarize _ _ _ _).mpr hdown)
    have hfault := hbound.fault v.indexed v.abstained policy.minAttempts hcommon ((hobservations o).mpr ho) hcandidate
    rw [hsuspects, hquestion o ho] at hfault
    rw [hrecord]
    exact hfault
  · intro d hd e he
    have hitem : (d, e) ∈ incarnations v.targets := mem_incarnations.mpr ⟨(htargets d).mpr hd, he⟩
    obtain ⟨row, hrow, hsum, hcount⟩ :=
      hbound.attempts v.indexed v.abstained policy.minAttempts hitem
    refine ⟨row, ?_, hsum, hcount.trans ?_⟩
    · rw [hrecord]
      exact hrow
    · rw [(hperm.filter _).length_eq]
      simp only [hsuspects]
      rfl

end Waived

/-! ## A sample epoch -/

namespace Sample

/-- An endpoint of the sample. -/
def endpoint (id : String) (minerUID : ℤ) (minerHotkey : String) : StaticEndpointTarget where
  endpointID := id
  generation := 1
  minerUID := minerUID
  minerHotkey := minerHotkey
  minerServicePublicKey := String.ofList (List.replicate 64 'a')
  ticketDigest := "sha256:" ++ String.ofList (List.replicate 64 'd')

/-- A deployment of the sample. -/
def deployment (id : String) (endpoints : List StaticEndpointTarget) : StaticDeploymentTarget where
  deploymentID := id
  routeHost := id ++ ".on.miss.computer"
  siteDigest := "sha256:" ++ String.ofList (List.replicate 64 '1')
  releaseDigest := "sha256:" ++ String.ofList (List.replicate 64 '2')
  serverImplementationDigest := "sha256:" ++ String.ofList (List.replicate 64 '3')
  endpoints := endpoints

/-- A deployment of two miners. -/
def pair : StaticDeploymentTarget := deployment "d" [endpoint "d-1" 1 "5A", endpoint "d-2" 2 "5B"]

/-- A deployment of three miners, one of them a miner of the pair. -/
def trio : StaticDeploymentTarget :=
  deployment "e" [endpoint "e-1" 1 "5A", endpoint "e-2" 3 "5C", endpoint "e-3" 4 "5D"]

/-- The index of a deployment: a site of one document. -/
def index (t : StaticDeploymentTarget) : AuthenticatedIndex where
  manifest := Static.oneFileSite
  routes := StaticIndex.routes Static.oneFileSite
  target := t
  trustPolicyDigestSha256 := String.ofList (List.replicate 64 '4')

/-- The policy of the sample. -/
def policy : EpochPolicy where
  validatorHotkey := "5V"
  epochIndex := 1
  epochSeconds := 300
  minAttempts := 1
  probeBodyCeiling := hiddenProbeCeilingBytes
  network := .finney
  netuid := 24
  publicTransportPolicy := none
  releaseRevocation := none

/-- A probe of the document at the root that was answered with a wrong status, or not at all; without its
digest. -/
def answered (t : StaticDeploymentTarget) (e : StaticEndpointTarget) (nonce : Char) (status : Option ℤ) :
    StaticProbeObservation where
  schemaVersion := .direct
  probeKind := .hidden
  validatorHotkey := "5V"
  deploymentID := t.deploymentID
  siteDigest := t.siteDigest
  releaseDigest := t.releaseDigest
  releaseTrustPolicyDigestSha256 := String.ofList (List.replicate 64 '4')
  endpointID := e.endpointID
  generation := e.generation
  minerUID := e.minerUID
  minerHotkey := e.minerHotkey
  probeNonce := String.ofList (List.replicate 64 nonce)
  issuedAt := "1970-01-01T00:06:40Z"
  requestMethod := .get
  requestPath := "/"
  expectedKind := .directoryIndex
  expectedStatus := 200
  expectedContentLength := 5
  expectedBodySha256 := String.ofList (List.replicate 64 'a')
  expectedHeaderSha256 := "e3be9a6f37e9c7eaaddada4f8d2e812dd79580528003e0d55890cd65edbe8525"
  latencyMillis := 20
  outcome := .failure
  failureCode := some (if status = none then .timeout else .statusMismatch)
  attribution := if status = none then .path else .miner
  quarantineCandidate := status ≠ none
  upstreamMarker := status ≠ none
  responseStatus := status
  responseBytes := 0
  responseBodySha256 := none
  responseHeaderSha256 := none
  tlsLeafCertificateSha256 := none
  attestationStatus := .notPresented
  attestation := none
  publicFraming := false
  transportPolicyDigestSha256 := none
  deliveredHTTPVersion := none
  deliveredHeaders := none
  observationDigestSha256 := ""

/-- A probe of the sample. -/
def observation (t : StaticDeploymentTarget) (e : StaticEndpointTarget) (nonce : Char) (status : Option ℤ) :
    StaticProbeObservation :=
  (answered t e nonce status).sealed

/-- What the probes of the trio saw: a wrong status of the first endpoint, and nothing of the others. -/
def elsewhere : List StaticProbeObservation :=
  [observation trio (endpoint "e-1" 1 "5A") 'c' (some 404), observation trio (endpoint "e-2" 3 "5C") 'd' none,
    observation trio (endpoint "e-3" 4 "5D") 'e' none]

/-- The probes of an epoch in which the second endpoint of the pair answered with a status. -/
def run (status : ℤ) : List StaticProbeObservation :=
  observation pair (endpoint "d-1" 1 "5A") 'a' (some 404) ::
    observation pair (endpoint "d-2" 2 "5B") 'b' (some status) :: elsewhere

/-- The response expected at the root. -/
def root : StaticIndex.ExpectedStaticResponse :=
  StaticIndex.expectedFile StaticIndex.bodyDigest StaticIndex.pairsDigest "/".toList .get .directoryIndex
    ⟨List.replicate 64 'a', 5, Static.htmlType, Static.indexPath⟩

lemma expected_root (t : StaticDeploymentTarget) : (index t).expectedResponse .get "/" = .ok root := by
  have hpath : StaticIndex.validateRequestPath "/".toList = .ok () := by decide
  have hroute : (StaticIndex.routes Static.oneFileSite).lookup "/".toList =
      some ⟨List.replicate 64 'a', 5, Static.htmlType, Static.indexPath⟩ := by decide
  have hindexed : Static.indexPath ≠ "/".toList := by decide
  unfold AuthenticatedIndex.expectedResponse StaticIndex.expectedStaticResponse
  rw [hpath]
  dsimp only [index]
  rw [hroute]
  dsimp only
  rw [if_neg hindexed]
  rfl

/-- The header the site announces at the root, in the order of its names. -/
lemma expects_header : "e3be9a6f37e9c7eaaddada4f8d2e812dd79580528003e0d55890cd65edbe8525".toList =
    root.headerSha256 := by
  have hsorted : ((StaticIndex.normativeHeaders Static.htmlType 5).map fun pair =>
        (Static.lower pair.1, pair.2)).mergeSort (fun a b => a.1 ≤ b.1) =
      (StaticIndex.normativeHeaders Static.htmlType 5).map fun pair => (Static.lower pair.1, pair.2) := by
    apply List.mergeSort_of_pairwise
    decide
  rw [root, StaticIndex.expectedFile, StaticIndex.expected, Static.responseHeaderSha256, hsorted,
    StaticIndex.pairsDigest, digest, sha256Hex, Sha256.sum256_eq_numeral]
  decide +kernel

/-- The texts of a target of the sample. -/
structure Fields (t : StaticDeploymentTarget) (e : StaticEndpointTarget) : Prop where
  deploymentID : dnsLabel t.deploymentID = true
  siteDigest : sha256Digest t.siteDigest = true
  releaseDigest : sha256Digest t.releaseDigest = true
  endpointID : Contract.endpointID e.endpointID = true
  generation : positiveCount e.generation = true
  minerUID : uid e.minerUID = true
  minerHotkey : hotkey e.minerHotkey = true

lemma fields_of_mem {t : StaticDeploymentTarget} (ht : t ∈ [pair, trio]) {e : StaticEndpointTarget}
    (he : e ∈ t.endpoints) : Fields t e := by
  have hsite : sha256Digest t.siteDigest = true ∧ sha256Digest t.releaseDigest = true := by
    simp only [List.mem_cons, List.not_mem_nil, or_false] at ht
    rcases ht with rfl | rfl <;> exact ⟨sha256Digest_replicate (by decide), sha256Digest_replicate (by decide)⟩
  have hids : ∀ t ∈ [pair, trio], dnsLabel t.deploymentID = true ∧ ∀ e ∈ t.endpoints,
      Contract.endpointID e.endpointID = true ∧ positiveCount e.generation = true ∧ uid e.minerUID = true ∧
        hotkey e.minerHotkey = true := by
    decide
  obtain ⟨hlabel, hends⟩ := hids t ht
  obtain ⟨hend, hgen, huid, hkey⟩ := hends e he
  exact ⟨hlabel, hsite.1, hsite.2, hend, hgen, huid, hkey⟩

/-- A probe of the sample is a valid observation. -/
lemma observation_valid {t : StaticDeploymentTarget} (ht : t ∈ [pair, trio]) {e : StaticEndpointTarget}
    (he : e ∈ t.endpoints) {nonce : Char} (hnonce : Protocol.hexDigit nonce = true) {status : Option ℤ}
    (hstatus : ∀ code ∈ status, Contract.status code = true) : (observation t e nonce status).Valid := by
  obtain ⟨hlabel, hsite, hrelease, hend, hgen, huid, hkey⟩ := fields_of_mem ht he
  rw [observation, StaticProbeObservation.sealed_valid_iff]
  constructor
  · unfold StaticProbeObservation.DocumentValid
    dsimp only [answered]
    exact ⟨by decide, hlabel, hsite, hrelease, hex64_replicate (by decide), hend, hgen, huid, hkey,
      hex64_replicate hnonce, by decide, by decide, by decide, by decide,
      hex64_replicate (by decide), by decide, by decide, hstatus, by decide, by simp, by simp, by simp,
      by simp, by simp⟩
  · unfold StaticProbeObservation.Consistent StaticProbeObservation.ProfileValid
      StaticProbeObservation.DeliveredValid StaticProbeObservation.SuccessValid
      StaticProbeObservation.FramingValid
    dsimp only [answered]
    cases status with
    | none => simp [staticFailureAttribution, StaticFailureCode.attribution, contentFaults]
    | some code => simp [staticFailureAttribution, StaticFailureCode.attribution, contentFaults]

/-- The targets of the sample are valid. -/
lemma target_valid {t : StaticDeploymentTarget} (ht : t ∈ [pair, trio]) : t.Valid := by
  have hroute : ∀ t ∈ [pair, trio], Organic.OrganicDeploymentAssignment.hostname t.routeHost = true ∧
      (1 ≤ t.endpoints.length ∧ t.endpoints.length ≤ 8) ∧
      (t.endpoints.map StaticEndpointTarget.endpointID).Nodup := by
    decide
  have hkeys : sha256Digest t.serverImplementationDigest = true ∧ t.endpoints ≠ [] ∧ ∀ e ∈ t.endpoints,
      hex64 e.minerServicePublicKey = true ∧ sha256Digest e.ticketDigest = true := by
    have hend : ∀ id minerUID minerHotkey, hex64 (endpoint id minerUID minerHotkey).minerServicePublicKey = true ∧
        sha256Digest (endpoint id minerUID minerHotkey).ticketDigest = true :=
      fun _ _ _ => ⟨hex64_replicate (by decide), sha256Digest_replicate (by decide)⟩
    simp only [List.mem_cons, List.not_mem_nil, or_false] at ht
    rcases ht with rfl | rfl <;> refine ⟨sha256Digest_replicate (by decide), by simp [pair, trio, deployment], ?_⟩
    · simp only [pair, deployment, List.forall_mem_cons, hend, List.not_mem_nil, false_implies, implies_true, and_self]
    · simp only [trio, deployment, List.forall_mem_cons, hend, List.not_mem_nil, false_implies, implies_true, and_self]
  obtain ⟨hserver, hne, hkeys⟩ := hkeys
  obtain ⟨hhost, hlength, hnodup⟩ := hroute t ht
  obtain ⟨first, hfirst⟩ := List.exists_mem_of_ne_nil _ hne
  obtain ⟨hlabel, hsite, hrelease, -⟩ := fields_of_mem ht hfirst
  refine ⟨hlabel, hhost, hsite, hrelease, hserver, hlength, fun e he => ?_, hnodup⟩
  obtain ⟨-, -, -, hend, hgen, huid, hkey⟩ := fields_of_mem ht he
  exact ⟨hend, hgen, huid, hkey, (hkeys e he).1, (hkeys e he).2⟩

/-- The scorer accepts a probe of the sample. -/
lemma verify_observation {t : StaticDeploymentTarget} (ht : t ∈ [pair, trio]) {e : StaticEndpointTarget}
    (he : e ∈ t.endpoints) {nonce : Char} {status : Option ℤ} :
    verifyObservation (fun _ _ _ => false) (observation t e nonce status) (index t)
      hiddenProbeCeilingBytes = .ok () := by
  have hfound : findStaticEndpoint (index t) (observation t e nonce status).endpointID = some e := by
    have hall : ∀ t ∈ [pair, trio], ∀ e ∈ t.endpoints, findStaticEndpoint (index t) e.endpointID = some e := by
      decide
    exact hall t ht e he
  have hexpects : Expects (observation t e nonce status) root :=
    ⟨rfl, rfl, rfl, String.toList_ofList, expects_header⟩
  rw [verifyObservation, hfound]
  simp only [Except.bind_eq_ok, Except.reject_eq_ok, Except.mapError_eq_ok, exists_const]
  refine ⟨?_, ?_, root, expected_root t, not_not.mpr hexpects, ?_, ?_, ?_, ?_⟩
  · simp [observation, StaticProbeObservation.sealed, answered, index]
  · simp [observation, StaticProbeObservation.sealed, answered, index]
  · change ¬ ((5 : ℤ) > hiddenProbeCeilingBytes ∨ (0 : ℤ) > hiddenProbeCeilingBytes + 1)
    decide
  · exact not_not.mpr rfl
  · rintro ⟨hframed, -⟩
    exact absurd (show Version.direct = .framed from hframed) (by decide)
  · rintro ⟨hframed, -⟩
    exact absurd (show Version.direct = .framed from hframed) (by decide)

/-! ### The digests of the sample -/

/-- The first digits of the digest of an observation. -/
def digits (o : StaticProbeObservation) : List Char := o.observationDigestSha256.toList.take 2

/-- They are those of its document. -/
lemma digits_observation (t : StaticDeploymentTarget) (e : StaticEndpointTarget) (nonce : Char)
    (status : Option ℤ) : digits (observation t e nonce status) =
      (Hex.encode (Sha256.Numeral.sum256 ((canonicalJson (document (answered t e nonce status).members)).map
        UInt8.toNat))).take 2 := by
  rw [← Sha256.sum256_eq_numeral]
  exact congrArg (List.take 2) String.toList_ofList

/-- The probes of the two runs have different first digits. -/
lemma digits_run : digits (observation pair (endpoint "d-1" 1 "5A") 'a' (some 404)) = ['f', 'a'] ∧
    digits (observation pair (endpoint "d-2" 2 "5B") 'b' (some 500)) = ['1', '9'] ∧
    digits (observation pair (endpoint "d-2" 2 "5B") 'b' (some 404)) = ['d', 'd'] ∧
    digits (observation trio (endpoint "e-1" 1 "5A") 'c' (some 404)) = ['6', '6'] ∧
    digits (observation trio (endpoint "e-2" 3 "5C") 'd' none) = ['4', '4'] ∧
    digits (observation trio (endpoint "e-3" 4 "5D") 'e' none) = ['9', '7'] := by
  simp only [digits_observation, document, StaticProbeObservation.members, answered, pair, trio, deployment, endpoint,
    Contract.text, List.map_append, List.map_cons, List.map_nil, String.toList_append, ProbeKind.text]
  repeat rw [String.toList_ofList]
  and_intros <;> decide +kernel

/-! ### Its epochs -/

/-- The probes of the sample are of its endpoints, with nonces that are not repeated. -/
lemma of_mem_run {status : ℤ} {o : StaticProbeObservation} (ho : o ∈ run status) : ∃ t ∈ [pair, trio],
    ∃ e ∈ t.endpoints, ∃ nonce, Protocol.hexDigit nonce = true ∧ ∃ answer ∈ [none, some 404, some status],
      o = observation t e nonce answer := by
  simp only [run, elsewhere, List.mem_cons, List.not_mem_nil, or_false] at ho
  rcases ho with rfl | rfl | rfl | rfl | rfl
  · exact ⟨pair, by simp, _, by simp [pair, deployment], 'a', by decide, _, by simp, rfl⟩
  · exact ⟨pair, by simp, _, by simp [pair, deployment], 'b', by decide, _, by simp, rfl⟩
  · exact ⟨trio, by simp, _, by simp [trio, deployment], 'c', by decide, _, by simp, rfl⟩
  · exact ⟨trio, by simp, _, by simp [trio, deployment], 'd', by decide, _, by simp, rfl⟩
  · exact ⟨trio, by simp, _, by simp [trio, deployment], 'e', by decide, _, by simp, rfl⟩

lemma length_run (status : ℤ) : (run status).length = 5 := rfl

lemma digests_nodup {status : ℤ} (hstatus : status ∈ [404, 500]) :
    ((run status).map StaticProbeObservation.observationDigestSha256).Nodup := by
  apply List.Nodup.of_map fun digest : String => digest.toList.take 2
  rw [List.map_map]
  obtain ⟨hd1, hd2, hd2', he1, he2, he3⟩ := digits_run
  have hdigits : ((run status).map digits).Nodup := by
    simp only [List.mem_cons, List.not_mem_nil, or_false] at hstatus
    rcases hstatus with rfl | rfl
    · simp only [run, elsewhere, List.map_cons, List.map_nil, hd1, hd2', he1, he2, he3]
      decide
    · simp only [run, elsewhere, List.map_cons, List.map_nil, hd1, hd2, he1, he2, he3]
      decide
  exact hdigits

/-- The probes of the sample are of its epoch. -/
lemma issued_at : timestampEpochSeconds "1970-01-01T00:06:40Z" = some 400 := by
  decide

lemma admissible {status : ℤ} (hstatus : status ∈ [404, 500]) :
    Admissible (fun _ _ _ => false) [pair, trio] [index pair, index trio] [] (run status) policy where
  policyValid := by decide
  few := ⟨by decide, by rw [length_run]; decide⟩
  targetsValid := fun t ht => target_valid ht
  coherent := by
    unfold Coherent
    decide
  verified := ⟨by decide, by decide⟩
  abstained := ⟨by simp, List.nodup_nil⟩
  complete := by decide
  revocable := by simp
  observationsValid := by
    intro o ho
    obtain ⟨t, ht, e, he, nonce, hnonce, answer, hanswer, rfl⟩ := of_mem_run ho
    apply observation_valid ht he hnonce
    simp only [List.mem_cons, List.not_mem_nil, or_false] at hstatus hanswer
    rcases hstatus with rfl | rfl <;> rcases hanswer with rfl | rfl | rfl <;> decide
  transport := by simp [policy]
  carried := by
    intro o ho
    obtain ⟨t, -, e, -, nonce, -, answer, -, rfl⟩ := of_mem_run ho
    exact ⟨rfl, rfl⟩
  judged := by
    refine ⟨?_, digests_nodup hstatus, ?_⟩
    · intro o ho
      obtain ⟨t, ht, e, he, nonce, -, answer, -, rfl⟩ := of_mem_run ho
      refine ⟨rfl, rfl, ?_, by simp, index t, ?_, rfl, verify_observation ht he⟩
      · exact ⟨400, issued_at, by decide⟩
      · simp only [List.mem_cons, List.not_mem_nil, or_false] at ht
        rcases ht with rfl | rfl <;> simp
    · apply List.Nodup.of_map fun nonce : String => nonce.toList.head?
      rw [List.map_map]
      change [_, _, _, _, _].Nodup
      simp only [Function.comp_apply, observation, StaticProbeObservation.sealed, answered, String.toList_ofList]
      decide

/-- The evidence of a run of the sample. -/
def evidence (status : ℤ) : Evidence := evidenceOf [pair, trio] [index pair, index trio] [] (run status)

lemma targets_evidence (status : ℤ) : (evidence status).targets = [pair, trio] := by
  change Sorting.sortOn StaticDeploymentTarget.deploymentID [pair, trio].dedup = _
  decide

lemma countable (status : ℤ) : Countable (evidence status) := by
  constructor
  · rw [targets_evidence]
    exact ⟨by decide, by decide⟩
  · intro endpoint
    refine (List.length_filter_le _ _).trans ?_
    rw [evidence, evidenceOf, Sorting.length_sortOn, length_run]
    decide

lemma routeSizes_index (t : StaticDeploymentTarget) : routeSizes (index t) = [5, 5] := by
  change routeSizes (index pair) = [5, 5]
  decide

lemma mem_indexes {status : ℤ} {i : AuthenticatedIndex} (hi : i ∈ (evidence status).indexes) :
    ∃ t ∈ [pair, trio], i = index t := by
  rw [evidence, evidenceOf, Sorting.mem_sortOn] at hi
  simp only [List.mem_cons, List.not_mem_nil, or_false] at hi
  rcases hi with rfl | rfl
  · exact ⟨pair, by simp, rfl⟩
  · exact ⟨trio, by simp, rfl⟩

lemma length_observations (status : ℤ) : (evidence status).observations.length = 5 := by
  rw [evidence, evidenceOf, Sorting.length_sortOn, length_run]

/-- The document at the root is all the sample probes. -/
lemma probed_evidence (status : ℤ) (deploymentID : String) :
    (probed (evidence status).observations deploymentID).1 ≤ 1 := by
  have hpath : ∀ o ∈ (evidence status).observations, o.requestPath = "/" := by
    intro o ho
    rw [evidence, evidenceOf, Sorting.mem_sortOn] at ho
    obtain ⟨t, -, e, -, nonce, -, answer, -, rfl⟩ := of_mem_run ho
    rfl
  suffices h : List.Subperm _ ["/"] from h.length_le
  apply (List.nodup_dedup _).subperm
  intro path hmem
  rw [List.mem_dedup, List.mem_map] at hmem
  obtain ⟨o, ho, rfl⟩ := hmem
  rw [hpath o (List.mem_of_mem_filter (List.mem_of_mem_filter ho))]
  exact List.mem_singleton_self _

lemma fits {status : ℤ} (hstatus : status ∈ [404, 500]) : Fits policy (evidence status) where
  network := by decide
  validatorHotkey := by decide
  epochIndex := by decide
  transportDigest := by simp [policy]
  revocation := by simp [policy]
  coverage := by
    intro i hi
    obtain ⟨t, ht, rfl⟩ := mem_indexes hi
    have hprobed := probed_evidence status t.deploymentID
    have htarget : (index t).target.Valid := target_valid ht
    have htrust : hex64 (index t).trustPolicyDigestSha256 = true := hex64_replicate (by decide)
    have hfew : (evidence status).observations.length ≤ maxObservations := by
      rw [length_observations]
      decide
    have hroutes := routeSizes_index t
    refine coverageRow_valid (by decide) htarget htrust ?_ ?_ ?_ hfew
    · rw [hroutes]
      decide
    · rw [hroutes]
      decide
    · rw [hroutes]
      exact hprobed.trans (by decide)
  covered := by
    intro i hi
    obtain ⟨t, ht, rfl⟩ := mem_indexes hi
    rw [routeSizes_index]
    exact ⟨by decide, (probed_evidence status t.deploymentID).trans (by decide)⟩
  alerts := by
    refine (length_alerts_le ((admissible hstatus).bound (countable status).1)).trans ?_
    change 5 * (incarnations (evidence status).targets).length + 1 + (evidence status).observations.length ≤ _
    rw [targets_evidence, length_observations]
    decide

/-- The epochs of the sample are scored. -/
lemma scored {status : ℤ} (hstatus : status ∈ [404, 500]) :
    scoreStaticEpoch (fun _ _ _ => false) [pair, trio] [index pair, index trio] [] (run status) policy =
      .ok (epochRecord policy (evidence status) (derivedOf policy (evidence status))) :=
  scoreStaticEpoch_eq_ok_iff.mpr ⟨admissible hstatus, countable status, fits hstatus, rfl⟩

end Sample

/-- In the sample, the suspect requests are those whose index is in question. -/
theorem content_fault_waived_run : ∃ record,
    scoreStaticEpoch (fun _ _ _ => false) [Sample.pair, Sample.trio] [Sample.index Sample.pair,
      Sample.index Sample.trio] [] (Sample.run 500) Sample.policy = .ok record ∧
    ∀ o ∈ Sample.run 500, request o ∈ record.indexSuspectRequests ↔
      IndexInQuestion [Sample.pair, Sample.trio] (Sample.run 500) o :=
  ⟨_, Sample.scored (by decide), (content_fault_waived_iff (Sample.scored (by decide))).2.1⟩

end StaticScoring

end Misscomputer
