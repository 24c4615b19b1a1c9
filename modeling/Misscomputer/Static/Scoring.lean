import Misscomputer.Organic.Tallies
import Misscomputer.Static.Evaluation

set_option relaxedAutoImplicit false
set_option autoImplicit false

/-!
# Scoring a static epoch

The static scorer: it binds hidden observations to the targets and the state of their indexes, finds the
requests that put an index in question, tallies the rest, and seals what follows from the tallies.

## Main definitions

* `StaticScoring.suspectRequests` — the requests every incarnation of a deployment answered with one wrong
  response.
* `StaticScoring.deriveStaticEpoch` — every field of a record that follows from its evidence.
* `StaticScoring.StaticEpochScore` — the sealed record.
* `StaticScoring.scoreStaticEpoch` — the scorer.

## Implementation notes

The source gathers the answers to a request in nested dictionaries of sets; here the same sets are taken as
comprehensions over the tallies. Its second loop over the observations counts those that are not of a
suspect request; here they are filtered and counted.

## References

* `src/misscomputer_subnet/static_scoring.py`
* `src/misscomputer_subnet/static_index.py` (`StaticIndexAbstention`)
* `src/misscomputer_subnet/static_probe.py` (`static_probe_coverage`)
-/

namespace Misscomputer

namespace StaticScoring

open Contract
open Except (reject)
open Organic (EpochStatus MinerProbeAttestationV2)
open StaticIndex (AuthenticatedIndex Method StaticDeploymentTarget StaticEndpointTarget)
open StaticProbe

/-! ## The vocabulary -/

/-- `AbstentionRecordCode`. -/
inductive AbstentionRecordCode
  | staticIndexInvalid | staticIndexUnavailable | staticReleaseRevoked
deriving DecidableEq, Repr

/-- `AbstentionCode`. -/
inductive AbstentionCode
  | handlerUnsupported | indexInvalid | indexLimitsExceeded | indexNotCanonical | indexOversized
  | indexUnavailable | producerPolicyUnsupported | releaseBindingMismatch | releaseDigestMismatch
  | releaseInvalid | releaseRevoked | releaseUnavailable | serverImplementationMismatch
  | signatureInvalid | signerOutsideValidity | signerUntrusted | siteDigestMismatch
deriving DecidableEq, Repr

/-- The code in a document. -/
def AbstentionCode.text : AbstentionCode → String
  | handlerUnsupported => "handler_unsupported"
  | indexInvalid => "index_invalid"
  | indexLimitsExceeded => "index_limits_exceeded"
  | indexNotCanonical => "index_not_canonical"
  | indexOversized => "index_oversized"
  | indexUnavailable => "index_unavailable"
  | producerPolicyUnsupported => "producer_policy_unsupported"
  | releaseBindingMismatch => "release_binding_mismatch"
  | releaseDigestMismatch => "release_digest_mismatch"
  | releaseInvalid => "release_invalid"
  | releaseRevoked => "release_revoked"
  | releaseUnavailable => "release_unavailable"
  | serverImplementationMismatch => "server_implementation_mismatch"
  | signatureInvalid => "signature_invalid"
  | signerOutsideValidity => "signer_outside_validity"
  | signerUntrusted => "signer_untrusted"
  | siteDigestMismatch => "site_digest_mismatch"

/-- `record_code`. -/
def AbstentionCode.recordCode : AbstentionCode → AbstentionRecordCode
  | indexUnavailable | releaseUnavailable => .staticIndexUnavailable
  | releaseRevoked => .staticReleaseRevoked
  | _ => .staticIndexInvalid

/-- `StaticIndexAbstention`. -/
structure StaticIndexAbstention where
  deploymentID : String
  siteDigest : String
  code : AbstentionCode
deriving DecidableEq

/-- `Disposition`. -/
inductive Disposition
  | abstainIndex | abstainInsufficientAttempts | eligible | excludedCommonMode
deriving DecidableEq, Repr

/-- The disposition in a document. -/
def Disposition.text : Disposition → String
  | abstainIndex => "abstain_index"
  | abstainInsufficientAttempts => "abstain_insufficient_attempts"
  | eligible => "eligible"
  | excludedCommonMode => "excluded_common_mode"

/-- `AlertCode`. -/
inductive AlertCode
  | attestationFraud | commonMode | contentFault | indexSuspect | pathTampering | replayObserved
  | abstention (code : AbstentionRecordCode)
deriving DecidableEq, Repr

/-- The code of an abstention in a document. -/
def AbstentionRecordCode.text : AbstentionRecordCode → String
  | staticIndexInvalid => "static_index_invalid"
  | staticIndexUnavailable => "static_index_unavailable"
  | staticReleaseRevoked => "static_release_revoked"

/-- The code in a document. -/
def AlertCode.text : AlertCode → String
  | attestationFraud => "static_attestation_fraud"
  | commonMode => "static_common_mode"
  | contentFault => "static_content_fault"
  | indexSuspect => "static_index_suspect"
  | pathTampering => "static_path_tampering"
  | replayObserved => "static_replay_observed"
  | abstention code => code.text

/-- `ActionReason`. -/
inductive ActionReason
  | attestationFraud | contentFault
deriving DecidableEq, Repr

/-- The reason in a document. -/
def ActionReason.text : ActionReason → String
  | attestationFraud => "attestation_fraud"
  | contentFault => "content_fault"

/-- What is raised: a `StaticScoringError` with its code, or the error of a contract. -/
inductive StaticFailure
  | scoring (code : StaticScoringRejectionCode)
  | contract (text : String)
deriving DecidableEq, Repr

/-- `MAX_ATTEMPTS_PER_ENDPOINT`. -/
def maxAttemptsPerEndpoint : ℕ := 16

/-- `MAX_DEPLOYMENTS`. -/
def maxDeployments : ℕ := 4096

/-- `MAX_ENDPOINTS`. -/
def maxEndpoints : ℕ := maxDeployments * 8

/-- `MAX_OBSERVATIONS`. -/
def maxObservations : ℕ := maxEndpoints * maxAttemptsPerEndpoint

/-! ## The rows of a record -/

/-- `StaticEndpointTally`. -/
structure StaticEndpointTally where
  deploymentID : String
  endpointID : String
  siteDigest : String
  minerUID : ℤ
  minerHotkey : String
  attempts : ℕ
  successes : ℕ
  pathFailures : ℕ
  minerFailures : ℕ
  cacheReplays : ℕ
  alteredInTransit : ℕ
  contentFaults : ℕ
  fraudulentAttestations : ℕ
  disposition : Disposition
  availabilityNumerator : Option ℕ
  availabilityDenominator : Option ℕ
deriving DecidableEq

/-- `StaticDeploymentCoverage`. -/
structure StaticDeploymentCoverage where
  deploymentID : String
  siteDigest : String
  releaseDigest : String
  releaseTrustPolicyDigestSha256 : String
  ceilingBytes : ℤ
  routesTotal : ℕ
  bytesTotal : ℤ
  bytesGetEligible : ℤ
  routesProbed : ℕ
  routesBodyVerified : ℕ
  unlistedPathProbes : ℕ
deriving DecidableEq

/-- `StaticIndexAbstentionRow`. -/
structure StaticIndexAbstentionRow where
  deploymentID : String
  siteDigest : String
  code : AbstentionCode
  recordCode : AbstentionRecordCode
deriving DecidableEq

/-- `StaticEvidenceRef`. -/
structure StaticEvidenceRef where
  minerUID : ℤ
  minerHotkey : String
  deploymentID : String
  endpointID : String
  observationDigestSha256 : String
deriving DecidableEq

/-- `StaticEndpointAction`; an action always removes, replaces and quarantines. -/
structure StaticEndpointAction where
  deploymentID : String
  endpointID : String
  minerUID : ℤ
  minerHotkey : String
  reason : ActionReason
  trustZero : Bool
  evidenceDigests : List String
deriving DecidableEq

/-- `StaticAlert`. -/
structure StaticAlert where
  code : AlertCode
  deploymentID : Option String
  endpointID : Option String
deriving DecidableEq

/-- A request to a deployment. -/
structure StaticSuspectRequest where
  deploymentID : String
  requestMethod : Method
  requestPath : String
deriving DecidableEq

/-! ## Tallies -/

/-- `_Tally`, with what was seen of an endpoint. -/
structure Tally where
  deployment : StaticDeploymentTarget
  endpoint : StaticEndpointTarget
  seen : List StaticProbeObservation

/-- The dictionaries of the loop over the targets. -/
structure Published where
  tallies : Dict String Tally
  identities : Dict ℤ String
  hotkeys : Dict String ℤ

/-- One round of the loop over the endpoints of the targets. -/
def Published.add (s : Published) (item : StaticDeploymentTarget × StaticEndpointTarget) :
    Except StaticFailure Published := do
  let endpoint := item.2
  reject (endpoint.endpointID ∈ s.tallies.keys ∨
    (s.identities.get endpoint.minerUID).getD endpoint.minerHotkey ≠ endpoint.minerHotkey ∨
    (s.hotkeys.get endpoint.minerHotkey).getD endpoint.minerUID ≠ endpoint.minerUID)
    (.scoring .identityConflict)
  return {
    tallies := s.tallies.set endpoint.endpointID ⟨item.1, endpoint, []⟩
    identities := s.identities.setdefault endpoint.minerUID endpoint.minerHotkey
    hotkeys := s.hotkeys.setdefault endpoint.minerHotkey endpoint.minerUID }

/-- The deployments and their endpoints, in the order of the targets. -/
def incarnations (targets : List StaticDeploymentTarget) :
    List (StaticDeploymentTarget × StaticEndpointTarget) :=
  targets.flatMap fun d => d.endpoints.map fun e => (d, e)

/-- The observation was issued in the epoch. -/
def checkEpoch (epochSeconds epochIndex : ℤ) (issuedAt : String) : Except StaticFailure Unit :=
  match timestampEpochSeconds issuedAt with
  | none => .error (.contract "timestamp must use Go RFC3339Nano format")
  | some seconds => reject (epochIndexOf seconds epochSeconds ≠ epochIndex) (.scoring .epochMismatch)

/-- One round of the loop over the observations. -/
def observe (indexed : Dict String (String × String)) (epochSeconds epochIndex : ℤ)
    (tallies : Dict String Tally) (obs : StaticProbeObservation) : Except StaticFailure (Dict String Tally) := do
  checkEpoch epochSeconds epochIndex obs.issuedAt
  match tallies.get obs.endpointID with
  | none => .error (.scoring .observationUnpublished)
  | some tally => do
    reject (indexed.get obs.deploymentID ≠ some (obs.releaseDigest, obs.releaseTrustPolicyDigestSha256))
      (.scoring .indexAbstained)
    reject ((tally.seen ++ [obs]).length > maxAttemptsPerEndpoint) (.scoring .attemptsOverflow)
    return tallies.set obs.endpointID { tally with seen := tally.seen ++ [obs] }

/-! ## Suspect requests -/

/-- What `_answer` returns. -/
inductive Answer
  | pass
  | fault (status : Option ℤ) (body header : Option String)
  | other (code : Option StaticFailureCode)
deriving DecidableEq

/-- The header digest answers are compared by: what was attested over the public transport, what was observed
over the direct one. -/
def answeredHeader (obs : StaticProbeObservation) : Option String :=
  match obs.schemaVersion, obs.attestation with
  | .framed, some a => some a.responseHeaderSha256
  | _, _ => obs.responseHeaderSha256

/-- `_answer`. -/
def answer (obs : StaticProbeObservation) : Answer :=
  if obs.outcome = .success then .pass
  else if obs.quarantineCandidate then
    .fault obs.responseStatus obs.responseBodySha256 (answeredHeader obs)
  else .other obs.failureCode

/-- The request of an observation to an endpoint of a deployment. -/
def requestOf (deploymentID : String) (obs : StaticProbeObservation) : StaticSuspectRequest :=
  ⟨deploymentID, obs.requestMethod, obs.requestPath⟩

/-- The requests that were made: `answers`, its keys. -/
def requests (tallies : Dict String Tally) : List StaticSuspectRequest :=
  (tallies.flatMap fun entry => entry.2.seen.map (requestOf entry.2.deployment.deploymentID)).dedup

/-- `answers[request]`, its keys: the endpoints that answered a request. -/
def answering (tallies : Dict String Tally) (request : StaticSuspectRequest) : List String :=
  (tallies.filter fun entry =>
    decide (request ∈ entry.2.seen.map (requestOf entry.2.deployment.deploymentID))).map Prod.fst

/-- `values`: the answers to a request, of all endpoints. -/
def answersTo (tallies : Dict String Tally) (request : StaticSuspectRequest) : List Answer :=
  (tallies.flatMap fun entry => (entry.2.seen.filter fun obs =>
    requestOf entry.2.deployment.deploymentID obs = request).map answer).dedup

/-- `population`. -/
def population (tallies : Dict String Tally) (deploymentID : String) : List String :=
  (tallies.filter fun entry => entry.2.deployment.deploymentID = deploymentID).map Prod.fst

/-- `miners`. -/
def minersOf (tallies : Dict String Tally) (deploymentID : String) : List String :=
  ((tallies.filter fun entry => entry.2.deployment.deploymentID = deploymentID).map
    fun entry => entry.2.endpoint.minerHotkey).dedup

/-- An answer that is neither a success nor without proof of a fault. -/
def Answer.isFault : Answer → Bool
  | fault _ _ _ => true
  | _ => false

/-- The condition under which a request puts the index in question. -/
def Suspect (tallies : Dict String Tally) (request : StaticSuspectRequest) : Prop :=
  (∀ endpoint, endpoint ∈ answering tallies request ↔
      endpoint ∈ population tallies request.deploymentID) ∧
    (minersOf tallies request.deploymentID).length ≥ 2 ∧
    ∃ value, answersTo tallies request = [value] ∧ value.isFault = true

instance (tallies : Dict String Tally) (request : StaticSuspectRequest) : Decidable (Suspect tallies request) := by
  have hsets : Decidable (∀ endpoint, endpoint ∈ answering tallies request ↔
      endpoint ∈ population tallies request.deploymentID) :=
    decidable_of_iff ((∀ endpoint ∈ answering tallies request,
        endpoint ∈ population tallies request.deploymentID) ∧
      ∀ endpoint ∈ population tallies request.deploymentID, endpoint ∈ answering tallies request)
      ⟨fun h endpoint => ⟨h.1 endpoint, h.2 endpoint⟩,
        fun h => ⟨fun endpoint => (h endpoint).mp, fun endpoint => (h endpoint).mpr⟩⟩
  have hvalue : Decidable (∃ value, answersTo tallies request = [value] ∧ value.isFault = true) :=
    match hanswers : answersTo tallies request with
    | [] => isFalse (by simp)
    | [value] => decidable_of_iff (value.isFault = true) (by simp)
    | _ :: _ :: _ => isFalse (by simp)
  unfold Suspect
  infer_instance

/-- `_suspect_requests`. -/
def suspectRequests (tallies : Dict String Tally) : List StaticSuspectRequest :=
  (requests tallies).filter fun request => Suspect tallies request

/-! ## Derived fields -/

/-- The derived fields of a record. -/
structure StaticDerived where
  epochStatus : EpochStatus
  sampledEndpointCount : ℕ
  pathUnavailableEndpointCount : ℕ
  indexSuspectRequests : List StaticSuspectRequest
  endpoints : List StaticEndpointTally
  contentFaultEvidence : List StaticEvidenceRef
  fraudEvidence : List StaticEvidenceRef
  endpointActions : List StaticEndpointAction
  alerts : List StaticAlert
deriving DecidableEq

namespace Tally

variable (suspects : List StaticSuspectRequest) (tally : Tally)

/-- The observations that are counted: those that are not of a suspect request. -/
def counted : List StaticProbeObservation :=
  tally.seen.filter fun obs => requestOf obs.deploymentID obs ∉ suspects

/-- `attempts`. -/
def attempts : ℕ := (tally.counted suspects).length

/-- `counts` of a party. -/
def counts (party : Attribution) : ℕ := (tally.counted suspects).countP fun obs => obs.attribution = party

/-- `counts` of a failure code. -/
def codes (code : StaticFailureCode) : ℕ :=
  (tally.counted suspects).countP fun obs => obs.failureCode = some code

/-- `faults`. -/
def faults : List String :=
  ((tally.counted suspects).filter fun obs => obs.quarantineCandidate).map
    StaticProbeObservation.observationDigestSha256

/-- `frauds`. -/
def frauds : List String :=
  (tally.seen.filter fun obs => obs.attestationStatus = .fraudulent).map
    StaticProbeObservation.observationDigestSha256

/-- A row of evidence against the endpoint. -/
def evidence (digest : String) : StaticEvidenceRef where
  minerUID := tally.endpoint.minerUID
  minerHotkey := tally.endpoint.minerHotkey
  deploymentID := tally.deployment.deploymentID
  endpointID := tally.endpoint.endpointID
  observationDigestSha256 := digest

end Tally

/-- `sampled`. -/
def sampled (suspects : List StaticSuspectRequest) (tallies : Dict String Tally) : List (String × Tally) :=
  tallies.filter fun entry => decide (entry.2.attempts suspects ≠ 0)

/-- `path_down`. -/
def pathDown (suspects : List StaticSuspectRequest) (tallies : Dict String Tally) : ℕ :=
  (sampled suspects tallies).countP fun entry => entry.2.counts suspects .path = entry.2.attempts suspects

/-- `common_mode`: more than half of the sampled endpoints saw failures of the path only. -/
def commonMode (suspects : List StaticSuspectRequest) (tallies : Dict String Tally) : Prop :=
  sampled suspects tallies ≠ [] ∧ pathDown suspects tallies * 2 > (sampled suspects tallies).length

instance (suspects : List StaticSuspectRequest) (tallies : Dict String Tally) :
    Decidable (commonMode suspects tallies) :=
  decidable_of_iff ((sampled suspects tallies).length ≠ 0 ∧
      pathDown suspects tallies * 2 > (sampled suspects tallies).length)
    (by rw [commonMode, ne_eq, ne_eq, List.length_eq_zero_iff])

/-- What the rows of the endpoints depend on. -/
structure Judgement where
  indexed : Dict String (String × String)
  suspects : List StaticSuspectRequest
  commonMode : Bool
  minAttempts : ℤ

namespace Judgement

variable (j : Judgement) (tally : Tally)

/-- The disposition of an endpoint. -/
def disposition : Disposition :=
  if tally.deployment.deploymentID ∉ j.indexed.keys then .abstainIndex
  else if j.commonMode then .excludedCommonMode
  else if tally.attempts j.suspects < j.minAttempts then .abstainInsufficientAttempts
  else .eligible

/-- `charged`: a shared path outage charges no content fault. -/
def charged : List String :=
  if j.commonMode then [] else Sorting.sortOn id (tally.faults j.suspects)

/-- The row of an endpoint. -/
def row : StaticEndpointTally :=
  let eligible := j.disposition tally = .eligible
  let ratio : ℚ := mkRat (tally.counts j.suspects .none) (tally.attempts j.suspects)
  { deploymentID := tally.deployment.deploymentID
    endpointID := tally.endpoint.endpointID
    siteDigest := tally.deployment.siteDigest
    minerUID := tally.endpoint.minerUID
    minerHotkey := tally.endpoint.minerHotkey
    attempts := tally.attempts j.suspects
    successes := tally.counts j.suspects .none
    pathFailures := tally.counts j.suspects .path
    minerFailures := tally.counts j.suspects .miner
    cacheReplays := tally.codes j.suspects .cacheReplay
    alteredInTransit := tally.codes j.suspects .contentAlteredInTransit
    contentFaults := (tally.faults j.suspects).length
    fraudulentAttestations := tally.frauds.length
    disposition := j.disposition tally
    availabilityNumerator := if eligible then some ratio.num.toNat else none
    availabilityDenominator := if eligible then some ratio.den else none }

/-- The action recommended for an endpoint. -/
def action : Option StaticEndpointAction :=
  if tally.frauds ≠ [] ∨ j.charged tally ≠ [] then some
    { deploymentID := tally.deployment.deploymentID
      endpointID := tally.endpoint.endpointID
      minerUID := tally.endpoint.minerUID
      minerHotkey := tally.endpoint.minerHotkey
      reason := if tally.frauds ≠ [] then .attestationFraud else .contentFault
      trustZero := tally.frauds ≠ []
      evidenceDigests := Sorting.sortOn id (if tally.frauds ≠ [] then tally.frauds else j.charged tally) }
  else none

/-- The alerts about an endpoint. Every target without an index is abstained, so its code is found. -/
def alerts (abstained : Dict String AbstentionRecordCode) : List StaticAlert :=
  let deploymentID := tally.deployment.deploymentID
  let endpointID := tally.endpoint.endpointID
  (if deploymentID ∉ j.indexed.keys then
    (abstained.get deploymentID).toList.map fun code => ⟨.abstention code, some deploymentID, none⟩
  else []) ++
  ([(AlertCode.contentFault, (j.charged tally).length), (.attestationFraud, tally.frauds.length),
    (.replayObserved, tally.codes j.suspects .cacheReplay),
    (.pathTampering, tally.codes j.suspects .contentAlteredInTransit)].filter
      fun entry => decide (entry.2 ≠ 0)).map fun entry => ⟨entry.1, some deploymentID, some endpointID⟩

end Judgement

/-- The order of the requests. -/
def requestOrder (r : StaticSuspectRequest) : String ×ₗ String ×ₗ String :=
  toLex (r.deploymentID, toLex (r.requestMethod.text, r.requestPath))

/-- The order of the alerts. -/
def alertOrder (a : StaticAlert) : String ×ₗ String ×ₗ String :=
  toLex (a.code.text, toLex (a.deploymentID.getD "", a.endpointID.getD ""))

/-- What follows from the tallies. -/
def summarize (indexed : Dict String (String × String)) (abstained : Dict String AbstentionRecordCode)
    (minAttempts : ℤ) (tallies : Dict String Tally) : StaticDerived :=
  let suspects := suspectRequests tallies
  let j : Judgement := ⟨indexed, suspects, commonMode suspects tallies, minAttempts⟩
  let ordered := (Sorting.sortOn Prod.fst tallies).map Prod.snd
  let endpoints := ordered.map j.row
  let alerts := ordered.flatMap (fun tally => j.alerts tally abstained) ++
    (if j.commonMode then [⟨.commonMode, none, none⟩] else []) ++
    suspects.map fun request => ⟨.indexSuspect, some request.deploymentID, none⟩
  { epochStatus :=
      if j.commonMode then .commonModeUnavailable
      else if endpoints.countP (fun row => row.disposition = .eligible) = 0 then .noEligibleEndpoints
      else .scored
    sampledEndpointCount := (sampled suspects tallies).length
    pathUnavailableEndpointCount := pathDown suspects tallies
    indexSuspectRequests := Sorting.sortOn requestOrder suspects
    endpoints := endpoints
    contentFaultEvidence := Sorting.sortOn StaticEvidenceRef.observationDigestSha256
      (ordered.flatMap fun tally => (j.charged tally).map tally.evidence)
    fraudEvidence := Sorting.sortOn StaticEvidenceRef.observationDigestSha256
      (ordered.flatMap fun tally => tally.frauds.map tally.evidence)
    endpointActions := ordered.filterMap j.action
    alerts := Sorting.sortOn alertOrder alerts.dedup }

/-- `_derive_static_epoch`. -/
def deriveStaticEpoch (targets : List StaticDeploymentTarget) (indexed : Dict String (String × String))
    (abstained : Dict String AbstentionRecordCode) (observations : List StaticProbeObservation)
    (epochSeconds epochIndex minAttempts : ℤ) : Except StaticFailure StaticDerived := do
  let s ← (incarnations targets).foldlM Published.add ⟨[], [], []⟩
  let tallies ← observations.foldlM (observe indexed epochSeconds epochIndex) s.tallies
  return summarize indexed abstained minAttempts tallies

end StaticScoring

end Misscomputer
