import Mathlib.Data.Rat.Defs
import Misscomputer.Lib.Dict
import Misscomputer.Lib.Except
import Misscomputer.Organic.Observation

set_option relaxedAutoImplicit false
set_option autoImplicit false

/-!
# Scoring an organic epoch

The score of an epoch is derived from the epoch's observations alone: a tally for each endpoint, the
detection of an outage of the path, the applications that are inconclusive, and the availability of each
endpoint that is left. The sealed record holds the observations it was derived from and is derived again
whenever it is read.

## Main definitions

* `Organic.deriveEpoch` — every derived field of an epoch record.
* `Organic.OrganicEpochScore`, `Organic.OrganicEpochScore.Valid` — the sealed record and its contract.
* `Organic.verifyAgainstManifest` — an observation is bound to the manifest entry it claims.
* `Organic.scoreOrganicEpoch` — the epoch's score.

## References

* `src/misscomputer_subnet/organic_scoring.py`
-/

namespace Misscomputer

namespace Organic

open Contract
open Except (reject)

/-! ## Vocabulary -/

/-- `DEFAULT_MIN_ATTEMPTS`, `DEFAULT_EPOCH_SECONDS`. -/
def defaultMinAttempts : ℤ := 2

/-- `DEFAULT_EPOCH_SECONDS`. -/
def defaultEpochSeconds : ℤ := 300

/-- `MAX_ATTEMPTS_PER_ENDPOINT`. -/
def maxAttemptsPerEndpoint : ℕ := 16

/-- `MAX_ENDPOINTS`. -/
def maxEndpoints : ℕ := 4096 * 8

/-- `MAX_OBSERVATIONS`. -/
def maxObservations : ℕ := maxEndpoints * maxAttemptsPerEndpoint

/-- `MAX_CORROBORATION_WINDOWS`. -/
def maxCorroborationWindows : ℕ := 64

/-- `ScoringRejectionCode`. -/
inductive ScoringRejectionCode
  | attemptsOverflow | attestationUnverified | epochMismatch | epochsInvalid | identityConflict
  | manifestUnknown | observationDuplicate | observationUnpublished | outcomeInconsistent
  | outsideManifestHorizon | policyInvalid | validatorMismatch
deriving DecidableEq, Repr

/-- What is raised: an `OrganicScoringError` with its code, or the error of a contract. -/
inductive ScoringFailure
  | scoring (code : ScoringRejectionCode)
  | contract (text : String)
deriving DecidableEq, Repr

/-- `EpochStatus`. -/
inductive EpochStatus
  | commonModeUnavailable | noEligibleEndpoints | scored
deriving DecidableEq, Repr

/-- The status in a document. -/
def EpochStatus.text : EpochStatus → String
  | commonModeUnavailable => "common_mode_unavailable"
  | noEligibleEndpoints => "no_eligible_endpoints"
  | scored => "scored"

/-- `Disposition`. -/
inductive Disposition
  | abstainInsufficientAttempts | eligible | excludedAppInconclusive | excludedCommonMode
deriving DecidableEq, Repr

/-- The disposition in a document. -/
def Disposition.text : Disposition → String
  | abstainInsufficientAttempts => "abstain_insufficient_attempts"
  | eligible => "eligible"
  | excludedAppInconclusive => "excluded_app_inconclusive"
  | excludedCommonMode => "excluded_common_mode"

/-- `ServingCorroboration`. -/
structure ServingCorroboration where
  endpointID : String
  windowStartEpoch : ℤ
  windowDigestSha256 : String
  requests : ℤ
  origin : Bool
deriving DecidableEq

/-- `EndpointEpochTally`. -/
structure EndpointEpochTally where
  deploymentID : String
  endpointID : String
  minerUID : ℤ
  minerHotkey : String
  attempts : ℕ
  successes : ℕ
  applicationFailures : ℕ
  minerFailures : ℕ
  pathFailures : ℕ
  fraudulentAttestations : ℕ
  disposition : Disposition
  availabilityNumerator : Option ℕ
  availabilityDenominator : Option ℕ
  corroboratingWindows : ℕ
  corroboratingRequests : ℤ
deriving DecidableEq

/-- `FraudEvidence`. -/
structure FraudEvidence where
  minerUID : ℤ
  minerHotkey : String
  endpointID : String
  observationDigestSha256 : String
deriving DecidableEq

/-! ## The tally of an endpoint -/

/-- `_Tally`. -/
structure Tally where
  deploymentID : String
  minerUID : ℤ
  minerHotkey : String
  attempts : ℕ
  counts : Attribution → ℕ
  frauds : ℕ

/-- `_Tally.__init__`. -/
def Tally.new (item : OrganicProbeObservation) : Tally where
  deploymentID := item.deploymentID
  minerUID := item.minerUID
  minerHotkey := item.minerHotkey
  attempts := 0
  counts := fun _ => 0
  frauds := 0

/-- The tally after one more observation. -/
def Tally.charge (tally : Tally) (item : OrganicProbeObservation) : Tally :=
  { tally with
    attempts := tally.attempts + 1
    counts := fun party => if party = item.attribution then tally.counts party + 1 else tally.counts party
    frauds := if item.attestationStatus = .fraudulent then tally.frauds + 1 else tally.frauds }

/-- The row that a fraudulent attestation adds to the evidence. -/
def fraudRow (item : OrganicProbeObservation) : FraudEvidence where
  minerUID := item.minerUID
  minerHotkey := item.minerHotkey
  endpointID := item.endpointID
  observationDigestSha256 := item.observationDigestSha256

/-- The dictionaries of the loop over the observations. -/
structure Ledger where
  tallies : Dict String Tally
  fraud : List FraudEvidence
  identities : Dict ℤ String
  hotkeys : Dict String ℤ

/-- The epoch an instant lies in has to be the given one. -/
def checkEpoch (epochSeconds epochIndex : ℤ) (issuedAt : String) : Except ScoringFailure Unit :=
  match timestampEpochSeconds issuedAt with
  | none => .error (.contract "timestamp must use Go RFC3339Nano format")
  | some seconds => reject (epochIndexOf seconds epochSeconds ≠ epochIndex) (.scoring .epochMismatch)

/-- One round of the loop over the observations. -/
def Ledger.observe (epochSeconds epochIndex : ℤ) (s : Ledger) (item : OrganicProbeObservation) :
    Except ScoringFailure Ledger := do
  checkEpoch epochSeconds epochIndex item.issuedAt
  reject ((s.identities.get item.minerUID).getD item.minerHotkey ≠ item.minerHotkey ∨
    (s.hotkeys.get item.minerHotkey).getD item.minerUID ≠ item.minerUID) (.scoring .identityConflict)
  let tally := (s.tallies.get item.endpointID).getD (Tally.new item)
  reject ((tally.deploymentID, tally.minerUID, tally.minerHotkey) ≠
    (item.deploymentID, item.minerUID, item.minerHotkey)) (.scoring .identityConflict)
  reject (tally.attempts + 1 > maxAttemptsPerEndpoint) (.scoring .attemptsOverflow)
  return {
    tallies := s.tallies.set item.endpointID (tally.charge item)
    fraud := if item.attestationStatus = .fraudulent then s.fraud ++ [fraudRow item] else s.fraud
    identities := s.identities.setdefault item.minerUID item.minerHotkey
    hotkeys := s.hotkeys.setdefault item.minerHotkey item.minerUID }

/-! ## Derived fields -/

/-- The derived fields of an epoch record. -/
structure Derived where
  epochStatus : EpochStatus
  sampledEndpointCount : ℕ
  pathUnavailableEndpointCount : ℕ
  inconclusiveDeployments : List String
  endpoints : List EndpointEpochTally
  fraudEvidence : List FraudEvidence
deriving DecidableEq

/-- The windows that lie in the epoch, by endpoint. -/
def epochWindows (epochSeconds epochIndex : ℤ) (tallies : Dict String Tally)
    (corroboration : List ServingCorroboration) : Dict String (List ServingCorroboration) :=
  let epochStart := epochIndex * epochSeconds
  Dict.collect ServingCorroboration.endpointID (fun windows window => windows.getD [] ++ [window])
    (corroboration.filter fun window => !window.origin && decide (window.endpointID ∈ tallies.keys) &&
      decide (epochStart ≤ window.windowStartEpoch ∧ window.windowStartEpoch < epochStart + epochSeconds))

/-- The windows summarized for an endpoint: one for each digest, the first by digest. -/
def endpointWindows (windows : List ServingCorroboration) : List ServingCorroboration :=
  (Sorting.sortOn ServingCorroboration.windowDigestSha256
    (Dict.lastsOn ServingCorroboration.windowDigestSha256 windows)).take maxCorroborationWindows

/-- `common_mode`: more than half of the sampled endpoints saw failures of the path only. -/
def commonMode (tallies : Dict String Tally) : Prop :=
  tallies.length > 0 ∧ (tallies.countP fun e => e.2.counts .path = e.2.attempts) * 2 > tallies.length

instance (tallies : Dict String Tally) : Decidable (commonMode tallies) :=
  inferInstanceAs (Decidable (_ ∧ _))

/-- `inconclusive`: the deployments two replicas of which saw a failure of the application. -/
def inconclusive (tallies : Dict String Tally) : List String :=
  let appFailing : Dict String ℕ := Dict.collect (fun e : String × Tally => e.2.deploymentID)
    (fun n _ => n.getD 0 + 1) (tallies.filter fun e => decide (e.2.counts .application > 0))
  Sorting.sortOn id ((appFailing.filter fun e => decide (e.2 ≥ 2)).map Prod.fst)

/-- The disposition of an endpoint. -/
def disposition (minAttempts : ℤ) (tallies : Dict String Tally) (tally : Tally) : Disposition :=
  if commonMode tallies then .excludedCommonMode
  else if tally.deploymentID ∈ inconclusive tallies then .excludedAppInconclusive
  else if tally.attempts < minAttempts then .abstainInsufficientAttempts
  else .eligible

/-- The row of an endpoint. -/
def endpointRow (minAttempts : ℤ) (tallies : Dict String Tally)
    (windows : Dict String (List ServingCorroboration)) (entry : String × Tally) : EndpointEpochTally :=
  let tally := entry.2
  let eligible := disposition minAttempts tallies tally = .eligible
  let ratio : ℚ := mkRat (tally.counts .none) tally.attempts
  let summarized := endpointWindows ((windows.get entry.1).getD [])
  { deploymentID := tally.deploymentID
    endpointID := entry.1
    minerUID := tally.minerUID
    minerHotkey := tally.minerHotkey
    attempts := tally.attempts
    successes := tally.counts .none
    applicationFailures := tally.counts .application
    minerFailures := tally.counts .miner
    pathFailures := tally.counts .path
    fraudulentAttestations := tally.frauds
    disposition := disposition minAttempts tallies tally
    availabilityNumerator := if eligible then some ratio.num.toNat else none
    availabilityDenominator := if eligible then some ratio.den else none
    corroboratingWindows := summarized.length
    corroboratingRequests := (summarized.map ServingCorroboration.requests).sum }

/-- What follows from the tallies and the evidence. -/
def summarize (epochSeconds epochIndex minAttempts : ℤ) (s : Ledger)
    (corroboration : List ServingCorroboration) : Derived :=
  let windows := epochWindows epochSeconds epochIndex s.tallies corroboration
  let endpoints := (Sorting.sortOn Prod.fst s.tallies).map (endpointRow minAttempts s.tallies windows)
  { epochStatus :=
      if commonMode s.tallies then .commonModeUnavailable
      else if endpoints.countP (fun row => row.disposition = .eligible) = 0 then .noEligibleEndpoints
      else .scored
    sampledEndpointCount := s.tallies.length
    pathUnavailableEndpointCount := s.tallies.countP fun e => e.2.counts .path = e.2.attempts
    inconclusiveDeployments := inconclusive s.tallies
    endpoints := endpoints
    fraudEvidence := Sorting.sortOn FraudEvidence.observationDigestSha256 s.fraud }

/-- `_derive_epoch`. -/
def deriveEpoch (observations : List OrganicProbeObservation) (corroboration : List ServingCorroboration)
    (epochSeconds epochIndex minAttempts : ℤ) : Except ScoringFailure Derived := do
  let s ← observations.foldlM (Ledger.observe epochSeconds epochIndex) ⟨[], [], [], []⟩
  return summarize epochSeconds epochIndex minAttempts s corroboration

/-! ## The sealed record -/

/-- `OrganicEpochScore`. -/
structure OrganicEpochScore extends Derived where
  validatorHotkey : String
  epochSeconds : ℤ
  epochIndex : ℤ
  minAttempts : ℤ
  manifestDigests : List String
  corroboration : List ServingCorroboration
  observations : List OrganicProbeObservation
  observationVectorDigestSha256 : String
  epochScoreDigestSha256 : String
deriving DecidableEq

/-- `model_document` of a corroborating window. -/
def ServingCorroboration.toJson (w : ServingCorroboration) : Json :=
  document [("endpoint_id", text w.endpointID), ("window_start_epoch", .num w.windowStartEpoch),
    ("window_digest_sha256", text w.windowDigestSha256), ("requests", .num w.requests),
    ("origin", .bool w.origin)]

/-- `model_document` of an endpoint's row. -/
def EndpointEpochTally.toJson (t : EndpointEpochTally) : Json :=
  document [("deployment_id", text t.deploymentID), ("endpoint_id", text t.endpointID),
    ("miner_uid", .num t.minerUID), ("miner_hotkey", text t.minerHotkey), ("attempts", .num t.attempts),
    ("successes", .num t.successes), ("application_failures", .num t.applicationFailures),
    ("miner_failures", .num t.minerFailures), ("path_failures", .num t.pathFailures),
    ("fraudulent_attestations", .num t.fraudulentAttestations),
    ("disposition", text t.disposition.text),
    ("availability_numerator", optional (fun n : ℕ => .num n) t.availabilityNumerator),
    ("availability_denominator", optional (fun n : ℕ => .num n) t.availabilityDenominator),
    ("corroborating_windows", .num t.corroboratingWindows),
    ("corroborating_requests", .num t.corroboratingRequests)]

/-- `model_document` of a row of evidence. -/
def FraudEvidence.toJson (row : FraudEvidence) : Json :=
  document [("miner_uid", .num row.minerUID), ("miner_hotkey", text row.minerHotkey),
    ("endpoint_id", text row.endpointID),
    ("observation_digest_sha256", text row.observationDigestSha256)]

/-- The observations as one document. -/
def observationVector (observations : List OrganicProbeObservation) : Json :=
  .arr (observations.map OrganicProbeObservation.toJson)

/-- The members the digest of a record covers. -/
def OrganicEpochScore.members (e : OrganicEpochScore) : List (String × Json) :=
  [("schema", text "miss.computer/misscomputer-subnet/organic-epoch-score"), ("schema_version", .num 1),
    ("purpose", text "organic_availability_scoring_v1"), ("network", text "finney"), ("netuid", .num 24),
    ("validator_hotkey", text e.validatorHotkey), ("epoch_seconds", .num e.epochSeconds),
    ("epoch_index", .num e.epochIndex), ("min_attempts", .num e.minAttempts),
    ("manifest_digests", .arr (e.manifestDigests.map text)), ("epoch_status", text e.epochStatus.text),
    ("sampled_endpoint_count", .num e.sampledEndpointCount),
    ("path_unavailable_endpoint_count", .num e.pathUnavailableEndpointCount),
    ("inconclusive_deployments", .arr (e.inconclusiveDeployments.map text)),
    ("endpoints", .arr (e.endpoints.map EndpointEpochTally.toJson)),
    ("fraud_evidence", .arr (e.fraudEvidence.map FraudEvidence.toJson)),
    ("corroboration", .arr (e.corroboration.map ServingCorroboration.toJson)),
    ("observations", observationVector e.observations),
    ("observation_vector_digest_sha256", text e.observationVectorDigestSha256)]

/-- `organic_epoch_score_bytes`. -/
def OrganicEpochScore.bytes (e : OrganicEpochScore) : List UInt8 :=
  canonicalJson (document (e.members ++ [("epoch_score_digest_sha256", text e.epochScoreDigestSha256)])) ++
    Text.bytes ['\n']

/-- The values of the contract. -/
def ServingCorroboration.Valid (w : ServingCorroboration) : Prop :=
  Contract.endpointID w.endpointID ∧ count w.windowStartEpoch ∧ hex64 w.windowDigestSha256 ∧ count w.requests

/-- The values of the contract. -/
def EndpointEpochTally.Valid (t : EndpointEpochTally) : Prop :=
  dnsLabel t.deploymentID ∧ Contract.endpointID t.endpointID ∧ uid t.minerUID ∧ hotkey t.minerHotkey ∧
    (∀ n ∈ [t.attempts, t.successes, t.applicationFailures, t.minerFailures, t.pathFailures,
      t.fraudulentAttestations], n ≤ maxObservations) ∧
    (∀ n ∈ t.availabilityNumerator, n ≤ maxObservations) ∧
    (∀ n ∈ t.availabilityDenominator, n ≤ maxObservations) ∧
    t.corroboratingWindows ≤ maxCorroborationWindows ∧ count t.corroboratingRequests

/-- The values of the contract. -/
def FraudEvidence.Valid (row : FraudEvidence) : Prop :=
  uid row.minerUID ∧ hotkey row.minerHotkey ∧ Contract.endpointID row.endpointID ∧
    hex64 row.observationDigestSha256

/-- `_observation_order`. -/
def observationOrder (item : OrganicProbeObservation) : String ×ₗ String ×ₗ String :=
  toLex (item.endpointID, toLex (item.issuedAt, item.probeNonce))

/-- The key of a corroborating window. -/
def windowKey (item : ServingCorroboration) : String ×ₗ String :=
  toLex (item.endpointID, item.windowDigestSha256)

namespace OrganicEpochScore

/-- The checks of the fields. -/
def FieldsValid (e : OrganicEpochScore) : Prop :=
  hotkey e.validatorHotkey ∧ (60 ≤ e.epochSeconds ∧ e.epochSeconds ≤ 3600) ∧
    (0 ≤ e.epochIndex ∧ e.epochIndex ≤ 2 ^ 62) ∧ (1 ≤ e.minAttempts ∧ e.minAttempts ≤ 16) ∧
    e.manifestDigests.length ≤ 1024 ∧ (∀ s ∈ e.manifestDigests, hex64 s) ∧
    e.sampledEndpointCount ≤ maxObservations ∧ e.pathUnavailableEndpointCount ≤ maxObservations ∧
    e.inconclusiveDeployments.length ≤ 4096 ∧ (∀ s ∈ e.inconclusiveDeployments, dnsLabel s) ∧
    e.endpoints.length ≤ maxEndpoints ∧ (∀ t ∈ e.endpoints, t.Valid) ∧
    e.fraudEvidence.length ≤ maxObservations ∧ (∀ row ∈ e.fraudEvidence, row.Valid) ∧
    e.corroboration.length ≤ maxEndpoints ∧ (∀ w ∈ e.corroboration, w.Valid) ∧
    e.observations.length ≤ maxObservations ∧ (∀ o ∈ e.observations, o.Valid) ∧
    hex64 e.observationVectorDigestSha256 ∧ hex64 e.epochScoreDigestSha256

/-- `canonical_epoch`. -/
def Canonical (e : OrganicEpochScore) : Prop :=
  e.manifestDigests = Sorting.sortedSet e.manifestDigests ∧
    (∀ o ∈ e.observations, o.manifestDigestSha256 ∈ e.manifestDigests) ∧
    e.observations = Sorting.sortOn observationOrder e.observations ∧
    (e.observations.map OrganicProbeObservation.probeNonce).Nodup ∧
    (∀ o ∈ e.observations, o.validatorHotkey = e.validatorHotkey) ∧
    e.corroboration.map windowKey = Sorting.sortedSet (e.corroboration.map windowKey) ∧
    deriveEpoch e.observations e.corroboration e.epochSeconds e.epochIndex e.minAttempts =
      .ok e.toDerived ∧
    e.observationVectorDigestSha256 = digest (observationVector e.observations) ∧
    e.epochScoreDigestSha256 = digest (document e.members)

/-- The values of the contract. -/
def Valid (e : OrganicEpochScore) : Prop := e.FieldsValid ∧ e.Canonical

end OrganicEpochScore

instance (w : ServingCorroboration) : Decidable w.Valid := by
  unfold ServingCorroboration.Valid
  infer_instance

instance (t : EndpointEpochTally) : Decidable t.Valid := by
  unfold EndpointEpochTally.Valid
  infer_instance

instance (row : FraudEvidence) : Decidable row.Valid := by
  unfold FraudEvidence.Valid
  infer_instance

/-- Outcomes can be compared. -/
instance : DecidableEq (Except ScoringFailure Derived)
  | .ok a, .ok b => decidable_of_iff (a = b) (by simp)
  | .error a, .error b => decidable_of_iff (a = b) (by simp)
  | .ok _, .error _ => isFalse (by simp)
  | .error _, .ok _ => isFalse (by simp)

instance (e : OrganicEpochScore) : Decidable e.FieldsValid := by
  unfold OrganicEpochScore.FieldsValid
  infer_instance

instance (e : OrganicEpochScore) : Decidable e.Canonical := by
  unfold OrganicEpochScore.Canonical
  infer_instance

instance (e : OrganicEpochScore) : Decidable e.Valid := inferInstanceAs (Decidable (_ ∧ _))

/-! ## The score of an epoch -/

/-- The condition under which an observation contradicts the published predicate. -/
def Inconsistent (item : OrganicProbeObservation) (health : OrganicHealthProbe) : Prop :=
  let inExpected := ∃ code ∈ item.responseStatus, code ∈ health.expectedStatuses
  (item.outcome = .success ∧ ¬ inExpected) ∨
    (item.failureCode = some .unexpectedStatus ∧ inExpected) ∨
    (item.failureCode = some .markerMissing ∧ ¬ inExpected) ∨
    (item.failureCode = some .markerMissing ∧ health.responseMarker = none)

instance (item : OrganicProbeObservation) (health : OrganicHealthProbe) :
    Decidable (Inconsistent item health) := by
  unfold Inconsistent
  infer_instance

/-- The observation does not name what the manifest publishes. -/
def Unpublished (item : OrganicProbeObservation) (m : ActiveAssignmentManifestV2)
    (d : OrganicDeploymentAssignment) (r : OrganicAssignedReplica) : Prop :=
  item.trustPolicyDigestSha256 ≠ m.trustPolicyDigestSha256 ∨ item.deploymentID ≠ d.deploymentID ∨
    item.assignmentDigestSha256 ≠ d.assignmentDigestSha256 ∨ item.generation ≠ r.generation ∨
    item.minerUID ≠ r.minerUID ∨ item.minerHotkey ≠ r.minerHotkey ∨
    item.requestMethod ≠ d.health.method ∨ item.requestPath ≠ d.health.path

instance (item : OrganicProbeObservation) (m : ActiveAssignmentManifestV2)
    (d : OrganicDeploymentAssignment) (r : OrganicAssignedReplica) : Decidable (Unpublished item m d r) := by
  unfold Unpublished
  infer_instance

/-- The request an observation was made with. -/
def OrganicProbeObservation.request (item : OrganicProbeObservation) : ProbeRequest where
  validatorHotkey := item.validatorHotkey
  probeNonce := item.probeNonce
  requestMethod := item.requestMethod
  requestPath := item.requestPath
  issuedAt := item.issuedAt

/-- The attestation in an observation is judged again. -/
def reverify (ed25519 : String → String → List UInt8 → Bool) (item : OrganicProbeObservation)
    (d : OrganicDeploymentAssignment) (r : OrganicAssignedReplica) : Except ScoringFailure Unit :=
  match item.attestation with
  | none => .ok ()
  | some a =>
    match verifyAttestationV2 ed25519 a d r item.request (item.responseStatus.getD 0)
      (item.responseBodySha256.getD "") with
    | none => .error (.contract "timestamp must use Go RFC3339Nano format")
    | some verdict => reject (verdict ≠ if item.attestationStatus = .fraudulent then .fraudulent else .verified)
        (.scoring .attestationUnverified)

/-- `_verify_against_manifest`. -/
def verifyAgainstManifest (ed25519 : String → String → List UInt8 → Bool) (item : OrganicProbeObservation) :
    Option ActiveAssignmentManifestV2 → Except ScoringFailure Unit
  | none => .error (.scoring .manifestUnknown)
  | some m =>
    match findReplica m item.endpointID with
    | none => .error (.scoring .observationUnpublished)
    | some (d, r) => do
      reject (Unpublished item m d r) (.scoring .observationUnpublished)
      match timestampEpochSeconds item.issuedAt with
      | none => .error (.contract "timestamp must use Go RFC3339Nano format")
      | some seconds => reject (¬ manifestValidAt m seconds) (.scoring .outsideManifestHorizon)
      reverify ed25519 item d r
      reject (Inconsistent item d.health) (.scoring .outcomeInconsistent)

/-- `revalidate`: a value of the contract, or an error. -/
def revalidate {α : Type} (valid : α → Prop) [DecidablePred valid] (a : α) : Except ScoringFailure Unit :=
  reject (¬ valid a) (.contract "validation error")

/-- `_manifest_index`. -/
def manifestIndex (manifests : List ActiveAssignmentManifestV2) : Dict String ActiveAssignmentManifestV2 :=
  Dict.lasts (manifests.map fun m => (m.manifestDigestSha256, m))

/-- The digests and the nonces seen so far. -/
structure Seen where
  digests : List String
  nonces : List String

/-- One round of the loop that judges the observations. -/
def judge (ed25519 : String → String → List UInt8 → Bool) (index : Dict String ActiveAssignmentManifestV2)
    (validatorHotkey : String) (epochSeconds epochIndex : ℤ) (seen : Seen)
    (item : OrganicProbeObservation) : Except ScoringFailure Seen := do
  reject (item.validatorHotkey ≠ validatorHotkey) (.scoring .validatorMismatch)
  reject (item.observationDigestSha256 ∈ seen.digests ∨ item.probeNonce ∈ seen.nonces)
    (.scoring .observationDuplicate)
  checkEpoch epochSeconds epochIndex item.issuedAt
  verifyAgainstManifest ed25519 item (index.get item.manifestDigestSha256)
  return ⟨seen.digests ++ [item.observationDigestSha256], seen.nonces ++ [item.probeNonce]⟩

/-- The windows of a record: the last of each key, in the order of the keys. -/
def keptWindows (corroboration : List ServingCorroboration) : List ServingCorroboration :=
  Sorting.sortOn windowKey (Dict.lastsOn windowKey corroboration)

/-- The keyword arguments of `score_organic_epoch`, without the corroboration. -/
structure EpochPolicy where
  validatorHotkey : String
  epochIndex : ℤ
  epochSeconds : ℤ
  minAttempts : ℤ

/-- The record that is sealed, before its own contract is checked. -/
def epochRecord (policy : EpochPolicy) (values : List OrganicProbeObservation)
    (windows : List ServingCorroboration) (derived : Derived) : OrganicEpochScore :=
  let unsigned : OrganicEpochScore :=
    { derived with
      validatorHotkey := policy.validatorHotkey
      epochSeconds := policy.epochSeconds
      epochIndex := policy.epochIndex
      minAttempts := policy.minAttempts
      manifestDigests := Sorting.sortedSet (values.map OrganicProbeObservation.manifestDigestSha256)
      corroboration := windows
      observations := values
      observationVectorDigestSha256 := digest (observationVector values)
      epochScoreDigestSha256 := "" }
  { unsigned with epochScoreDigestSha256 := digest (document unsigned.members) }

/-- `score_organic_epoch`. -/
def scoreOrganicEpoch (ed25519 : String → String → List UInt8 → Bool)
    (manifests : List ActiveAssignmentManifestV2) (observations : List OrganicProbeObservation)
    (policy : EpochPolicy) (corroboration : List ServingCorroboration) :
    Except ScoringFailure OrganicEpochScore := do
  reject (¬ (60 ≤ policy.epochSeconds ∧ policy.epochSeconds ≤ 3600) ∨
    ¬ (1 ≤ policy.minAttempts ∧ policy.minAttempts ≤ maxAttemptsPerEndpoint)) (.scoring .policyInvalid)
  manifests.forM (revalidate ActiveAssignmentManifestV2.Valid)
  observations.forM (revalidate OrganicProbeObservation.Valid)
  reject (observations.length > maxObservations) (.scoring .attemptsOverflow)
  let _ ← observations.foldlM (judge ed25519 (manifestIndex manifests) policy.validatorHotkey
    policy.epochSeconds policy.epochIndex) ⟨[], []⟩
  let values := Sorting.sortOn observationOrder observations
  corroboration.forM (revalidate ServingCorroboration.Valid)
  let windows := keptWindows corroboration
  let derived ← deriveEpoch values windows policy.epochSeconds policy.epochIndex policy.minAttempts
  let record := epochRecord policy values windows derived
  revalidate OrganicEpochScore.Valid record
  return record

end Organic

end Misscomputer
