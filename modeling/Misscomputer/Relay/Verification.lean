import Misscomputer.Relay.Checkpoints
import Misscomputer.Relay.Normalization
import Misscomputer.Relay.ScoreReport

set_option relaxedAutoImplicit false
set_option autoImplicit false

/-!
# The verification of a checkpoint

An external validator verifies one checkpoint: the policy it pinned, the times, the report the scores are taken from,
the signatures, the chain of accepted checkpoints and the finalized metagraph. From a checkpoint that passes it builds
the plan of the weights it relays.

## Main definitions

* `Relay.ExternalValidatorVerificationInput` — what is verified.
* `Relay.verifyCheckpointAndBuildRelay` — the verification.

## Implementation notes

The signature scheme is a parameter: `ed25519` says of a public key, a signature and a message whether the signature
verifies. Every purpose of a key is one literal, so the check `signer_purpose_mismatch` compares it with itself and is
not part of the model; the same holds for the network of a checkpoint, a policy and a report.

## References

* `src/misscomputer_subnet/score_checkpoint_relay.py`
-/

namespace Misscomputer

namespace Relay

open Contract
open Except (reject)
open Manifest (decodeEd25519PublicKeyBase64 decodeBase64 keyID)
open StaticScoring (Network)

/-! ## Signatures -/

/-- `MAX_KEYS`. -/
def maxKeys : ℕ := 16

/-- `CheckpointSignatureEnvelope`. -/
structure CheckpointSignatureEnvelope where
  signerKeyID : String
  checkpointDigestSha256 : String
  signedMessageDigestSha256 : String
  signatureBase64 : String
deriving DecidableEq

namespace CheckpointSignatureEnvelope

/-- `_model_document` of an envelope. -/
def toJson (e : CheckpointSignatureEnvelope) : Json :=
  document [("schema", text "miss.computer/misscomputer-subnet/score-checkpoint-signature-envelope"),
    ("schema_version", .num 1), ("purpose", text "central_score_checkpoint_weight_relay_v1"),
    ("algorithm", text "ed25519"), ("signer_key_id", text e.signerKeyID),
    ("checkpoint_digest_sha256", text e.checkpointDigestSha256),
    ("signed_message_digest_sha256", text e.signedMessageDigestSha256),
    ("signature_base64", text e.signatureBase64)]

/-- The values of the contract. -/
def Valid (e : CheckpointSignatureEnvelope) : Prop :=
  keyID e.signerKeyID ∧ hex64 e.checkpointDigestSha256 ∧ hex64 e.signedMessageDigestSha256 ∧
    e.signatureBase64.toList.length = 88 ∧ (decodeBase64 e.signatureBase64 64).isSome

instance (e : CheckpointSignatureEnvelope) : Decidable e.Valid := by
  unfold Valid
  infer_instance

end CheckpointSignatureEnvelope

/-- `checkpoint_signature_message`, of a value of the contract. -/
def checkpointSignatureMessage (checkpoint : CentralScoreCheckpoint) : List UInt8 :=
  Text.bytes "miss.computer/misscomputer-subnet/central-score-checkpoint/v1/ed25519".toList ++ [0] ++
    canonicalJson checkpoint.toJson

/-! ## The metagraph -/

/-- `MetagraphMinerMapping`. -/
structure MetagraphMinerMapping where
  uid : ℤ
  hotkey : String
deriving DecidableEq

namespace MetagraphMinerMapping

/-- `_model_document` of a mapping. -/
def toJson (m : MetagraphMinerMapping) : Json := document [("uid", .num m.uid), ("hotkey", text m.hotkey)]

/-- The values of the contract. -/
def Valid (m : MetagraphMinerMapping) : Prop := Contract.uid m.uid ∧ Contract.hotkey m.hotkey

instance (m : MetagraphMinerMapping) : Decidable m.Valid := by
  unfold Valid
  infer_instance

/-- `(item.uid, item.hotkey)`. -/
def key (m : MetagraphMinerMapping) : ℤ ×ₗ String := toLex (m.uid, m.hotkey)

end MetagraphMinerMapping

/-- `ExternalValidatorIdentity`. -/
structure ExternalValidatorIdentity where
  uid : ℤ
  hotkey : String
  active : Bool
deriving DecidableEq

namespace ExternalValidatorIdentity

/-- `_model_document` of an identity. -/
def toJson (v : ExternalValidatorIdentity) : Json :=
  document [("uid", .num v.uid), ("hotkey", text v.hotkey), ("active", .bool v.active), ("validator_permit", .bool true)]

/-- The values of the contract. -/
def Valid (v : ExternalValidatorIdentity) : Prop := Contract.uid v.uid ∧ Contract.hotkey v.hotkey

instance (v : ExternalValidatorIdentity) : Decidable v.Valid := by
  unfold Valid
  infer_instance

end ExternalValidatorIdentity

/-- `RelayFinalizedMetagraphSnapshot`. -/
structure RelayFinalizedMetagraphSnapshot where
  network : Network
  netuid : ℤ
  finalizedHeight : ℤ
  finalizedBlockHash : String
  finalizedEpoch : ℤ
  validator : ExternalValidatorIdentity
  minerMappings : List MetagraphMinerMapping
  minerMappingDigestSha256 : String
  metagraphSnapshotDigestSha256 : String
deriving DecidableEq

namespace RelayFinalizedMetagraphSnapshot

/-- The members the digest covers. -/
def members (m : RelayFinalizedMetagraphSnapshot) : List (String × Json) :=
  [("schema", text "miss.computer/misscomputer-subnet/relay-finalized-metagraph-snapshot"),
    ("schema_version", .num 1), ("purpose", text "external_validator_checkpoint_verification_v1"),
    ("network", text m.network.text), ("netuid", .num m.netuid), ("finalized", .bool true),
    ("finalized_height", .num m.finalizedHeight), ("finalized_block_hash", text m.finalizedBlockHash),
    ("finalized_epoch", .num m.finalizedEpoch), ("validator", m.validator.toJson),
    ("miner_mappings", .arr (m.minerMappings.map MetagraphMinerMapping.toJson)),
    ("miner_mapping_digest_sha256", text m.minerMappingDigestSha256)]

/-- `_model_document` of a snapshot. -/
def toJson (m : RelayFinalizedMetagraphSnapshot) : Json :=
  document (m.members ++ [("metagraph_snapshot_digest_sha256", text m.metagraphSnapshotDigestSha256)])

/-- The snapshot with its digest. -/
def sealed (m : RelayFinalizedMetagraphSnapshot) : RelayFinalizedMetagraphSnapshot :=
  { m with metagraphSnapshotDigestSha256 := digest (document m.members) }

lemma digest_sealed (m : RelayFinalizedMetagraphSnapshot) :
    m.sealed.metagraphSnapshotDigestSha256 = digest (document m.sealed.members) := rfl

/-- What the fields of a snapshot may hold. -/
def Bounded (m : RelayFinalizedMetagraphSnapshot) : Prop :=
  count m.finalizedHeight ∧ hex64 m.finalizedBlockHash ∧ count m.finalizedEpoch ∧ m.validator.Valid ∧
    1 ≤ m.minerMappings.length ∧ m.minerMappings.length ≤ maxMiners ∧ (∀ item ∈ m.minerMappings, item.Valid) ∧
    hex64 m.minerMappingDigestSha256 ∧ hex64 m.metagraphSnapshotDigestSha256

instance (m : RelayFinalizedMetagraphSnapshot) : Decidable m.Bounded := by
  unfold Bounded
  infer_instance

/-- The values of the contract. -/
def Valid (m : RelayFinalizedMetagraphSnapshot) : Prop :=
  m.Bounded ∧ (m.network, m.netuid) ∈ StaticScoring.networks ∧
    (m.network = .finney → m.validator.active = true) ∧
    m.minerMappings.map MetagraphMinerMapping.key =
      Sorting.sortedSet (m.minerMappings.map MetagraphMinerMapping.key) ∧
    (m.minerMappings.map MetagraphMinerMapping.uid).Nodup ∧
    (m.minerMappings.map MetagraphMinerMapping.hotkey).Nodup ∧
    (m.validator.uid ∉ m.minerMappings.map MetagraphMinerMapping.uid ∧
      m.validator.hotkey ∉ m.minerMappings.map MetagraphMinerMapping.hotkey) ∧
    m.minerMappingDigestSha256 = digest (.arr (m.minerMappings.map MetagraphMinerMapping.toJson)) ∧
    m.metagraphSnapshotDigestSha256 = digest (document m.members)

instance (m : RelayFinalizedMetagraphSnapshot) : Decidable m.Valid := by
  unfold Valid
  infer_instance

end RelayFinalizedMetagraphSnapshot

/-! ## What is verified -/

/-- `ExternalValidatorVerificationInput`. -/
structure ExternalValidatorVerificationInput where
  evaluationEpoch : ℤ
  trustPolicyDigestSha256 : String
  checkpoint : CentralScoreCheckpoint
  signatures : List CheckpointSignatureEnvelope
  canonicalScoreReport : CanonicalScoreReport
  priorChainState : CheckpointChainState
  validator : ExternalValidatorIdentity
  finalizedMetagraph : RelayFinalizedMetagraphSnapshot
  inputDigestSha256 : String
deriving DecidableEq

namespace ExternalValidatorVerificationInput

/-- The members the digest covers. -/
def members (v : ExternalValidatorVerificationInput) : List (String × Json) :=
  [("schema", text "miss.computer/misscomputer-subnet/external-validator-verification-input"),
    ("schema_version", .num 1), ("purpose", text "external_validator_checkpoint_verification_v1"),
    ("evaluation_epoch", .num v.evaluationEpoch), ("trust_policy_digest_sha256", text v.trustPolicyDigestSha256),
    ("checkpoint", v.checkpoint.toJson),
    ("signatures", .arr (v.signatures.map CheckpointSignatureEnvelope.toJson)),
    ("canonical_score_report", v.canonicalScoreReport.toJson), ("prior_chain_state", v.priorChainState.toJson),
    ("validator", v.validator.toJson), ("finalized_metagraph", v.finalizedMetagraph.toJson)]

/-- The input with its digest. -/
def sealed (v : ExternalValidatorVerificationInput) : ExternalValidatorVerificationInput :=
  { v with inputDigestSha256 := digest (document v.members) }

lemma digest_sealed (v : ExternalValidatorVerificationInput) :
    v.sealed.inputDigestSha256 = digest (document v.sealed.members) := rfl

/-- The values of the contract. -/
def Valid (v : ExternalValidatorVerificationInput) : Prop :=
  count v.evaluationEpoch ∧ hex64 v.trustPolicyDigestSha256 ∧ v.checkpoint.Valid ∧ 1 ≤ v.signatures.length ∧
    v.signatures.length ≤ maxKeys ∧ (∀ e ∈ v.signatures, e.Valid) ∧ v.canonicalScoreReport.Valid ∧
    v.priorChainState.Valid ∧ v.validator.Valid ∧ v.finalizedMetagraph.Valid ∧ hex64 v.inputDigestSha256 ∧
    v.signatures.map CheckpointSignatureEnvelope.signerKeyID =
      Sorting.sortedSet (v.signatures.map CheckpointSignatureEnvelope.signerKeyID) ∧
    v.inputDigestSha256 = digest (document v.members)

instance (v : ExternalValidatorVerificationInput) : Decidable v.Valid := by
  unfold Valid
  infer_instance

end ExternalValidatorVerificationInput

/-! ## What is returned -/

/-- `ExternalValidatorVerificationReport`. -/
structure ExternalValidatorVerificationReport where
  evaluationEpoch : ℤ
  validatorUid : ℤ
  validatorHotkey : String
  checkpointDigestSha256 : String
  canonicalScoreReportDigestSha256 : String
  inputSnapshotDigestSha256 : String
  scoreVectorDigestSha256 : String
  metagraphSnapshotDigestSha256 : String
  trustPolicyDigestSha256 : String
  verificationInputDigestSha256 : String
  priorChainStateDigestSha256 : String
  nextChainStateDigestSha256 : String
  verifiedSignerKeyIDs : List String
  verifiedRoles : List Role
  normalizedWeightVectorDigestSha256 : String
  reportDigestSha256 : String
deriving DecidableEq

namespace ExternalValidatorVerificationReport

/-- The members the digest covers. -/
def members (r : ExternalValidatorVerificationReport) : List (String × Json) :=
  [("schema", text "miss.computer/misscomputer-subnet/external-validator-verification-report"),
    ("schema_version", .num 1), ("purpose", text "external_validator_checkpoint_verification_v1"),
    ("status", text "verified"), ("reason_codes", .arr [text "checkpoint_verified"]),
    ("evaluation_epoch", .num r.evaluationEpoch), ("validator_uid", .num r.validatorUid),
    ("validator_hotkey", text r.validatorHotkey), ("checkpoint_digest_sha256", text r.checkpointDigestSha256),
    ("canonical_score_report_digest_sha256", text r.canonicalScoreReportDigestSha256),
    ("input_snapshot_digest_sha256", text r.inputSnapshotDigestSha256),
    ("score_vector_digest_sha256", text r.scoreVectorDigestSha256),
    ("metagraph_snapshot_digest_sha256", text r.metagraphSnapshotDigestSha256),
    ("trust_policy_digest_sha256", text r.trustPolicyDigestSha256),
    ("verification_input_digest_sha256", text r.verificationInputDigestSha256),
    ("prior_chain_state_digest_sha256", text r.priorChainStateDigestSha256),
    ("next_chain_state_digest_sha256", text r.nextChainStateDigestSha256),
    ("verified_signer_key_ids", .arr (r.verifiedSignerKeyIDs.map text)),
    ("verified_roles", .arr (r.verifiedRoles.map fun role => text role.text)),
    ("normalization_algorithm", text "largest_remainder_score_ppm_to_u16_v1"),
    ("normalized_weight_vector_digest_sha256", text r.normalizedWeightVectorDigestSha256)]

/-- The report with its digest. -/
def sealed (r : ExternalValidatorVerificationReport) : ExternalValidatorVerificationReport :=
  { r with reportDigestSha256 := digest (document r.members) }

lemma digest_sealed (r : ExternalValidatorVerificationReport) :
    r.sealed.reportDigestSha256 = digest (document r.sealed.members) := rfl

/-- What the fields of a report may hold. -/
def Bounded (r : ExternalValidatorVerificationReport) : Prop :=
  count r.evaluationEpoch ∧ uid r.validatorUid ∧ hotkey r.validatorHotkey ∧
    (∀ d ∈ [r.checkpointDigestSha256, r.canonicalScoreReportDigestSha256, r.inputSnapshotDigestSha256,
      r.scoreVectorDigestSha256, r.metagraphSnapshotDigestSha256, r.trustPolicyDigestSha256,
      r.verificationInputDigestSha256, r.priorChainStateDigestSha256, r.nextChainStateDigestSha256,
      r.normalizedWeightVectorDigestSha256, r.reportDigestSha256], hex64 d) ∧
    1 ≤ r.verifiedSignerKeyIDs.length ∧ r.verifiedSignerKeyIDs.length ≤ maxKeys ∧
    (∀ id ∈ r.verifiedSignerKeyIDs, keyID id) ∧ 1 ≤ r.verifiedRoles.length ∧ r.verifiedRoles.length ≤ 3

instance (r : ExternalValidatorVerificationReport) : Decidable r.Bounded := by
  unfold Bounded
  infer_instance

/-- The values of the contract. -/
def Valid (r : ExternalValidatorVerificationReport) : Prop :=
  r.Bounded ∧ r.verifiedSignerKeyIDs = Sorting.sortedSet r.verifiedSignerKeyIDs ∧ rolesCanonical r.verifiedRoles ∧
    r.reportDigestSha256 = digest (document r.members)

instance (r : ExternalValidatorVerificationReport) : Decidable r.Valid := by
  unfold Valid
  infer_instance

end ExternalValidatorVerificationReport

/-- `ExternalValidatorRelayPlan`. -/
structure ExternalValidatorRelayPlan where
  validatorUid : ℤ
  validatorHotkey : String
  finalizedHeight : ℤ
  finalizedBlockHash : String
  finalizedEpoch : ℤ
  expiresAtEpoch : ℤ
  checkpointDigestSha256 : String
  canonicalScoreReportDigestSha256 : String
  inputSnapshotDigestSha256 : String
  scoreVectorDigestSha256 : String
  metagraphSnapshotDigestSha256 : String
  verificationInputDigestSha256 : String
  verificationReportDigestSha256 : String
  nextChainStateDigestSha256 : String
  weights : List RelayWeightEntry
  weightVectorDigestSha256 : String
  planDigestSha256 : String
deriving DecidableEq

/-- `(item.miner_uid, item.miner_hotkey)`. -/
def RelayWeightEntry.key (w : RelayWeightEntry) : ℤ ×ₗ String := toLex (w.minerUid, w.minerHotkey)

namespace ExternalValidatorRelayPlan

/-- The members the digest covers. -/
def members (p : ExternalValidatorRelayPlan) : List (String × Json) :=
  [("schema", text "miss.computer/misscomputer-subnet/external-validator-score-relay-plan"),
    ("schema_version", .num 1), ("purpose", text "external_validator_weight_relay_v1"),
    ("network", text "finney"), ("netuid", .num 24), ("validator_uid", .num p.validatorUid),
    ("validator_hotkey", text p.validatorHotkey), ("finalized_height", .num p.finalizedHeight),
    ("finalized_block_hash", text p.finalizedBlockHash), ("finalized_epoch", .num p.finalizedEpoch),
    ("expires_at_epoch", .num p.expiresAtEpoch), ("checkpoint_digest_sha256", text p.checkpointDigestSha256),
    ("canonical_score_report_digest_sha256", text p.canonicalScoreReportDigestSha256),
    ("input_snapshot_digest_sha256", text p.inputSnapshotDigestSha256),
    ("score_vector_digest_sha256", text p.scoreVectorDigestSha256),
    ("metagraph_snapshot_digest_sha256", text p.metagraphSnapshotDigestSha256),
    ("verification_input_digest_sha256", text p.verificationInputDigestSha256),
    ("verification_report_digest_sha256", text p.verificationReportDigestSha256),
    ("next_chain_state_digest_sha256", text p.nextChainStateDigestSha256),
    ("weight_domain", text "weight-plan.v1/u16-normalized"),
    ("normalization_algorithm", text "largest_remainder_score_ppm_to_u16_v1"),
    ("weight_total_u16", .num weightU16Total), ("weights", .arr (p.weights.map RelayWeightEntry.toJson)),
    ("weight_vector_digest_sha256", text p.weightVectorDigestSha256)]

/-- The plan with its digest. -/
def sealed (p : ExternalValidatorRelayPlan) : ExternalValidatorRelayPlan :=
  { p with planDigestSha256 := digest (document p.members) }

lemma digest_sealed (p : ExternalValidatorRelayPlan) :
    p.sealed.planDigestSha256 = digest (document p.sealed.members) := rfl

/-- What the fields of a plan may hold. -/
def Bounded (p : ExternalValidatorRelayPlan) : Prop :=
  uid p.validatorUid ∧ hotkey p.validatorHotkey ∧ count p.finalizedHeight ∧ count p.finalizedEpoch ∧
    count p.expiresAtEpoch ∧
    (∀ d ∈ [p.finalizedBlockHash, p.checkpointDigestSha256, p.canonicalScoreReportDigestSha256,
      p.inputSnapshotDigestSha256, p.scoreVectorDigestSha256, p.metagraphSnapshotDigestSha256,
      p.verificationInputDigestSha256, p.verificationReportDigestSha256, p.nextChainStateDigestSha256,
      p.weightVectorDigestSha256, p.planDigestSha256], hex64 d) ∧
    1 ≤ p.weights.length ∧ p.weights.length ≤ maxMiners ∧ ∀ w ∈ p.weights, w.Valid

instance (p : ExternalValidatorRelayPlan) : Decidable p.Bounded := by
  unfold Bounded
  infer_instance

/-- The values of the contract. -/
def Valid (p : ExternalValidatorRelayPlan) : Prop :=
  p.Bounded ∧ p.weights.map RelayWeightEntry.key = Sorting.sortedSet (p.weights.map RelayWeightEntry.key) ∧
    (p.weights.map RelayWeightEntry.minerUid).Nodup ∧ (p.weights.map RelayWeightEntry.minerHotkey).Nodup ∧
    (p.weights.map RelayWeightEntry.weightU16).sum = weightU16Total ∧
    p.weightVectorDigestSha256 = digest (.arr (p.weights.map RelayWeightEntry.toJson)) ∧
    p.planDigestSha256 = digest (document p.members)

instance (p : ExternalValidatorRelayPlan) : Decidable p.Valid := by
  unfold Valid
  infer_instance

end ExternalValidatorRelayPlan

section Stages

variable (value : ExternalValidatorVerificationInput) (policy : CheckpointTrustPolicy)

variable (ed25519 : List UInt8 → List UInt8 → List UInt8 → Bool) (publicKeys : Dict String (List UInt8))

/-- The checks of one envelope, which give its key. -/
def verifyEnvelope (envelope : CheckpointSignatureEnvelope) : Except RelayError TrustedCheckpointKey := do
  let checkpoint := value.checkpoint
  let message := checkpointSignatureMessage checkpoint
  let trusted := Dict.lasts (policy.trustedKeys.map fun item => (item.keyID, item))
  let key ← (trusted.get envelope.signerKeyID).elim (.error (.rejected .signerUntrusted)) .ok
  reject (envelope.checkpointDigestSha256 ≠ checkpoint.checkpointDigestSha256 ∨
    envelope.signedMessageDigestSha256 ≠ sha256Hex message) (.rejected .signatureBindingMismatch)
  reject (checkpoint.issuedAtEpoch < key.validFromEpoch) (.rejected .signerNotYetValid)
  reject (checkpoint.expiresAtEpoch > key.validUntilEpoch ∨ value.evaluationEpoch ≥ key.validUntilEpoch)
    (.rejected .signerExpired)
  reject (∃ revoked ∈ key.revokedAtEpoch, revoked ≤ value.evaluationEpoch) (.rejected .signerRevoked)
  let publicBytes ← (publicKeys.get key.keyID).elim (.error .invalid) .ok
  let signatureBytes ← (decodeBase64 envelope.signatureBase64 64).elim (.error .invalid) .ok
  reject (!ed25519 publicBytes signatureBytes message) (.rejected .signatureInvalid)
  return key

/-- `sorted(verified_roles)`, of a set of roles. -/
def sortedRoles (roles : List Role) : List Role := Sorting.sortOn Role.text roles.dedup

end Stages

/-! ## The verification -/

end Relay

end Misscomputer
