import Misscomputer.Manifest.Trust

set_option relaxedAutoImplicit false
set_option autoImplicit false

/-!
# Score checkpoints

The central scorer publishes its score vector in signed checkpoints. An external validator pins the authority by a
trust policy, keeps the state of the chain of accepted checkpoints, and relays the scores of a checkpoint as integer
weights.

## Main definitions

* `Relay.CheckpointScoreEntry`, `Relay.CentralScoreCheckpoint` — the score vector and the checkpoint that seals it.
* `Relay.TrustedCheckpointKey`, `Relay.CheckpointTrustPolicy` — the pinned authority.
* `Relay.CheckpointChainState` — what is kept of the accepted checkpoints.
* `Relay.RelayWeightEntry` — the weight of one miner.

## Implementation notes

The members of a contract that hold one literal (its schema, version, purpose and, for a checkpoint, its network) are
written in its document and are no fields. `revalidate` renders a value and reads it back, which gives the same value
or the error of the contract.

## References

* `src/misscomputer_subnet/score_checkpoint_relay.py`
-/

namespace Misscomputer

namespace Relay

open Contract
open Except (reject)
open Manifest (decodeEd25519PublicKeyBase64 keyID)

/-! ## Errors -/

/-- `RelayRejectionCode`. -/
inductive RelayRejectionCode
  | authorityMismatch | checkpointExpired | checkpointFuture | checkpointLifetimeInvalid | checkpointReplay
  | checkpointStale | finalizedEpochRollback | finalizedHeightGap | finalizedHeightRollback
  | inputSnapshotMismatch | metagraphBindingMismatch | metagraphCoverageMismatch | metagraphMappingMismatch
  | networkMismatch | normalizationEmpty | policyMismatch | previousLinkMismatch | reportBindingMismatch
  | requiredRoleMissing | sameHeightDivergence | sameHeightFork | scoreVectorMismatch | sequenceGap
  | sequenceRollback | signatureBindingMismatch | signatureInvalid | signerExpired | signerKeyInvalid
  | signerNotYetValid | signerPurposeMismatch | signerRevoked | signerUntrusted | thresholdNotMet
  | trustPolicyExpired | trustPolicyMismatch | trustPolicyNotYetValid | validatorIdentityMismatch
deriving DecidableEq

/-- What a rejected checkpoint raises: `CheckpointRelayError`, or another error, such as the `ValidationError` of a
contract. -/
inductive RelayError
  | rejected (code : RelayRejectionCode)
  | invalid
deriving DecidableEq

/-- `_revalidate`: a value of the contract, or an error. -/
def revalidate {α : Type} (valid : α → Prop) [DecidablePred valid] (a : α) : Except RelayError Unit :=
  reject (¬ valid a) .invalid

/-! ## Checkpoints -/

/-- `MAX_MINERS`. -/
def maxMiners : ℕ := 4096

/-- `WEIGHT_U16_TOTAL`. -/
def weightU16Total : ℤ := 65535

/-- `Eligibility`. -/
inductive Eligibility
  | eligible | ineligible
deriving DecidableEq

/-- The status in a document. -/
def Eligibility.text : Eligibility → String
  | eligible => "eligible"
  | ineligible => "ineligible"

/-- `CheckpointScoreEntry`. -/
structure CheckpointScoreEntry where
  minerUid : ℤ
  minerHotkey : String
  eligibilityStatus : Eligibility
  canonicalScorePpm : ℤ
  recordDigestSha256 : String
deriving DecidableEq

namespace CheckpointScoreEntry

/-- `_model_document` of an entry. -/
def toJson (e : CheckpointScoreEntry) : Json :=
  document [("miner_uid", .num e.minerUid), ("miner_hotkey", text e.minerHotkey),
    ("eligibility_status", text e.eligibilityStatus.text), ("canonical_score_ppm", .num e.canonicalScorePpm),
    ("record_digest_sha256", text e.recordDigestSha256)]

/-- The values of the contract. -/
def Valid (e : CheckpointScoreEntry) : Prop :=
  uid e.minerUid ∧ hotkey e.minerHotkey ∧ (0 ≤ e.canonicalScorePpm ∧ e.canonicalScorePpm ≤ 1000000) ∧
    hex64 e.recordDigestSha256 ∧ (e.eligibilityStatus = .ineligible → e.canonicalScorePpm = 0)

instance (e : CheckpointScoreEntry) : Decidable e.Valid := by
  unfold Valid
  infer_instance

/-- `(item.miner_uid, item.miner_hotkey)`, in the order of Python's tuples. -/
def key (e : CheckpointScoreEntry) : ℤ ×ₗ String := toLex (e.minerUid, e.minerHotkey)

end CheckpointScoreEntry

/-- `CentralScoreCheckpoint`. -/
structure CentralScoreCheckpoint where
  centralAuthorityFingerprintSha256 : String
  centralScoringPolicyDigestSha256 : String
  trustPolicyDigestSha256 : String
  finalizedHeight : ℤ
  finalizedBlockHash : String
  finalizedEpoch : ℤ
  inputSnapshotDigestSha256 : String
  canonicalScoreReportDigestSha256 : String
  reportScoreVectorDigestSha256 : String
  scoreVector : List CheckpointScoreEntry
  scoreVectorDigestSha256 : String
  sequence : ℤ
  issuedAtEpoch : ℤ
  evaluationEpoch : ℤ
  expiresAtEpoch : ℤ
  previousCheckpointDigestSha256 : Option String
  checkpointDigestSha256 : String
deriving DecidableEq

namespace CentralScoreCheckpoint

/-- The members the digest covers. -/
def members (c : CentralScoreCheckpoint) : List (String × Json) :=
  [("schema", text "miss.computer/misscomputer-subnet/central-score-checkpoint"), ("schema_version", .num 1),
    ("purpose", text "central_score_checkpoint_weight_relay_v1"), ("network", text "finney"), ("netuid", .num 24),
    ("central_authority_fingerprint_sha256", text c.centralAuthorityFingerprintSha256),
    ("central_scoring_policy_digest_sha256", text c.centralScoringPolicyDigestSha256),
    ("trust_policy_digest_sha256", text c.trustPolicyDigestSha256),
    ("finalized_height", .num c.finalizedHeight), ("finalized_block_hash", text c.finalizedBlockHash),
    ("finalized_epoch", .num c.finalizedEpoch),
    ("input_snapshot_digest_sha256", text c.inputSnapshotDigestSha256),
    ("canonical_score_report_digest_sha256", text c.canonicalScoreReportDigestSha256),
    ("report_score_vector_digest_sha256", text c.reportScoreVectorDigestSha256),
    ("score_vector", .arr (c.scoreVector.map CheckpointScoreEntry.toJson)),
    ("score_vector_digest_sha256", text c.scoreVectorDigestSha256), ("sequence", .num c.sequence),
    ("issued_at_epoch", .num c.issuedAtEpoch), ("evaluation_epoch", .num c.evaluationEpoch),
    ("expires_at_epoch", .num c.expiresAtEpoch),
    ("previous_checkpoint_digest_sha256", optional text c.previousCheckpointDigestSha256)]

/-- `_model_document` of a checkpoint. -/
def toJson (c : CentralScoreCheckpoint) : Json :=
  document (c.members ++ [("checkpoint_digest_sha256", text c.checkpointDigestSha256)])

/-- The checkpoint with its digest. -/
def sealed (c : CentralScoreCheckpoint) : CentralScoreCheckpoint :=
  { c with checkpointDigestSha256 := digest (document c.members) }

lemma digest_sealed (c : CentralScoreCheckpoint) :
    c.sealed.checkpointDigestSha256 = digest (document c.sealed.members) := rfl

/-- What the fields of a checkpoint may hold. -/
def Bounded (c : CentralScoreCheckpoint) : Prop :=
  hex64 c.centralAuthorityFingerprintSha256 ∧ hex64 c.centralScoringPolicyDigestSha256 ∧
    hex64 c.trustPolicyDigestSha256 ∧ count c.finalizedHeight ∧ hex64 c.finalizedBlockHash ∧
    count c.finalizedEpoch ∧ hex64 c.inputSnapshotDigestSha256 ∧ hex64 c.canonicalScoreReportDigestSha256 ∧
    hex64 c.reportScoreVectorDigestSha256 ∧ 1 ≤ c.scoreVector.length ∧ c.scoreVector.length ≤ maxMiners ∧
    (∀ e ∈ c.scoreVector, e.Valid) ∧ hex64 c.scoreVectorDigestSha256 ∧ positiveCount c.sequence ∧
    count c.issuedAtEpoch ∧ count c.evaluationEpoch ∧ count c.expiresAtEpoch ∧
    (∀ d ∈ c.previousCheckpointDigestSha256, hex64 d) ∧ hex64 c.checkpointDigestSha256

instance (c : CentralScoreCheckpoint) : Decidable c.Bounded := by
  unfold Bounded
  infer_instance

/-- The values of the contract. -/
def Valid (c : CentralScoreCheckpoint) : Prop :=
  c.Bounded ∧ (c.issuedAtEpoch ≤ c.evaluationEpoch ∧ c.evaluationEpoch < c.expiresAtEpoch) ∧
    (c.sequence = 1 ↔ c.previousCheckpointDigestSha256 = none) ∧
    c.scoreVector.map CheckpointScoreEntry.key =
      Sorting.sortedSet (c.scoreVector.map CheckpointScoreEntry.key) ∧
    (c.scoreVector.map CheckpointScoreEntry.minerUid).Nodup ∧
    (c.scoreVector.map CheckpointScoreEntry.minerHotkey).Nodup ∧
    c.scoreVectorDigestSha256 = digest (.arr (c.scoreVector.map CheckpointScoreEntry.toJson)) ∧
    c.checkpointDigestSha256 = digest (document c.members)

instance (c : CentralScoreCheckpoint) : Decidable c.Valid := by
  unfold Valid
  infer_instance

end CentralScoreCheckpoint

/-! ## The pinned authority -/

/-- `Role`. -/
inductive Role
  | checkpointAuditor | checkpointIssuer | checkpointSecurity
deriving DecidableEq

/-- The role in a document. -/
def Role.text : Role → String
  | checkpointAuditor => "checkpoint_auditor"
  | checkpointIssuer => "checkpoint_issuer"
  | checkpointSecurity => "checkpoint_security"

/-- `roles == sorted(set(roles))`. -/
def rolesCanonical (roles : List Role) : Prop :=
  roles.map Role.text = Sorting.sortedSet (roles.map Role.text)

instance (roles : List Role) : Decidable (rolesCanonical roles) :=
  inferInstanceAs (Decidable (_ = _))

/-- `TrustedCheckpointKey`. -/
structure TrustedCheckpointKey where
  keyID : String
  publicKeyBase64 : String
  publicKeySha256 : String
  roles : List Role
  validFromEpoch : ℤ
  validUntilEpoch : ℤ
  revokedAtEpoch : Option ℤ
deriving DecidableEq

namespace TrustedCheckpointKey

/-- `_model_document` of a key. -/
def toJson (k : TrustedCheckpointKey) : Json :=
  document [("key_id", text k.keyID), ("algorithm", text "ed25519"),
    ("public_key_base64", text k.publicKeyBase64), ("public_key_sha256", text k.publicKeySha256),
    ("roles", .arr (k.roles.map fun role => text role.text)),
    ("purposes", .arr [text "central_score_checkpoint_weight_relay_v1"]),
    ("valid_from_epoch", .num k.validFromEpoch), ("valid_until_epoch", .num k.validUntilEpoch),
    ("revoked_at_epoch", optional .num k.revokedAtEpoch)]

/-- The values of the contract. -/
def Valid (k : TrustedCheckpointKey) : Prop :=
  Manifest.keyID k.keyID ∧ k.publicKeyBase64.toList.length = 44 ∧ hex64 k.publicKeySha256 ∧
    1 ≤ k.roles.length ∧ k.roles.length ≤ 3 ∧ count k.validFromEpoch ∧ count k.validUntilEpoch ∧
    (∀ revoked ∈ k.revokedAtEpoch, count revoked) ∧
    (decodeEd25519PublicKeyBase64 k.publicKeyBase64).map sha256Hex = some k.publicKeySha256 ∧
    rolesCanonical k.roles ∧ k.validFromEpoch < k.validUntilEpoch ∧
    ∀ revoked ∈ k.revokedAtEpoch, k.validFromEpoch ≤ revoked ∧ revoked ≤ k.validUntilEpoch

instance (k : TrustedCheckpointKey) : Decidable k.Valid := by
  unfold Valid
  infer_instance

end TrustedCheckpointKey

/-- `CheckpointTrustPolicy`. -/
structure CheckpointTrustPolicy where
  centralAuthorityFingerprintSha256 : String
  centralScoringPolicyDigestSha256 : String
  threshold : ℤ
  requiredRoles : List Role
  trustedKeys : List TrustedCheckpointKey
  validFromEpoch : ℤ
  validUntilEpoch : ℤ
  maxCheckpointAgeSeconds : ℤ
  maxFutureSkewSeconds : ℤ
  maxCheckpointLifetimeSeconds : ℤ
  maxSequenceGap : ℤ
  maxFinalizedHeightGap : ℤ
  trustPolicyDigestSha256 : String
deriving DecidableEq

namespace CheckpointTrustPolicy

/-- The members the digest covers. -/
def members (p : CheckpointTrustPolicy) : List (String × Json) :=
  [("schema", text "miss.computer/misscomputer-subnet/score-checkpoint-trust-policy"), ("schema_version", .num 1),
    ("policy_id", text "miss-computer-central-score-checkpoint-trust-v1"),
    ("purpose", text "central_score_checkpoint_weight_relay_v1"), ("network", text "finney"), ("netuid", .num 24),
    ("central_authority_fingerprint_sha256", text p.centralAuthorityFingerprintSha256),
    ("central_scoring_policy_digest_sha256", text p.centralScoringPolicyDigestSha256),
    ("threshold", .num p.threshold),
    ("required_roles", .arr (p.requiredRoles.map fun role => text role.text)),
    ("trusted_keys", .arr (p.trustedKeys.map TrustedCheckpointKey.toJson)),
    ("valid_from_epoch", .num p.validFromEpoch), ("valid_until_epoch", .num p.validUntilEpoch),
    ("max_checkpoint_age_seconds", .num p.maxCheckpointAgeSeconds),
    ("max_future_skew_seconds", .num p.maxFutureSkewSeconds),
    ("max_checkpoint_lifetime_seconds", .num p.maxCheckpointLifetimeSeconds),
    ("max_sequence_gap", .num p.maxSequenceGap), ("max_finalized_height_gap", .num p.maxFinalizedHeightGap)]

/-- The policy with its digest. -/
def sealed (p : CheckpointTrustPolicy) : CheckpointTrustPolicy :=
  { p with trustPolicyDigestSha256 := digest (document p.members) }

lemma digest_sealed (p : CheckpointTrustPolicy) :
    p.sealed.trustPolicyDigestSha256 = digest (document p.sealed.members) := rfl

/-- What the fields of a policy may hold. -/
def Bounded (p : CheckpointTrustPolicy) : Prop :=
  hex64 p.centralAuthorityFingerprintSha256 ∧ hex64 p.centralScoringPolicyDigestSha256 ∧
    (1 ≤ p.threshold ∧ p.threshold ≤ 16) ∧ 1 ≤ p.requiredRoles.length ∧ p.requiredRoles.length ≤ 3 ∧
    1 ≤ p.trustedKeys.length ∧ p.trustedKeys.length ≤ 16 ∧ (∀ k ∈ p.trustedKeys, k.Valid) ∧
    count p.validFromEpoch ∧ count p.validUntilEpoch ∧
    (1 ≤ p.maxCheckpointAgeSeconds ∧ p.maxCheckpointAgeSeconds ≤ 86400) ∧
    (0 ≤ p.maxFutureSkewSeconds ∧ p.maxFutureSkewSeconds ≤ 300) ∧
    (1 ≤ p.maxCheckpointLifetimeSeconds ∧ p.maxCheckpointLifetimeSeconds ≤ 86400) ∧
    (1 ≤ p.maxSequenceGap ∧ p.maxSequenceGap ≤ 64) ∧
    (1 ≤ p.maxFinalizedHeightGap ∧ p.maxFinalizedHeightGap ≤ 1000000) ∧ hex64 p.trustPolicyDigestSha256

instance (p : CheckpointTrustPolicy) : Decidable p.Bounded := by
  unfold Bounded
  infer_instance

/-- The values of the contract. -/
def Valid (p : CheckpointTrustPolicy) : Prop :=
  p.Bounded ∧ p.validFromEpoch < p.validUntilEpoch ∧ rolesCanonical p.requiredRoles ∧
    p.trustedKeys.map TrustedCheckpointKey.keyID =
      Sorting.sortedSet (p.trustedKeys.map TrustedCheckpointKey.keyID) ∧
    (p.trustedKeys.map TrustedCheckpointKey.publicKeySha256).Nodup ∧
    p.threshold ≤ (p.trustedKeys.length : ℤ) ∧
    (∀ role ∈ p.requiredRoles, ∃ k ∈ p.trustedKeys, role ∈ k.roles) ∧
    p.trustPolicyDigestSha256 = digest (document p.members)

instance (p : CheckpointTrustPolicy) : Decidable p.Valid := by
  unfold Valid
  infer_instance

end CheckpointTrustPolicy

/-! ## The state of the chain -/

/-- `CheckpointChainState`. -/
structure CheckpointChainState where
  centralAuthorityFingerprintSha256 : String
  centralScoringPolicyDigestSha256 : String
  trustPolicyDigestSha256 : String
  acceptedCheckpointCount : ℤ
  lastSequence : ℤ
  lastFinalizedHeight : Option ℤ
  lastFinalizedBlockHash : Option String
  lastFinalizedEpoch : Option ℤ
  lastIssuedAtEpoch : Option ℤ
  lastEvaluationEpoch : Option ℤ
  lastInputSnapshotDigestSha256 : Option String
  lastCanonicalScoreReportDigestSha256 : Option String
  lastReportScoreVectorDigestSha256 : Option String
  lastScoreVectorDigestSha256 : Option String
  lastCheckpointDigestSha256 : Option String
  stateDigestSha256 : String
deriving DecidableEq

namespace CheckpointChainState

/-- The members the digest covers. -/
def members (s : CheckpointChainState) : List (String × Json) :=
  [("schema", text "miss.computer/misscomputer-subnet/score-checkpoint-chain-state"), ("schema_version", .num 1),
    ("purpose", text "central_score_checkpoint_weight_relay_v1"), ("network", text "finney"), ("netuid", .num 24),
    ("central_authority_fingerprint_sha256", text s.centralAuthorityFingerprintSha256),
    ("central_scoring_policy_digest_sha256", text s.centralScoringPolicyDigestSha256),
    ("trust_policy_digest_sha256", text s.trustPolicyDigestSha256),
    ("accepted_checkpoint_count", .num s.acceptedCheckpointCount), ("last_sequence", .num s.lastSequence),
    ("last_finalized_height", optional .num s.lastFinalizedHeight),
    ("last_finalized_block_hash", optional text s.lastFinalizedBlockHash),
    ("last_finalized_epoch", optional .num s.lastFinalizedEpoch),
    ("last_issued_at_epoch", optional .num s.lastIssuedAtEpoch),
    ("last_evaluation_epoch", optional .num s.lastEvaluationEpoch),
    ("last_input_snapshot_digest_sha256", optional text s.lastInputSnapshotDigestSha256),
    ("last_canonical_score_report_digest_sha256", optional text s.lastCanonicalScoreReportDigestSha256),
    ("last_report_score_vector_digest_sha256", optional text s.lastReportScoreVectorDigestSha256),
    ("last_score_vector_digest_sha256", optional text s.lastScoreVectorDigestSha256),
    ("last_checkpoint_digest_sha256", optional text s.lastCheckpointDigestSha256)]

/-- `_model_document` of a state. -/
def toJson (s : CheckpointChainState) : Json :=
  document (s.members ++ [("state_digest_sha256", text s.stateDigestSha256)])

/-- The state with its digest. -/
def sealed (s : CheckpointChainState) : CheckpointChainState :=
  { s with stateDigestSha256 := digest (document s.members) }

lemma digest_sealed (s : CheckpointChainState) :
    s.sealed.stateDigestSha256 = digest (document s.sealed.members) := rfl

/-- What the fields of a state may hold. -/
def Bounded (s : CheckpointChainState) : Prop :=
  hex64 s.centralAuthorityFingerprintSha256 ∧ hex64 s.centralScoringPolicyDigestSha256 ∧
    hex64 s.trustPolicyDigestSha256 ∧ count s.acceptedCheckpointCount ∧ count s.lastSequence ∧
    (∀ n ∈ s.lastFinalizedHeight, count n) ∧ (∀ h ∈ s.lastFinalizedBlockHash, hex64 h) ∧
    (∀ n ∈ s.lastFinalizedEpoch, count n) ∧ (∀ n ∈ s.lastIssuedAtEpoch, count n) ∧
    (∀ n ∈ s.lastEvaluationEpoch, count n) ∧ (∀ d ∈ s.lastInputSnapshotDigestSha256, hex64 d) ∧
    (∀ d ∈ s.lastCanonicalScoreReportDigestSha256, hex64 d) ∧
    (∀ d ∈ s.lastReportScoreVectorDigestSha256, hex64 d) ∧ (∀ d ∈ s.lastScoreVectorDigestSha256, hex64 d) ∧
    (∀ d ∈ s.lastCheckpointDigestSha256, hex64 d) ∧ hex64 s.stateDigestSha256

instance (s : CheckpointChainState) : Decidable s.Bounded := by
  unfold Bounded
  infer_instance

/-- Which parts of `tail` are missing. -/
def absences (s : CheckpointChainState) : List Bool :=
  [s.lastFinalizedHeight.isNone, s.lastFinalizedBlockHash.isNone, s.lastFinalizedEpoch.isNone,
    s.lastIssuedAtEpoch.isNone, s.lastEvaluationEpoch.isNone, s.lastInputSnapshotDigestSha256.isNone,
    s.lastCanonicalScoreReportDigestSha256.isNone, s.lastReportScoreVectorDigestSha256.isNone,
    s.lastScoreVectorDigestSha256.isNone, s.lastCheckpointDigestSha256.isNone]

/-- The counters and the tail of a state fit: of a genesis state all is empty, of another one nothing. -/
def Fits (s : CheckpointChainState) : Prop :=
  if s.acceptedCheckpointCount = 0 then s.lastSequence = 0 ∧ ∀ absent ∈ s.absences, absent = true
  else s.lastSequence ≠ 0 ∧ s.acceptedCheckpointCount ≤ s.lastSequence ∧
    ∀ absent ∈ s.absences, absent = false

instance (s : CheckpointChainState) : Decidable s.Fits := by
  unfold Fits
  infer_instance

/-- The values of the contract. -/
def Valid (s : CheckpointChainState) : Prop :=
  s.Bounded ∧ s.Fits ∧ s.stateDigestSha256 = digest (document s.members)

instance (s : CheckpointChainState) : Decidable s.Valid := by
  unfold Valid
  infer_instance

end CheckpointChainState

/-! ## Weights -/

/-- `RelayWeightEntry`. -/
structure RelayWeightEntry where
  minerUid : ℤ
  minerHotkey : String
  sourceEligibilityStatus : Eligibility
  sourceCanonicalScorePpm : ℤ
  weightU16 : ℤ
deriving DecidableEq

namespace RelayWeightEntry

/-- `_model_document` of an entry. -/
def toJson (w : RelayWeightEntry) : Json :=
  document [("miner_uid", .num w.minerUid), ("miner_hotkey", text w.minerHotkey),
    ("source_eligibility_status", text w.sourceEligibilityStatus.text),
    ("source_canonical_score_ppm", .num w.sourceCanonicalScorePpm), ("weight_u16", .num w.weightU16)]

/-- The values of the contract. -/
def Valid (w : RelayWeightEntry) : Prop :=
  uid w.minerUid ∧ hotkey w.minerHotkey ∧
    (0 ≤ w.sourceCanonicalScorePpm ∧ w.sourceCanonicalScorePpm ≤ 1000000) ∧
    (0 ≤ w.weightU16 ∧ w.weightU16 ≤ weightU16Total) ∧
    (w.sourceEligibilityStatus = .ineligible ∨ w.sourceCanonicalScorePpm = 0 → w.weightU16 = 0)

instance (w : RelayWeightEntry) : Decidable w.Valid := by
  unfold Valid
  infer_instance

end RelayWeightEntry

/-! ## Values of a contract -/

lemma revalidate_eq_ok {α : Type} {valid : α → Prop} [DecidablePred valid] {a : α} {u : Unit} :
    revalidate valid a = .ok u ↔ valid a := by
  rw [revalidate, Except.reject_eq_ok, not_not]

/-! ## Rejections -/

/-- The computation fails by `CheckpointRelayError` with such a code, or not at all. -/
def RejectsOnly {α : Type} (ok : RelayRejectionCode → Prop) (x : Except RelayError α) : Prop :=
  ∀ e, x = .error e → ∃ code, ok code ∧ e = .rejected code

/-- The computation fails by `CheckpointRelayError` or not at all. -/
def Rejecting {α : Type} (x : Except RelayError α) : Prop := RejectsOnly (fun _ => True) x

section Rejecting

variable {α β : Type} {ok : RelayRejectionCode → Prop}

lemma rejectsOnly_ok (a : α) : RejectsOnly ok (.ok a : Except RelayError α) := by
  intro e he
  cases he

lemma rejectsOnly_error {code : RelayRejectionCode} (h : ok code) :
    RejectsOnly ok (.error (.rejected code) : Except RelayError α) := by
  intro e he
  exact ⟨code, h, (Except.error.inj he).symm⟩

lemma rejectsOnly_reject {p : Prop} [Decidable p] {code : RelayRejectionCode} (h : ok code) :
    RejectsOnly ok (reject p (.rejected code)) := by
  rw [reject]
  split
  · exact rejectsOnly_error h
  · exact rejectsOnly_ok ()

lemma RejectsOnly.bind {x : Except RelayError α} {f : α → Except RelayError β} (hx : RejectsOnly ok x)
    (hf : ∀ a, x = .ok a → RejectsOnly ok (f a)) : RejectsOnly ok (x >>= f) := by
  intro e he
  cases hcase : x with
  | error e' =>
    rw [hcase] at he
    obtain rfl : e' = e := Except.error.inj he
    exact hx e' hcase
  | ok a =>
    rw [hcase] at he
    exact hf a hcase e he

/-- The first check of a computation. -/
lemma rejectsOnly_reject_bind {p : Prop} [Decidable p] {code : RelayRejectionCode} {f : Unit → Except RelayError β}
    (h : ok code) (hf : ¬ p → RejectsOnly ok (f ())) : RejectsOnly ok (reject p (.rejected code) >>= f) :=
  (rejectsOnly_reject h).bind fun _ hu => hf (Except.reject_eq_ok.mp hu)

/-- A value of the contract passes. -/
lemma rejectsOnly_revalidate_bind {valid : α → Prop} [DecidablePred valid] {a : α} {f : Unit → Except RelayError β}
    (ha : valid a) (hf : RejectsOnly ok (f ())) : RejectsOnly ok (revalidate valid a >>= f) := by
  rw [revalidate_eq_ok (u := ()) |>.mpr ha]
  exact hf

lemma RejectsOnly.rejecting {x : Except RelayError α} (h : RejectsOnly ok x) : Rejecting x := by
  intro e he
  obtain ⟨code, -, hcode⟩ := h e he
  exact ⟨code, trivial, hcode⟩

end Rejecting

/-- The codes of a quorum that is not met. -/
def OfQuorum (code : RelayRejectionCode) : Prop := code = .thresholdNotMet ∨ code = .requiredRoleMissing

instance (code : RelayRejectionCode) : Decidable (OfQuorum code) := inferInstanceAs (Decidable (_ ∨ _))

end Relay

end Misscomputer
