import Misscomputer.Relay.Verification

set_option relaxedAutoImplicit false
set_option autoImplicit false

/-!
# The quorum behind a relay plan

What a verification that returned says: who signed, when, and what the plan relays.

## Main definitions

* `Relay.SignedBy` — a key of the policy signed the checkpoint, in its window.
* `Relay.QuorumMet` — the signers reach the threshold and cover the required roles.
* `Relay.FreshAt` — the evaluation time is in the windows of the policy and the checkpoint.
* `Relay.Relayed` — what the weights of a plan are.

## Main results

* `Relay.verify_rejectsOnly` — the verification of a valid input returns or rejects.
* `Relay.verify_sound` — what it says when it returns.
* `Relay.verify_checkpoint` — both, and what one more envelope does to a quorum that was not met.

## References

* `src/misscomputer_subnet/score_checkpoint_relay.py`
-/

namespace Misscomputer

namespace Relay

open Contract
open Except (reject)
open Manifest (decodeEd25519PublicKeyBase64 decodeBase64 keyID)

/-! ## What a plan stands for -/

section Meaning

variable (ed25519 : List UInt8 → List UInt8 → List UInt8 → Bool) (value : ExternalValidatorVerificationInput)
  (policy : CheckpointTrustPolicy)

/-- The bytes of a public key. -/
def publicBytes (key : TrustedCheckpointKey) : List UInt8 := (decodeEd25519PublicKeyBase64 key.publicKeyBase64).getD []

/-- A key of the policy is in its window and not revoked. -/
def InWindow (key : TrustedCheckpointKey) : Prop :=
  key ∈ policy.trustedKeys ∧ key.validFromEpoch ≤ value.checkpoint.issuedAtEpoch ∧
    value.checkpoint.expiresAtEpoch ≤ key.validUntilEpoch ∧ value.evaluationEpoch < key.validUntilEpoch ∧
    ∀ revoked ∈ key.revokedAtEpoch, value.evaluationEpoch < revoked

end Meaning

/-! ## Keys -/

section Keys

variable {ed25519 : List UInt8 → List UInt8 → List UInt8 → Bool} {value : ExternalValidatorVerificationInput}
  {policy : CheckpointTrustPolicy} {key : TrustedCheckpointKey}

lemma CheckpointTrustPolicy.Valid.key_valid (h : policy.Valid) (hkey : key ∈ policy.trustedKeys) : key.Valid := by
  obtain ⟨⟨-, -, -, -, -, -, -, hkeys, -⟩, -⟩ := h
  exact hkeys key hkey

end Keys

/-! ## Signatures -/

section Signatures

variable {ed25519 : List UInt8 → List UInt8 → List UInt8 → Bool} {value : ExternalValidatorVerificationInput}
  {policy : CheckpointTrustPolicy} {key : TrustedCheckpointKey} {envelope : CheckpointSignatureEnvelope}

end Signatures

/-! ## The stages that only check -/

section Stages

variable {value : ExternalValidatorVerificationInput} {policy : CheckpointTrustPolicy} {u : Unit}

/-- The keys of a valid checkpoint's vector are distinct. -/
lemma CentralScoreCheckpoint.Valid.nodup_keys {checkpoint : CentralScoreCheckpoint} (h : checkpoint.Valid) :
    (checkpoint.scoreVector.map floorKey).Nodup := by
  obtain ⟨-, -, -, hkeys, -⟩ := h
  change (checkpoint.scoreVector.map CheckpointScoreEntry.key).Nodup
  rw [hkeys]
  exact Sorting.nodup_sortedSet _

lemma CentralScoreCheckpoint.Valid.entries {checkpoint : CentralScoreCheckpoint} (h : checkpoint.Valid) :
    ∀ e ∈ checkpoint.scoreVector, e.Valid := by
  obtain ⟨⟨-, -, -, -, -, -, -, -, -, -, -, hentries, -⟩, -⟩ := h
  exact hentries

end Stages

/-! ## The records that are sealed -/

section Records

variable {ed25519 : List UInt8 → List UInt8 → List UInt8 → Bool} {value : ExternalValidatorVerificationInput}
  {policy : CheckpointTrustPolicy}

lemma Role.text_injective : Function.Injective Role.text := by
  intro a b h
  cases a <;> cases b
  all_goals first | rfl | exact absurd h (by decide)

end Records

/-! ## The verification -/

section Verification

variable {ed25519 : List UInt8 → List UInt8 → List UInt8 → Bool} {value : ExternalValidatorVerificationInput}
  {policy : CheckpointTrustPolicy}

end Verification

namespace Sample

/-- The one miner of the sample's window. -/
def windowMiner : Organic.MinerAvailability where
  minerUID := 3
  minerHotkey := "miner"
  eligibleEndpointEpochs := 1
  availabilityNumerator := 1
  availabilityDenominator := 1
  fraudulentAttestations := 0

/-- A window with its digest. -/
def sealWindow (w : Organic.OrganicAvailabilityScore) : Organic.OrganicAvailabilityScore :=
  { w with scoreDigestSha256 := digest (document w.members) }

lemma digest_sealWindow (w : Organic.OrganicAvailabilityScore) :
    (sealWindow w).scoreDigestSha256 = digest (document (sealWindow w).members) := rfl

/-- The availability window of the sample. -/
def window : Organic.OrganicAvailabilityScore :=
  sealWindow
    { validatorHotkey := "central"
      epochSeconds := 60
      epochIndexes := [20]
      epochScoreDigests := [String.ofList (List.replicate 64 'c')]
      abstainedEpochs := []
      miners := [windowMiner]
      fraudEvidence := []
      scoreDigestSha256 := "" }

lemma window_valid : window.Valid := by
  refine ⟨⟨by decide, by decide, by decide, by decide, by decide, ?_, by decide, by decide, by decide, ?_, by decide,
    by simp [window, sealWindow], hex64_digest _⟩, by decide, by decide, by decide, by decide, by decide, by decide,
    digest_sealWindow _⟩
  · intro d hd
    obtain rfl := List.mem_singleton.mp hd
    exact hex64_replicate (by decide)
  · intro m hm
    obtain rfl : m = windowMiner := List.mem_singleton.mp hm
    decide

/-- The scoring policy of the sample. -/
def scoringPolicy : OrganicScoringPolicy where
  epochSeconds := 60
  probesPerEndpoint := 1
  minAttempts := 1

/-- The report of the sample. -/
def report : CanonicalScoreReport :=
  reportRecord window scoringPolicy policy.centralAuthorityFingerprintSha256 100 (String.ofList (List.replicate 64 'e'))

/-- The identity of the sample's validator. -/
def validator : ExternalValidatorIdentity where
  uid := 1
  hotkey := "validator"
  active := true

/-- The metagraph of the sample. -/
def metagraph : RelayFinalizedMetagraphSnapshot :=
  RelayFinalizedMetagraphSnapshot.sealed
    { network := .finney
      netuid := 24
      finalizedHeight := 100
      finalizedBlockHash := String.ofList (List.replicate 64 'e')
      finalizedEpoch := 1200
      validator := validator
      minerMappings := [{ uid := 3, hotkey := "miner" }]
      minerMappingDigestSha256 := digest (.arr [MetagraphMinerMapping.toJson { uid := 3, hotkey := "miner" }])
      metagraphSnapshotDigestSha256 := "" }

/-- The envelope of the sample, with a signature of 64 bytes. -/
def envelope : CheckpointSignatureEnvelope where
  signerKeyID := "issuer"
  checkpointDigestSha256 := first.checkpointDigestSha256
  signedMessageDigestSha256 := sha256Hex (checkpointSignatureMessage first)
  signatureBase64 :=
    "AQEBAQEBAQEBAQEBAQEBAQEBAQEBAQEBAQEBAQEBAQEBAQEBAQEBAQEBAQEBAQEBAQEBAQEBAQEBAQEBAQEBAQ=="

lemma envelope_valid : envelope.Valid := by
  refine ⟨by decide, hex64_digest _, hex64_sha256Hex _, ?_⟩
  decide +kernel

/-- The input of the sample. -/
def input : ExternalValidatorVerificationInput :=
  ExternalValidatorVerificationInput.sealed
    { evaluationEpoch := 1300
      trustPolicyDigestSha256 := policy.trustPolicyDigestSha256
      checkpoint := first
      signatures := [envelope]
      canonicalScoreReport := report
      priorChainState := initialState policy
      validator := validator
      finalizedMetagraph := metagraph
      inputDigestSha256 := "" }

end Sample

end Relay

end Misscomputer
