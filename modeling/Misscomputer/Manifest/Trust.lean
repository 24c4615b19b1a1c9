import Misscomputer.Manifest.ActiveV3
import Misscomputer.Organic.Attestations

set_option relaxedAutoImplicit false
set_option autoImplicit false

/-!
# The trust policy of a manifest channel

A validator pins the authority that publishes manifests: its keys, their roles and windows, how many of them
have to sign, and the bounds a manifest keeps. The checks here read the header of a manifest only, so that
every version of the manifest is held to the same rules.

## Main definitions

* `Manifest.ManifestHeader` — the members that every version of the manifest has.
* `Manifest.AssignmentManifestTrustPolicy` — the pinned policy.
* `Manifest.verifyManifestPolicyAdmission` — what a policy demands of a manifest at an instant.
* `Manifest.verifyManifestSignatures` — the threshold of signatures over a message.

## Implementation notes

Every purpose of the channel is one literal, so the check `signer_purpose_mismatch` compares it with itself and
is not part of the model. A failed check of a contract is the one error `contract`.

## References

* `src/misscomputer_subnet/assignment_probe.py`
* `src/misscomputer_subnet/ed25519_trust.py`
-/

namespace Misscomputer

namespace Manifest

open Contract
open Except (reject)
open Organic (b64decode b64encode)
open StaticScoring (Network)

/-! ## Errors -/

/-- `ProbeRejectionCode`. -/
inductive ProbeRejectionCode
  | authorityMismatch | finalizedEpochRollback | finalizedHeightGap | finalizedHeightRollback
  | issuedAtRollback | manifestExpired | manifestFuture | manifestLifetimeInvalid
  | manifestReplicaLeaseExpired | manifestStale | networkMismatch | previousLinkMismatch
  | probeSchemeMismatch | requiredRoleMissing | routeHostPolicyViolation | sameHeightFork
  | sameSequenceDivergence | sequenceGap | sequenceRollback | signatureBindingMismatch
  | signatureInvalid | signerExpired | signerKeyInvalid | signerNotYetValid | signerRevoked
  | signerUntrusted | thresholdNotMet | trustPolicyExpired | trustPolicyMismatch
  | trustPolicyNotYetValid
deriving DecidableEq

/-- What a rejected manifest raises: `AssignmentProbeError`, another `ValueError`, or the `ValidationError` of a
contract. -/
inductive ManifestError
  | probe (code : ProbeRejectionCode)
  | value (message : String)
  | contract
deriving DecidableEq

/-- `revalidate`: a value of the contract, or an error. -/
def revalidate {α : Type} (valid : α → Prop) [DecidablePred valid] (a : α) : Except ManifestError Unit :=
  reject (¬ valid a) .contract

/-! ## Headers -/

/-- `ManifestHeader`. -/
structure ManifestHeader where
  network : String
  netuid : ℤ
  centralAuthorityFingerprintSha256 : String
  trustPolicyDigestSha256 : String
  finalizedHeight : ℤ
  finalizedBlockHash : String
  finalizedEpoch : ℤ
  sequence : ℤ
  previousManifestDigestSha256 : Option String
  issuedAtEpoch : ℤ
  expiresAtEpoch : ℤ
  routeHostSuffix : String
  probeScheme : String
  manifestDigestSha256 : String
deriving DecidableEq

/-- The header of a version 2 manifest. -/
def headerV2 (m : Organic.ActiveAssignmentManifestV2) : ManifestHeader where
  network := "finney"
  netuid := 24
  centralAuthorityFingerprintSha256 := m.centralAuthorityFingerprintSha256
  trustPolicyDigestSha256 := m.trustPolicyDigestSha256
  finalizedHeight := m.finalizedHeight
  finalizedBlockHash := m.finalizedBlockHash
  finalizedEpoch := m.finalizedEpoch
  sequence := m.sequence
  previousManifestDigestSha256 := m.previousManifestDigestSha256
  issuedAtEpoch := m.issuedAtEpoch
  expiresAtEpoch := m.expiresAtEpoch
  routeHostSuffix := m.routeHostSuffix
  probeScheme := "https"
  manifestDigestSha256 := m.manifestDigestSha256

/-- The header of a version 3 manifest. -/
def headerV3 (m : ActiveAssignmentManifestV3) : ManifestHeader where
  network := m.network.text
  netuid := m.netuid
  centralAuthorityFingerprintSha256 := m.centralAuthorityFingerprintSha256
  trustPolicyDigestSha256 := m.trustPolicyDigestSha256
  finalizedHeight := m.finalizedHeight
  finalizedBlockHash := m.finalizedBlockHash
  finalizedEpoch := m.finalizedEpoch
  sequence := m.sequence
  previousManifestDigestSha256 := m.previousManifestDigestSha256
  issuedAtEpoch := m.issuedAtEpoch
  expiresAtEpoch := m.expiresAtEpoch
  routeHostSuffix := m.routeHostSuffix
  probeScheme := "https"
  manifestDigestSha256 := m.manifestDigestSha256

/-! ## Keys -/

/-- `_SMALL_ORDER_ED25519_ENCODINGS`, in hexadecimal. -/
def smallOrderEd25519Encodings : List String :=
  ["0000000000000000000000000000000000000000000000000000000000000000",
    "0100000000000000000000000000000000000000000000000000000000000000",
    "26e8958fc2b227b045c3f489f2ef98f0d5dfac05d3c63339b13802886d53fc05",
    "c7176a703d4dd84fba3c0b760d10670f2a2053fa2c39ccc64ec7fd7792ac037a",
    "ecffffffffffffffffffffffffffffffffffffffffffffffffffffffffffff7f",
    "edffffffffffffffffffffffffffffffffffffffffffffffffffffffffffff7f",
    "eeffffffffffffffffffffffffffffffffffffffffffffffffffffffffffff7f"]

/-- `sign_cleared`: the encoding with the bit of the sign cleared, in hexadecimal. -/
def signCleared (publicBytes : List UInt8) : String :=
  String.ofList (Hex.encode (publicBytes.map UInt8.toNat |>.modifyLast (· % 128)))

/-- `decode_ed25519_public_key_base64`: `none` where the source raises. -/
def decodeEd25519PublicKeyBase64 (value : String) : Option (List UInt8) := do
  let publicBytes ← b64decode value.toList
  if publicBytes.length ≠ 32 ∨ b64encode publicBytes ≠ value.toList then none
  else if signCleared publicBytes ∈ smallOrderEd25519Encodings then none
  else some publicBytes

/-- `_decode_base64`: `none` where the source raises. -/
def decodeBase64 (value : String) (expectedBytes : ℕ) : Option (List UInt8) := do
  let decoded ← b64decode value.toList
  if decoded.length ≠ expectedBytes ∨ b64encode decoded ≠ value.toList then none else some decoded

/-- `ManifestRole`. -/
inductive ManifestRole
  | assignmentAuditor | assignmentIssuer | assignmentSecurity
deriving DecidableEq

/-- The role in a document. -/
def ManifestRole.text : ManifestRole → String
  | assignmentAuditor => "assignment_auditor"
  | assignmentIssuer => "assignment_issuer"
  | assignmentSecurity => "assignment_security"

/-- `roles == sorted(set(roles))`. -/
def rolesCanonical (roles : List ManifestRole) : Prop :=
  roles.map ManifestRole.text = Sorting.sortedSet (roles.map ManifestRole.text)

instance (roles : List ManifestRole) : Decidable (rolesCanonical roles) :=
  inferInstanceAs (Decidable (_ = _))

/-- `Epoch`. -/
def epoch (n : ℤ) : Bool := count n

/-- A character of a `KeyID` that may end it. -/
def keyIDChar (c : Char) : Bool := ('a' ≤ c && c ≤ 'z') || ('0' ≤ c && c ≤ '9')

/-- `KeyID`. -/
def keyID (s : String) : Bool :=
  s.toList.length ≤ 64 && s.toList.all (fun c => keyIDChar c || c = '_' || c = '-') &&
    s.toList.head?.any keyIDChar && s.toList.getLast?.any keyIDChar

/-- `TrustedManifestKey`. -/
structure TrustedManifestKey where
  keyID : String
  publicKeyBase64 : String
  publicKeySha256 : String
  roles : List ManifestRole
  validFromEpoch : ℤ
  validUntilEpoch : ℤ
  revokedAtEpoch : Option ℤ
deriving DecidableEq

namespace TrustedManifestKey

/-- `model_document` of a key. -/
def toJson (k : TrustedManifestKey) : Json :=
  document [("key_id", text k.keyID), ("algorithm", text "ed25519"),
    ("public_key_base64", text k.publicKeyBase64), ("public_key_sha256", text k.publicKeySha256),
    ("roles", .arr (k.roles.map fun role => text role.text)),
    ("purposes", .arr [text "active_assignment_manifest_publication_v1"]),
    ("valid_from_epoch", .num k.validFromEpoch), ("valid_until_epoch", .num k.validUntilEpoch),
    ("revoked_at_epoch", optional .num k.revokedAtEpoch)]

/-- The values of the contract. -/
def Valid (k : TrustedManifestKey) : Prop :=
  Manifest.keyID k.keyID ∧ k.publicKeyBase64.toList.length = 44 ∧ hex64 k.publicKeySha256 ∧
    1 ≤ k.roles.length ∧ k.roles.length ≤ 3 ∧ epoch k.validFromEpoch ∧ epoch k.validUntilEpoch ∧
    (∀ revoked ∈ k.revokedAtEpoch, epoch revoked) ∧
    (decodeEd25519PublicKeyBase64 k.publicKeyBase64).map sha256Hex = some k.publicKeySha256 ∧
    rolesCanonical k.roles ∧ k.validFromEpoch < k.validUntilEpoch ∧
    ∀ revoked ∈ k.revokedAtEpoch, k.validFromEpoch ≤ revoked ∧ revoked ≤ k.validUntilEpoch

instance (k : TrustedManifestKey) : Decidable k.Valid := by
  unfold Valid
  infer_instance

end TrustedManifestKey

/-! ## The policy -/

/-- `AssignmentManifestTrustPolicy`. -/
structure AssignmentManifestTrustPolicy where
  network : Network
  netuid : ℤ
  centralAuthorityFingerprintSha256 : String
  threshold : ℤ
  requiredRoles : List ManifestRole
  trustedKeys : List TrustedManifestKey
  validFromEpoch : ℤ
  validUntilEpoch : ℤ
  maxManifestAgeSeconds : ℤ
  maxFutureSkewSeconds : ℤ
  maxManifestLifetimeSeconds : ℤ
  maxSequenceGap : ℤ
  maxFinalizedHeightGap : ℤ
  allowedRouteHostSuffixes : List String
  probeTimeoutMillis : ℤ
  maxResponseBytes : ℤ
  pinnedEdgeLeafCertificateSha256 : List String
  trustPolicyDigestSha256 : String
deriving DecidableEq

namespace AssignmentManifestTrustPolicy

/-- The members the digest covers. -/
def members (p : AssignmentManifestTrustPolicy) : List (String × Json) :=
  [("schema", text "miss.computer/misscomputer-subnet/assignment-manifest-trust-policy"),
    ("schema_version", .num 1), ("policy_id", text "miss-computer-active-assignment-manifest-trust-v1"),
    ("purpose", text "active_assignment_manifest_publication_v1"), ("network", text p.network.text),
    ("netuid", .num p.netuid),
    ("central_authority_fingerprint_sha256", text p.centralAuthorityFingerprintSha256),
    ("threshold", .num p.threshold),
    ("required_roles", .arr (p.requiredRoles.map fun role => text role.text)),
    ("trusted_keys", .arr (p.trustedKeys.map TrustedManifestKey.toJson)),
    ("valid_from_epoch", .num p.validFromEpoch), ("valid_until_epoch", .num p.validUntilEpoch),
    ("max_manifest_age_seconds", .num p.maxManifestAgeSeconds),
    ("max_future_skew_seconds", .num p.maxFutureSkewSeconds),
    ("max_manifest_lifetime_seconds", .num p.maxManifestLifetimeSeconds),
    ("max_sequence_gap", .num p.maxSequenceGap),
    ("max_finalized_height_gap", .num p.maxFinalizedHeightGap),
    ("allowed_route_host_suffixes", .arr (p.allowedRouteHostSuffixes.map text)),
    ("probe_scheme", text "https"), ("probe_timeout_millis", .num p.probeTimeoutMillis),
    ("max_response_bytes", .num p.maxResponseBytes),
    ("pinned_edge_leaf_certificate_sha256", .arr (p.pinnedEdgeLeafCertificateSha256.map text))]

/-- The policy with its digest. -/
def sealed (p : AssignmentManifestTrustPolicy) : AssignmentManifestTrustPolicy :=
  { p with trustPolicyDigestSha256 := digest (document p.members) }

lemma digest_sealed (p : AssignmentManifestTrustPolicy) :
    p.sealed.trustPolicyDigestSha256 = digest (document p.sealed.members) := rfl

/-- What the fields of a policy may hold. -/
def Bounded (p : AssignmentManifestTrustPolicy) : Prop :=
  hex64 p.centralAuthorityFingerprintSha256 ∧ (1 ≤ p.threshold ∧ p.threshold ≤ 16) ∧
    1 ≤ p.requiredRoles.length ∧ p.requiredRoles.length ≤ 3 ∧ 1 ≤ p.trustedKeys.length ∧
    p.trustedKeys.length ≤ 16 ∧ (∀ k ∈ p.trustedKeys, k.Valid) ∧ epoch p.validFromEpoch ∧
    epoch p.validUntilEpoch ∧ (1 ≤ p.maxManifestAgeSeconds ∧ p.maxManifestAgeSeconds ≤ 86400) ∧
    (0 ≤ p.maxFutureSkewSeconds ∧ p.maxFutureSkewSeconds ≤ 300) ∧
    (1 ≤ p.maxManifestLifetimeSeconds ∧ p.maxManifestLifetimeSeconds ≤ 86400) ∧
    (1 ≤ p.maxSequenceGap ∧ p.maxSequenceGap ≤ 64) ∧
    (1 ≤ p.maxFinalizedHeightGap ∧ p.maxFinalizedHeightGap ≤ 1000000) ∧
    1 ≤ p.allowedRouteHostSuffixes.length ∧ p.allowedRouteHostSuffixes.length ≤ 16 ∧
    (∀ s ∈ p.allowedRouteHostSuffixes, Organic.OrganicDeploymentAssignment.hostname s) ∧
    (100 ≤ p.probeTimeoutMillis ∧ p.probeTimeoutMillis ≤ 60000) ∧
    (64 ≤ p.maxResponseBytes ∧ p.maxResponseBytes ≤ 1048576) ∧
    p.pinnedEdgeLeafCertificateSha256.length ≤ 16 ∧
    (∀ s ∈ p.pinnedEdgeLeafCertificateSha256, hex64 s) ∧ hex64 p.trustPolicyDigestSha256

instance (p : AssignmentManifestTrustPolicy) : Decidable p.Bounded := by
  unfold Bounded
  infer_instance

/-- The values of the contract. -/
def Valid (p : AssignmentManifestTrustPolicy) : Prop :=
  p.Bounded ∧ (p.network, p.netuid) ∈ StaticScoring.networks ∧ p.validFromEpoch < p.validUntilEpoch ∧
    rolesCanonical p.requiredRoles ∧
    p.trustedKeys.map TrustedManifestKey.keyID =
      Sorting.sortedSet (p.trustedKeys.map TrustedManifestKey.keyID) ∧
    (p.trustedKeys.map TrustedManifestKey.publicKeySha256).Nodup ∧
    p.threshold ≤ (p.trustedKeys.length : ℤ) ∧
    (∀ role ∈ p.requiredRoles, ∃ k ∈ p.trustedKeys, role ∈ k.roles) ∧
    p.allowedRouteHostSuffixes = Sorting.sortedSet p.allowedRouteHostSuffixes ∧
    p.pinnedEdgeLeafCertificateSha256 = Sorting.sortedSet p.pinnedEdgeLeafCertificateSha256 ∧
    p.trustPolicyDigestSha256 = digest (document p.members)

instance (p : AssignmentManifestTrustPolicy) : Decidable p.Valid := by
  unfold Valid
  infer_instance

end AssignmentManifestTrustPolicy

/-! ## Admission -/

/-- `_verify_policy_binding`. -/
def verifyPolicyBinding (manifest : ManifestHeader) (policy : AssignmentManifestTrustPolicy)
    (evaluationEpoch : ℤ) : Except ManifestError Unit := do
  reject (manifest.trustPolicyDigestSha256 ≠ policy.trustPolicyDigestSha256) (.probe .trustPolicyMismatch)
  reject (manifest.network ≠ policy.network.text ∨ manifest.netuid ≠ policy.netuid) (.probe .networkMismatch)
  reject (manifest.centralAuthorityFingerprintSha256 ≠ policy.centralAuthorityFingerprintSha256)
    (.probe .authorityMismatch)
  reject (manifest.probeScheme ≠ "https") (.probe .probeSchemeMismatch)
  reject (manifest.routeHostSuffix ∉ policy.allowedRouteHostSuffixes) (.probe .routeHostPolicyViolation)
  reject (evaluationEpoch < policy.validFromEpoch) (.probe .trustPolicyNotYetValid)
  reject (policy.validUntilEpoch ≤ evaluationEpoch) (.probe .trustPolicyExpired)
  reject (manifest.issuedAtEpoch < policy.validFromEpoch ∨ policy.validUntilEpoch < manifest.expiresAtEpoch)
    (.probe .trustPolicyMismatch)
  reject (policy.maxManifestLifetimeSeconds < manifest.expiresAtEpoch - manifest.issuedAtEpoch)
    (.probe .manifestLifetimeInvalid)
  reject (evaluationEpoch + policy.maxFutureSkewSeconds < manifest.issuedAtEpoch) (.probe .manifestFuture)

/-- `verify_manifest_policy_admission`. -/
def verifyManifestPolicyAdmission (manifest : ManifestHeader) (policy : AssignmentManifestTrustPolicy)
    (evaluationEpoch : ℤ) : Except ManifestError Unit := do
  reject (¬ epoch evaluationEpoch) (.value "evaluation_epoch_invalid")
  verifyPolicyBinding manifest policy evaluationEpoch
  reject (manifest.issuedAtEpoch < evaluationEpoch ∧
    policy.maxManifestAgeSeconds < evaluationEpoch - manifest.issuedAtEpoch) (.probe .manifestStale)

/-! ## Signatures -/

/-- `AssignmentManifestSignatureEnvelope`. -/
structure AssignmentManifestSignatureEnvelope where
  signerKeyID : String
  manifestDigestSha256 : String
  signedMessageDigestSha256 : String
  signatureBase64 : String
deriving DecidableEq

namespace AssignmentManifestSignatureEnvelope

/-- The values of the contract. -/
def Valid (e : AssignmentManifestSignatureEnvelope) : Prop :=
  keyID e.signerKeyID ∧ hex64 e.manifestDigestSha256 ∧ hex64 e.signedMessageDigestSha256 ∧
    e.signatureBase64.toList.length = 88 ∧ (decodeBase64 e.signatureBase64 64).isSome

instance (e : AssignmentManifestSignatureEnvelope) : Decidable e.Valid := by
  unfold Valid
  infer_instance

end AssignmentManifestSignatureEnvelope

/-- One round of the loop over the signatures: the keys that signed and the roles they cover. The signature is
checked by `ed25519`, of the key, the signature and the message. -/
def verifyEnvelope (ed25519 : List UInt8 → List UInt8 → List UInt8 → Bool) (manifest : ManifestHeader)
    (message : List UInt8) (policy : AssignmentManifestTrustPolicy) (evaluationEpoch : ℤ)
    (verified : List String × List ManifestRole) (envelope : AssignmentManifestSignatureEnvelope) :
    Except ManifestError (List String × List ManifestRole) :=
  match policy.trustedKeys.find? fun k => k.keyID = envelope.signerKeyID with
  | none => .error (.probe .signerUntrusted)
  | some key => do
    reject (envelope.manifestDigestSha256 ≠ manifest.manifestDigestSha256 ∨
      envelope.signedMessageDigestSha256 ≠ sha256Hex message) (.probe .signatureBindingMismatch)
    reject (manifest.issuedAtEpoch < key.validFromEpoch) (.probe .signerNotYetValid)
    reject (key.validUntilEpoch < manifest.expiresAtEpoch ∨ key.validUntilEpoch ≤ evaluationEpoch)
      (.probe .signerExpired)
    reject (∃ revoked ∈ key.revokedAtEpoch, revoked ≤ evaluationEpoch) (.probe .signerRevoked)
    match decodeBase64 envelope.signatureBase64 64, decodeEd25519PublicKeyBase64 key.publicKeyBase64 with
    | some signatureBytes, some publicKey =>
      reject (!ed25519 publicKey signatureBytes message) (.probe .signatureInvalid)
      return (verified.1 ++ [key.keyID], verified.2 ++ key.roles)
    | _, _ => .error (.value "base64_invalid")

/-- `sorted(verified_roles)`. -/
def sortedRoles (roles : List ManifestRole) : List ManifestRole :=
  Sorting.sortOn ManifestRole.text roles.dedup

/-- `verify_manifest_signatures`. -/
def verifyManifestSignatures (ed25519 : List UInt8 → List UInt8 → List UInt8 → Bool)
    (manifest : ManifestHeader) (message : List UInt8)
    (signatures : List AssignmentManifestSignatureEnvelope) (policy : AssignmentManifestTrustPolicy)
    (evaluationEpoch : ℤ) : Except ManifestError (List String × List ManifestRole) := do
  reject (∃ key ∈ policy.trustedKeys, decodeEd25519PublicKeyBase64 key.publicKeyBase64 = none)
    (.probe .signerKeyInvalid)
  reject (signatures.map (·.signerKeyID) ≠ Sorting.sortedSet (signatures.map (·.signerKeyID)))
    (.probe .signatureBindingMismatch)
  let (verifiedIDs, verifiedRoles) ←
    signatures.foldlM (verifyEnvelope ed25519 manifest message policy evaluationEpoch) ([], [])
  reject ((verifiedIDs.length : ℤ) < policy.threshold) (.probe .thresholdNotMet)
  reject (∃ role ∈ policy.requiredRoles, role ∉ verifiedRoles) (.probe .requiredRoleMissing)
  return (Sorting.sortOn id verifiedIDs, sortedRoles verifiedRoles)

/-! ## A sample policy -/

namespace Sample

/-- The one key of the sample. -/
def key : TrustedManifestKey where
  keyID := "issuer"
  publicKeyBase64 := "AQEBAQEBAQEBAQEBAQEBAQEBAQEBAQEBAQEBAQEBAQE="
  publicKeySha256 := sha256Hex (List.replicate 32 1)
  roles := [.assignmentIssuer]
  validFromEpoch := 0
  validUntilEpoch := 1000000
  revokedAtEpoch := none

/-- The policy of the sample. -/
def policy : AssignmentManifestTrustPolicy :=
  AssignmentManifestTrustPolicy.sealed
    { network := .finney
      netuid := 24
      centralAuthorityFingerprintSha256 := String.ofList (List.replicate 64 'a')
      threshold := 1
      requiredRoles := [.assignmentIssuer]
      trustedKeys := [key]
      validFromEpoch := 0
      validUntilEpoch := 1000000
      maxManifestAgeSeconds := 3600
      maxFutureSkewSeconds := 300
      maxManifestLifetimeSeconds := 3600
      maxSequenceGap := 64
      maxFinalizedHeightGap := 1000
      allowedRouteHostSuffixes := ["on.miss.computer"]
      probeTimeoutMillis := 1000
      maxResponseBytes := 1024
      pinnedEdgeLeafCertificateSha256 := []
      trustPolicyDigestSha256 := "" }

lemma key_decodes : decodeEd25519PublicKeyBase64 key.publicKeyBase64 = some (List.replicate 32 1) := by
  decide +kernel

lemma key_valid : key.Valid := by
  refine ⟨by decide, by decide, hex64_sha256Hex _, by decide, by decide, by decide, by decide,
    by decide, ?_, by decide, by decide, by decide⟩
  rw [key_decodes]
  rfl

lemma policy_valid : policy.Valid := by
  refine ⟨⟨hex64_replicate (by decide), by decide, by decide, by decide, by decide, by decide, ?_, by decide,
    by decide, by decide, by decide, by decide, by decide, by decide, by decide, by decide, by decide,
    by decide, by decide, by decide, by decide, hex64_digest _⟩, by decide, by decide, by decide,
    by decide, by decide, by decide, by decide, by decide, by decide,
    AssignmentManifestTrustPolicy.digest_sealed _⟩
  intro k hk
  obtain rfl : k = key := List.mem_singleton.mp hk
  exact key_valid

end Sample

end Manifest

end Misscomputer
