import Misscomputer.Static.Releases

set_option relaxedAutoImplicit false
set_option autoImplicit false

/-!
# Revocations of static releases

A revocation authority signs one cumulative snapshot of the revoked releases and signer keys. A validator receives
it in an envelope with the signed releases that it names, so that every entry is bound to a site and every key to
the pinned release policies. It keeps the highest snapshot it accepted, and accepts a later one only when that has
a higher sequence, is not issued earlier and keeps every entry.

## Main definitions

* `StaticRevocation.StaticSiteReleaseRevocation` — a snapshot.
* `StaticRevocation.verifyBoundStaticSiteReleaseRevocation` — the check of an envelope.
* `StaticRevocation.advanceStaticSiteReleaseRevocation` — whether an offered snapshot replaces the held one.
* `StaticRevocation.staticIndexRevoked` — whether an index is revoked.
* `StaticRevocation.Advances`, `StaticRevocation.Condemned` — what an accepted snapshot keeps, and what a snapshot
  says of an index whatever the policies are.

## Main results

* `StaticRevocation.b64decode_b64encode` — encoded bytes are decoded.
* `StaticRevocation.verifyBound_eq_ok` — what a verified envelope says of its bytes and of its keys.
* `StaticRevocation.advance_eq_true` — an accepted snapshot advances the held one.
* `StaticRevocation.condemned_of_revoked`, `StaticRevocation.revoked_of_condemned` — an index that was
  authenticated under a pinned policy is revoked exactly when it is condemned.

## References

* `src/misscomputer_subnet/static_revocation.py`
* `src/misscomputer_subnet/static_revocation_evidence.py`
-/

namespace Misscomputer

namespace StaticRevocation

open Contract
open Except (reject)
open Organic (b64decode b64encode base64Digit base64Sextet)
open StaticIndex

/-! ## Vocabulary -/

/-- `ReleaseReason`. -/
inductive ReleaseReason
  | credentialHarvesting | illegalContent | keyCompromise | malware | phishing | platformIntegrity
deriving DecidableEq, Repr

/-- The reason in a document. -/
def ReleaseReason.text : ReleaseReason → String
  | credentialHarvesting => "credential_harvesting"
  | illegalContent => "illegal_content"
  | keyCompromise => "key_compromise"
  | malware => "malware"
  | phishing => "phishing"
  | platformIntegrity => "platform_integrity"

/-- The reasons. -/
def ReleaseReason.all : List ReleaseReason :=
  [credentialHarvesting, illegalContent, keyCompromise, malware, phishing, platformIntegrity]

lemma ReleaseReason.mem_all (r : ReleaseReason) : r ∈ all := by
  cases r <;> decide

lemma ReleaseReason.nodup_text : (all.map text).Nodup := by decide

/-- `TAKEDOWN_REASONS`. -/
def takedownReasons : List ReleaseReason :=
  [.credentialHarvesting, .illegalContent, .malware, .phishing, .platformIntegrity]

/-- `SignerKeyReason`. -/
inductive SignerKeyReason
  | keyCompromise | keyRetired
deriving DecidableEq, Repr

/-- The reason in a document. -/
def SignerKeyReason.text : SignerKeyReason → String
  | keyCompromise => "key_compromise"
  | keyRetired => "key_retired"

/-- The reasons. -/
def SignerKeyReason.all : List SignerKeyReason := [keyCompromise, keyRetired]

lemma SignerKeyReason.mem_all (r : SignerKeyReason) : r ∈ all := by
  cases r <;> decide

lemma SignerKeyReason.nodup_text : (all.map text).Nodup := by decide

/-- `RevocationCode`. -/
inductive RevocationCode
  | policyInvalid | policyDigestMismatch | policyKeyNotDedicated | snapshotInvalid | signerUntrusted
  | signerOutsideValidity | signatureInvalid | entryUnbound | rollback | equivocation | notCumulative
deriving DecidableEq, Repr

/-- The text of a code. -/
def RevocationCode.text : RevocationCode → String
  | policyInvalid => "revocation_policy_invalid"
  | policyDigestMismatch => "revocation_policy_digest_mismatch"
  | policyKeyNotDedicated => "revocation_policy_key_not_dedicated"
  | snapshotInvalid => "revocation_snapshot_invalid"
  | signerUntrusted => "revocation_signer_untrusted"
  | signerOutsideValidity => "revocation_signer_outside_validity"
  | signatureInvalid => "revocation_signature_invalid"
  | entryUnbound => "revocation_entry_unbound"
  | rollback => "revocation_rollback"
  | equivocation => "revocation_equivocation"
  | notCumulative => "revocation_not_cumulative"

/-- `FreshnessCode`. -/
inductive FreshnessCode
  | stale | issuedInFuture
deriving DecidableEq, Repr

/-- The text of a code. -/
def FreshnessCode.text : FreshnessCode → String
  | stale => "revocation_stale"
  | issuedInFuture => "revocation_issued_in_future"

/-- `StaticSiteReleaseRevocationTrustPolicy`. -/
abbrev StaticSiteReleaseRevocationTrustPolicy : Type :=
  TrustPolicy "miss.computer/misscomputer-subnet/static-site-release-revocation-trust-policy"

/-! ## Snapshots -/

/-- `RevokedRelease`. -/
structure RevokedRelease where
  reasonCategory : ReleaseReason
  releaseDigest : String
  siteDigest : String
deriving DecidableEq

namespace RevokedRelease

/-- The members of an entry. -/
def members (r : RevokedRelease) : List (String × Json) :=
  [("reason_category", text r.reasonCategory.text), ("release_digest", text r.releaseDigest),
    ("site_digest", text r.siteDigest)]

/-- `model_document` of an entry. -/
def toJson (r : RevokedRelease) : Json := document r.members

/-- An entry from the values of its members. -/
def ofValues : List Json → Option RevokedRelease
  | [reasonCategory, releaseDigest, siteDigest] => do
    return {
      reasonCategory := ← readLiteral ReleaseReason.all ReleaseReason.text reasonCategory
      releaseDigest := ← readText releaseDigest
      siteDigest := ← readText siteDigest }
  | _ => none

/-- An entry from its document. -/
def ofJson (j : Json) : Option RevokedRelease :=
  (memberValues ["reason_category", "release_digest", "site_digest"] [] j).bind ofValues

lemma nodup_keys (r : RevokedRelease) : (r.members.map Prod.fst).Nodup := by
  simp [members]

lemma ofJson_toJson (r : RevokedRelease) : ofJson r.toJson = some r := by
  have hvalues : memberValues ["reason_category", "release_digest", "site_digest"] [] r.toJson = _ :=
    memberValues_document_exact r.nodup_keys
  rw [ofJson, hvalues, Option.bind_some]
  simp [members, ofValues, readLiteral_text ReleaseReason.nodup_text r.reasonCategory.mem_all]

lemma wellKeyed_toJson (r : RevokedRelease) : r.toJson.WellKeyed := by
  refine wellKeyed_document r.nodup_keys ?_
  simp [members, Json.WellKeyed, text]

/-- The values of the contract. -/
def Valid (r : RevokedRelease) : Prop := sha256Digest r.releaseDigest ∧ sha256Digest r.siteDigest

instance (r : RevokedRelease) : Decidable r.Valid := by
  unfold Valid
  infer_instance

end RevokedRelease

/-- `RevokedSignerKey`. -/
structure RevokedSignerKey where
  keyID : String
  publicKeyHex : String
  reasonCategory : SignerKeyReason
deriving DecidableEq

namespace RevokedSignerKey

/-- The members of an entry. -/
def members (k : RevokedSignerKey) : List (String × Json) :=
  [("key_id", text k.keyID), ("public_key_hex", text k.publicKeyHex),
    ("reason_category", text k.reasonCategory.text)]

/-- `model_document` of an entry. -/
def toJson (k : RevokedSignerKey) : Json := document k.members

/-- An entry from the values of its members. -/
def ofValues : List Json → Option RevokedSignerKey
  | [keyID, publicKeyHex, reasonCategory] => do
    return {
      keyID := ← readText keyID
      publicKeyHex := ← readText publicKeyHex
      reasonCategory := ← readLiteral SignerKeyReason.all SignerKeyReason.text reasonCategory }
  | _ => none

/-- An entry from its document. -/
def ofJson (j : Json) : Option RevokedSignerKey :=
  (memberValues ["key_id", "public_key_hex", "reason_category"] [] j).bind ofValues

lemma nodup_keys (k : RevokedSignerKey) : (k.members.map Prod.fst).Nodup := by
  simp [members]

lemma ofJson_toJson (k : RevokedSignerKey) : ofJson k.toJson = some k := by
  have hvalues : memberValues ["key_id", "public_key_hex", "reason_category"] [] k.toJson = _ :=
    memberValues_document_exact k.nodup_keys
  rw [ofJson, hvalues, Option.bind_some]
  simp [members, ofValues, readLiteral_text SignerKeyReason.nodup_text k.reasonCategory.mem_all]

lemma wellKeyed_toJson (k : RevokedSignerKey) : k.toJson.WellKeyed := by
  refine wellKeyed_document k.nodup_keys ?_
  simp [members, Json.WellKeyed, text]

/-- The values of the contract. -/
def Valid (k : RevokedSignerKey) : Prop := Manifest.keyID k.keyID ∧ hex64 k.publicKeyHex

instance (k : RevokedSignerKey) : Decidable k.Valid := by
  unfold Valid
  infer_instance

end RevokedSignerKey

/-- `StaticSiteReleaseRevocation`: one cumulative, signed snapshot. -/
structure StaticSiteReleaseRevocation where
  issuedAt : String
  revokedReleases : List RevokedRelease
  revokedSignerKeys : List RevokedSignerKey
  sequence : ℤ
  signature : String
  signerKeyID : String
deriving DecidableEq

/-- `MAX_REVOCATION_SNAPSHOT_BYTES`. -/
def maxRevocationSnapshotBytes : ℕ := 1048576

/-- `MAX_REVOCATION_POLICY_BYTES`. -/
def maxRevocationPolicyBytes : ℕ := 64 * 1024

/-- `MAX_REVOKED_RELEASES`. -/
def maxRevokedReleases : ℕ := 4096

/-- `MAX_REVOKED_SIGNER_KEYS`. -/
def maxRevokedSignerKeys : ℕ := 64

/-- `MAX_RELEASE_PROOF_POLICIES`. -/
def maxReleaseProofPolicies : ℕ := maxRevokedReleases + maxRevokedSignerKeys + 1

/-- `MAX_REVOCATION_SEQUENCE`. -/
def maxRevocationSequence : ℤ := 2 ^ 53 - 1

/-- The schema of a snapshot. -/
def revocationSchema : String := "miss.computer/misscomputer-subnet/static-site-release-revocation"

namespace StaticSiteReleaseRevocation

/-- The members a key signs. -/
def members (s : StaticSiteReleaseRevocation) : List (String × Json) :=
  [("issued_at", text s.issuedAt), ("revoked_releases", .arr (s.revokedReleases.map RevokedRelease.toJson)),
    ("revoked_signer_keys", .arr (s.revokedSignerKeys.map RevokedSignerKey.toJson)), ("schema", text revocationSchema),
    ("schema_version", .num 1), ("sequence", .num s.sequence), ("signer_key_id", text s.signerKeyID)]

/-- `model_document` of a snapshot. -/
def toJson (s : StaticSiteReleaseRevocation) : Json := document (s.members ++ [("signature", text s.signature)])

/-- A snapshot from the values of its members. -/
def ofValues : List Json → Option StaticSiteReleaseRevocation
  | [issuedAt, revokedReleases, revokedSignerKeys, schema, schemaVersion, sequence, signerKeyID, signature] => do
    guard (readText schema = some revocationSchema ∧ readInt schemaVersion = some 1)
    return {
      issuedAt := ← readText issuedAt
      revokedReleases := ← readList RevokedRelease.ofJson revokedReleases
      revokedSignerKeys := ← readList RevokedSignerKey.ofJson revokedSignerKeys
      sequence := ← readInt sequence
      signature := ← readText signature
      signerKeyID := ← readText signerKeyID }
  | _ => none

/-- A snapshot from its document. -/
def ofJson (j : Json) : Option StaticSiteReleaseRevocation :=
  (memberValues ["issued_at", "revoked_releases", "revoked_signer_keys", "schema", "schema_version", "sequence",
    "signer_key_id", "signature"] [] j).bind ofValues

lemma nodup_keys (s : StaticSiteReleaseRevocation) :
    ((s.members ++ [("signature", text s.signature)]).map Prod.fst).Nodup := by
  simp [members]

lemma ofJson_toJson (s : StaticSiteReleaseRevocation) : ofJson s.toJson = some s := by
  have hvalues : memberValues ["issued_at", "revoked_releases", "revoked_signer_keys", "schema", "schema_version",
      "sequence", "signer_key_id", "signature"] [] s.toJson = _ := memberValues_document_exact s.nodup_keys
  have hreleases : readList RevokedRelease.ofJson (.arr (s.revokedReleases.map RevokedRelease.toJson)) =
      some s.revokedReleases := readList_arr fun r _ => r.ofJson_toJson
  have hkeys : readList RevokedSignerKey.ofJson (.arr (s.revokedSignerKeys.map RevokedSignerKey.toJson)) =
      some s.revokedSignerKeys := readList_arr fun k _ => k.ofJson_toJson
  rw [ofJson, hvalues, Option.bind_some]
  simp [members, ofValues, hreleases, hkeys]

lemma wellKeyed_toJson (s : StaticSiteReleaseRevocation) : s.toJson.WellKeyed := by
  refine wellKeyed_document s.nodup_keys ?_
  simp only [members, List.cons_append, List.nil_append, List.mem_cons, List.not_mem_nil, or_false, forall_eq_or_imp,
    forall_eq]
  refine ⟨trivial, ?_, ?_, trivial, trivial, trivial, trivial, trivial⟩
  · rw [Json.WellKeyed, Json.wellKeyedItems_iff]
    intro j hj
    obtain ⟨r, -, rfl⟩ := List.mem_map.mp hj
    exact r.wellKeyed_toJson
  · rw [Json.WellKeyed, Json.wellKeyedItems_iff]
    intro j hj
    obtain ⟨k, -, rfl⟩ := List.mem_map.mp hj
    exact k.wellKeyed_toJson

/-- The values of the contract: `strictly_ordered`. -/
def Valid (s : StaticSiteReleaseRevocation) : Prop :=
  utcTimestamp s.issuedAt ∧ s.revokedReleases.length ≤ maxRevokedReleases ∧ (∀ r ∈ s.revokedReleases, r.Valid) ∧
    s.revokedSignerKeys.length ≤ maxRevokedSignerKeys ∧ (∀ k ∈ s.revokedSignerKeys, k.Valid) ∧
    (1 ≤ s.sequence ∧ s.sequence ≤ maxRevocationSequence) ∧ hexSignature s.signature ∧
    Manifest.keyID s.signerKeyID ∧ (s.revokedReleases.map RevokedRelease.releaseDigest).IsChain (· < ·) ∧
    (s.revokedSignerKeys.map RevokedSignerKey.keyID).IsChain (· < ·) ∧
    (s.revokedSignerKeys.map RevokedSignerKey.publicKeyHex).Nodup

instance (s : StaticSiteReleaseRevocation) : Decidable s.Valid := by
  unfold Valid
  infer_instance

/-- The contract of a snapshot. -/
def model : Model StaticSiteReleaseRevocation where
  toJson := toJson
  ofJson := ofJson
  Valid := Valid
  decidable := inferInstance
  ofJson_toJson := fun s _ => s.ofJson_toJson
  wellKeyed := fun s _ => s.wellKeyed_toJson

end StaticSiteReleaseRevocation

/-- `static_site_release_revocation_message`. -/
def staticSiteReleaseRevocationMessage (s : StaticSiteReleaseRevocation) : List UInt8 :=
  Text.bytes "miss.computer/misscomputer-subnet/static-site-release-revocation/v1/ed25519".toList ++ [0] ++
    canonicalJson (document s.members)

/-! ## Verification -/

/-- `VerifiedRevocation`. -/
structure VerifiedRevocation where
  snapshot : StaticSiteReleaseRevocation
  snapshotDigest : String
  stored : List UInt8
  policyDigestSha256 : String
deriving DecidableEq

namespace VerifiedRevocation

variable (held : VerifiedRevocation)

/-- `release_revoked`. -/
def releaseRevoked (releaseDigest : String) : Bool :=
  held.snapshot.revokedReleases.any fun item => item.releaseDigest = releaseDigest

/-- `site_revoked`. -/
def siteRevoked (siteDigest : String) : Bool :=
  held.snapshot.revokedReleases.any fun item =>
    item.siteDigest = siteDigest && decide (item.reasonCategory ∈ takedownReasons)

/-- `signer_revoked`. -/
def signerRevoked (keyID publicKeyHex : String) : Bool :=
  held.snapshot.revokedSignerKeys.any fun item => item.keyID = keyID || item.publicKeyHex = publicKeyHex

end VerifiedRevocation

/-- `parse_static_site_release_revocation_trust_policy`, without the check of the keys. -/
def parsePinnedPolicy (stored : List UInt8) (pinnedDigestSha256 : String) :
    Except RevocationCode StaticSiteReleaseRevocationTrustPolicy :=
  match TrustPolicy.model.parse maxRevocationPolicyBytes stored with
  | .error _ => .error .policyInvalid
  | .ok policy => do
    reject (policy.digestSha256 ≠ pinnedDigestSha256) .policyDigestMismatch
    return policy

/-- One round of the loop of `validated_release_proof_policies`: the keys by their names, and the names by the
public keys. -/
def checkAlias (seen : Dict String StaticReleaseKey × Dict String String) (key : StaticReleaseKey) :
    Except RevocationCode (Dict String StaticReleaseKey × Dict String String) := do
  reject ((seen.1.get key.keyID).getD key ≠ key ∨ (seen.2.get key.publicKeyHex).getD key.keyID ≠ key.keyID)
    .entryUnbound
  return (seen.1.setdefault key.keyID key, seen.2.setdefault key.publicKeyHex key.keyID)

/-- The keys of all the policies. -/
def pinnedKeys (policies : List StaticSiteReleaseTrustPolicy) : List StaticReleaseKey :=
  policies.flatMap TrustPolicy.trustedKeys

/-- `validated_release_proof_policies`. -/
def validatedReleaseProofPolicies (policies : List StaticSiteReleaseTrustPolicy) : Except RevocationCode Unit := do
  reject (¬ (1 ≤ policies.length ∧ policies.length ≤ maxReleaseProofPolicies)) .entryUnbound
  let _ ← (pinnedKeys policies).foldlM checkAlias ([], [])

/-- `parse_static_site_release_revocation_trust_policy`. -/
def parseStaticSiteReleaseRevocationTrustPolicy (stored : List UInt8) (pinnedDigestSha256 : String)
    (releasePolicies : List StaticSiteReleaseTrustPolicy) :
    Except RevocationCode StaticSiteReleaseRevocationTrustPolicy := do
  let policy ← parsePinnedPolicy stored pinnedDigestSha256
  validatedReleaseProofPolicies releasePolicies
  reject (∃ item ∈ policy.trustedKeys,
    item.publicKeyHex ∈ (pinnedKeys releasePolicies).map StaticReleaseKey.publicKeyHex) .policyKeyNotDedicated
  return policy

/-- `verify_static_site_release_revocation`: the signature of a snapshot. -/
def verifySnapshot (ed25519 : String → String → List UInt8 → Bool) (snapshot : StaticSiteReleaseRevocation)
    (policy : StaticSiteReleaseRevocationTrustPolicy) : Except RevocationCode Unit :=
  match policy.key snapshot.signerKeyID with
  | none => .error .signerUntrusted
  | some key => do
    reject (¬ key.Covers snapshot.issuedAt) .signerOutsideValidity
    reject (!ed25519 key.publicKeyHex snapshot.signature (staticSiteReleaseRevocationMessage snapshot))
      .signatureInvalid

/-- `verify_static_site_release_revocation`. -/
def verifyStaticSiteReleaseRevocation (ed25519 : String → String → List UInt8 → Bool) (stored : List UInt8)
    (policy : StaticSiteReleaseRevocationTrustPolicy) : Except RevocationCode VerifiedRevocation :=
  match StaticSiteReleaseRevocation.model.parse maxRevocationSnapshotBytes stored with
  | .error _ => .error .snapshotInvalid
  | .ok snapshot => do
    verifySnapshot ed25519 snapshot policy
    return {
      snapshot := snapshot
      snapshotDigest := storedDigest stored
      stored := stored
      policyDigestSha256 := policy.digestSha256 }

/-! ## Envelopes -/

/-- `ReleaseProof`. -/
structure ReleaseProof where
  releaseDigest : String
  signedReleaseB64 : String
deriving DecidableEq

namespace ReleaseProof

/-- The members of a proof. -/
def members (p : ReleaseProof) : List (String × Json) :=
  [("release_digest", text p.releaseDigest), ("signed_release_b64", text p.signedReleaseB64)]

/-- `model_document` of a proof. -/
def toJson (p : ReleaseProof) : Json := document p.members

/-- A proof from the values of its members. -/
def ofValues : List Json → Option ReleaseProof
  | [releaseDigest, signedReleaseB64] => do
    return {
      releaseDigest := ← readText releaseDigest
      signedReleaseB64 := ← readText signedReleaseB64 }
  | _ => none

/-- A proof from its document. -/
def ofJson (j : Json) : Option ReleaseProof :=
  (memberValues ["release_digest", "signed_release_b64"] [] j).bind ofValues

lemma nodup_keys (p : ReleaseProof) : (p.members.map Prod.fst).Nodup := by
  simp [members]

lemma ofJson_toJson (p : ReleaseProof) : ofJson p.toJson = some p := by
  have hvalues : memberValues ["release_digest", "signed_release_b64"] [] p.toJson = _ :=
    memberValues_document_exact p.nodup_keys
  rw [ofJson, hvalues, Option.bind_some]
  simp [members, ofValues]

lemma wellKeyed_toJson (p : ReleaseProof) : p.toJson.WellKeyed := by
  refine wellKeyed_document p.nodup_keys ?_
  simp [members, Json.WellKeyed, text]

end ReleaseProof

/-- `BoundRevocation`: the bytes of a snapshot and a signed release for each release it names. -/
structure BoundRevocation where
  snapshotB64 : String
  releaseProofs : List ReleaseProof
deriving DecidableEq

/-- `MAX_BOUND_REVOCATION_BYTES`. -/
def maxBoundRevocationBytes : ℕ := 8388608

/-- The schema of an envelope. -/
def boundRevocationSchema : String := "miss.computer/misscomputer-subnet/static-site-release-revocation-evidence"

namespace BoundRevocation

/-- The members of an envelope. -/
def members (e : BoundRevocation) : List (String × Json) :=
  [("schema", text boundRevocationSchema), ("schema_version", .num 1), ("snapshot_b64", text e.snapshotB64),
    ("release_proofs", .arr (e.releaseProofs.map ReleaseProof.toJson))]

/-- `model_document` of an envelope. -/
def toJson (e : BoundRevocation) : Json := document e.members

/-- An envelope from the values of its members. -/
def ofValues : List Json → Option BoundRevocation
  | [schema, schemaVersion, snapshotB64, releaseProofs] => do
    guard (readText schema = some boundRevocationSchema ∧ readInt schemaVersion = some 1)
    return {
      snapshotB64 := ← readText snapshotB64
      releaseProofs := ← readList ReleaseProof.ofJson releaseProofs }
  | _ => none

/-- An envelope from its document. -/
def ofJson (j : Json) : Option BoundRevocation :=
  (memberValues ["schema", "schema_version", "snapshot_b64", "release_proofs"] [] j).bind ofValues

lemma nodup_keys (e : BoundRevocation) : (e.members.map Prod.fst).Nodup := by
  simp [members]

lemma ofJson_toJson (e : BoundRevocation) : ofJson e.toJson = some e := by
  have hvalues : memberValues ["schema", "schema_version", "snapshot_b64", "release_proofs"] [] e.toJson = _ :=
    memberValues_document_exact e.nodup_keys
  have hproofs : readList ReleaseProof.ofJson (.arr (e.releaseProofs.map ReleaseProof.toJson)) =
      some e.releaseProofs := readList_arr fun p _ => p.ofJson_toJson
  rw [ofJson, hvalues, Option.bind_some]
  simp [members, ofValues, hproofs]

lemma wellKeyed_toJson (e : BoundRevocation) : e.toJson.WellKeyed := by
  refine wellKeyed_document e.nodup_keys ?_
  simp only [members, List.mem_cons, List.not_mem_nil, or_false, forall_eq_or_imp, forall_eq]
  refine ⟨trivial, trivial, trivial, ?_⟩
  rw [Json.WellKeyed, Json.wellKeyedItems_iff]
  intro j hj
  obtain ⟨p, -, rfl⟩ := List.mem_map.mp hj
  exact p.wellKeyed_toJson

/-- The values of the contract: `ordered_proofs`. -/
def Valid (e : BoundRevocation) : Prop :=
  e.releaseProofs.length ≤ maxRevokedReleases ∧ (∀ p ∈ e.releaseProofs, sha256Digest p.releaseDigest) ∧
    (e.releaseProofs.map ReleaseProof.releaseDigest).IsChain (· < ·)

instance (e : BoundRevocation) : Decidable e.Valid := by
  unfold Valid
  infer_instance

/-- The contract of an envelope. -/
def model : Model BoundRevocation where
  toJson := toJson
  ofJson := ofJson
  Valid := Valid
  decidable := inferInstance
  ofJson_toJson := fun e _ => e.ofJson_toJson
  wellKeyed := fun e _ => e.wellKeyed_toJson

end BoundRevocation

/-- `VerifiedBoundRevocation`. -/
structure VerifiedBoundRevocation where
  verified : VerifiedRevocation
  stored : List UInt8
deriving DecidableEq

/-- `_decoded`. -/
def decoded (encoded : String) (maximum : ℕ) : Except RevocationCode (List UInt8) :=
  match b64decode encoded.toList with
  | none => .error .entryUnbound
  | some stored => do
    reject (stored = [] ∨ maximum < stored.length ∨ b64encode stored ≠ encoded.toList) .entryUnbound
    return stored

/-! ### Base64 -/

/-- A digit is read back. -/
lemma base64Sextet_digit {n : ℕ} (h : n < 64) : base64Sextet (base64Digit n) = some n := by
  have hall : ∀ k : Fin 64, base64Sextet (base64Digit k) = some k.val := by decide +kernel
  exact hall ⟨n, h⟩

/-- A digit is not the padding. -/
lemma base64Digit_ne {n : ℕ} (h : n < 64) : base64Digit n ≠ '=' := by
  have hall : ∀ k : Fin 64, base64Digit k ≠ '=' := by decide +kernel
  exact hall ⟨n, h⟩

/-- Four digits are three bytes. -/
lemma b64decode_cons {x y z w : ℕ} (hx : x < 64) (hy : y < 64) (hz : z < 64) (hw : w < 64) (rest : List Char) :
    b64decode (base64Digit x :: base64Digit y :: base64Digit z :: base64Digit w :: rest) =
      (b64decode rest).map fun bytes => UInt8.ofNat (x * 4 + y / 16) :: UInt8.ofNat (y % 16 * 16 + z / 4) ::
        UInt8.ofNat (z % 4 * 64 + w) :: bytes := by
  rw [b64decode]
  · simp only [base64Sextet_digit, hx, hy, hz, hw, Option.bind_eq_bind, Option.bind_some]
    cases b64decode rest <;> rfl
  · intro hpad
    exact absurd hpad (base64Digit_ne hz)
  · intro hpad
    exact absurd hpad (base64Digit_ne hw)

/-- **Encoded bytes are decoded.** -/
theorem b64decode_b64encode (bytes : List UInt8) : b64decode (b64encode bytes) = some bytes := by
  fun_induction b64encode bytes with
  | case1 => rfl
  | case2 a =>
    have ha := a.toNat_lt
    rw [b64decode]
    simp only [base64Sextet_digit (show a.toNat / 4 < 64 by omega), base64Sextet_digit (show a.toNat % 4 * 16 < 64 by omega),
      Option.bind_eq_bind, Option.bind_some]
    rw [show a.toNat / 4 * 4 + a.toNat % 4 * 16 / 16 = a.toNat by omega, UInt8.ofNat_toNat]
  | case3 a b =>
    have ha := a.toNat_lt
    have hb := b.toNat_lt
    have hx : a.toNat / 4 < 64 := by omega
    have hy : a.toNat % 4 * 16 + b.toNat / 16 < 64 := by omega
    have hz : b.toNat % 16 * 4 < 64 := by omega
    rw [b64decode]
    · simp only [base64Sextet_digit, hx, hy, hz, Option.bind_eq_bind, Option.bind_some]
      rw [show a.toNat / 4 * 4 + (a.toNat % 4 * 16 + b.toNat / 16) / 16 = a.toNat by omega,
        show (a.toNat % 4 * 16 + b.toNat / 16) % 16 * 16 + b.toNat % 16 * 4 / 4 = b.toNat by omega,
        UInt8.ofNat_toNat, UInt8.ofNat_toNat]
    · intro hpad
      exact absurd hpad (base64Digit_ne hz)
  | case4 a b c rest ih =>
    have ha := a.toNat_lt
    have hb := b.toNat_lt
    have hc := c.toNat_lt
    rw [b64decode_cons (by omega) (by omega) (by omega) (by omega), ih, Option.map_some,
      show a.toNat / 4 * 4 + (a.toNat % 4 * 16 + b.toNat / 16) / 16 = a.toNat by omega,
      show (a.toNat % 4 * 16 + b.toNat / 16) % 16 * 16 + (b.toNat % 16 * 4 + c.toNat / 64) / 4 = b.toNat by omega,
      show (b.toNat % 16 * 4 + c.toNat / 64) % 4 * 64 + c.toNat % 64 = c.toNat by omega,
      UInt8.ofNat_toNat, UInt8.ofNat_toNat, UInt8.ofNat_toNat]

/-- Four digits for three bytes, and for what is left of them. -/
lemma length_b64encode_le (bytes : List UInt8) : (b64encode bytes).length ≤ 4 * bytes.length := by
  fun_induction b64encode bytes with
  | case1 => simp
  | case2 a => simp
  | case3 a b => simp
  | case4 a b c rest ih =>
    simp only [List.length_cons]
    omega

/-- Encoded bytes within the limit are accepted. -/
lemma decoded_b64encode {stored : List UInt8} {maximum : ℕ} (hne : stored ≠ []) (hlength : stored.length ≤ maximum) :
    decoded (String.ofList (b64encode stored)) maximum = .ok stored := by
  simp only [decoded, String.toList_ofList, b64decode_b64encode, Except.bind_eq_ok, Except.reject_eq_ok, exists_const,
    not_or, not_lt, not_not, pure, Except.pure]
  exact ⟨⟨hne, hlength, trivial⟩, trivial⟩

/-! ### Documents -/

/-- The envelope of these bytes. -/
def readEnvelope (stored : List UInt8) : Except RevocationCode BoundRevocation :=
  match BoundRevocation.model.parse maxBoundRevocationBytes stored with
  | .error _ => .error .entryUnbound
  | .ok envelope => .ok envelope

/-- The signed release of a proof. -/
def readProof (proof : ReleaseProof) (releaseDigest : String) : Except RevocationCode StaticSiteRelease := do
  let releaseBytes ← decoded proof.signedReleaseB64 maxReleaseBytes
  reject (storedDigest releaseBytes ≠ releaseDigest) .entryUnbound
  match readRelease releaseBytes with
  | .error _ => .error .entryUnbound
  | .ok release => .ok release

/-- `proof_policy_by_id`. -/
def proofPolicyByID (policies : List StaticSiteReleaseTrustPolicy) : Dict String StaticSiteReleaseTrustPolicy :=
  Dict.lasts (policies.flatMap fun policy => policy.trustedKeys.map fun key => (key.keyID, policy))

section Verification

variable (ed25519 : String → String → List UInt8 → Bool)

/-- One round of the loop over the entries: its proof is a release of its site, signed by a pinned key. -/
def verifyEntry (policies : List StaticSiteReleaseTrustPolicy) (pair : RevokedRelease × ReleaseProof) :
    Except RevocationCode Unit := do
  let release ← readProof pair.2 pair.1.releaseDigest
  reject (release.siteDigest ≠ pair.1.siteDigest) .entryUnbound
  match (proofPolicyByID policies).get release.signerKeyID with
  | none => .error .entryUnbound
  | some policy => reject (verifyRelease ed25519 release policy).isSome .entryUnbound

/-- `verify_bound_static_site_release_revocation`. -/
def verifyBoundStaticSiteReleaseRevocation (stored : List UInt8)
    (revocationPolicy : StaticSiteReleaseRevocationTrustPolicy)
    (releasePolicies : List StaticSiteReleaseTrustPolicy) : Except RevocationCode VerifiedBoundRevocation := do
  validatedReleaseProofPolicies releasePolicies
  let envelope ← readEnvelope stored
  let snapshot ← decoded envelope.snapshotB64 maxRevocationSnapshotBytes
  let verified ← verifyStaticSiteReleaseRevocation ed25519 snapshot revocationPolicy
  let entries := verified.snapshot.revokedReleases
  reject (envelope.releaseProofs.map ReleaseProof.releaseDigest ≠ entries.map RevokedRelease.releaseDigest)
    .entryUnbound
  (entries.zip envelope.releaseProofs).forM (verifyEntry ed25519 releasePolicies)
  reject (∃ entry ∈ verified.snapshot.revokedSignerKeys, (entry.keyID, entry.publicKeyHex) ∉
    (pinnedKeys releasePolicies).map fun key => (key.keyID, key.publicKeyHex)) .entryUnbound
  return ⟨verified, stored⟩

end Verification

/-! ## The high water -/

/-- A timestamp before another one. -/
def Before (a b : String) : Prop := ∃ x ∈ rfc3339nanoInstant a, ∃ y ∈ rfc3339nanoInstant b, x < y

instance (a b : String) : Decidable (Before a b) := by
  unfold Before
  infer_instance

/-- `advance_static_site_release_revocation`, of a held snapshot. -/
def advanceHeld (held offered : VerifiedRevocation) : Except RevocationCode Bool :=
  let old := held.snapshot
  let new := offered.snapshot
  if new.sequence = old.sequence then
    if offered.snapshotDigest = held.snapshotDigest then .ok false else .error .equivocation
  else do
    reject (new.sequence < old.sequence) .rollback
    reject (Before new.issuedAt old.issuedAt) .rollback
    reject (¬ (old.revokedReleases ⊆ new.revokedReleases ∧ old.revokedSignerKeys ⊆ new.revokedSignerKeys))
      .notCumulative
    return true

/-- `advance_static_site_release_revocation`: whether the offered snapshot replaces the held one. -/
def advanceStaticSiteReleaseRevocation (held : Option VerifiedRevocation) (offered : VerifiedRevocation) :
    Except RevocationCode Bool :=
  match held with
  | none => .ok true
  | some held => advanceHeld held offered

/-- `MAX_FUTURE_SKEW_SECONDS`. -/
def maxFutureSkewSeconds : ℤ := 300

/-- `MAX_MAX_AGE_SECONDS`. -/
def maxMaxAgeSeconds : ℤ := 7 * 86400

/-- `revocation_freshness`. -/
def revocationFreshness (held : VerifiedRevocation) (nowEpoch maxAgeSeconds : ℤ) : Option FreshnessCode :=
  (timestampEpochSeconds held.snapshot.issuedAt).bind fun issued =>
    if nowEpoch + maxFutureSkewSeconds < issued then some .issuedInFuture
    else if maxAgeSeconds < nowEpoch - issued then some .stale
    else none

/-- `static_index_revoked`. -/
def staticIndexRevoked (held : VerifiedRevocation) (index : ReleasedIndex)
    (releasePolicy : StaticSiteReleaseTrustPolicy) : Bool :=
  if held.releaseRevoked index.target.releaseDigest || held.siteRevoked index.release.siteDigest then true
  else match releasePolicy.key index.release.signerKeyID with
    | none => true
    | some key =>
      if index.trustPolicyDigestSha256 ≠ releasePolicy.digestSha256 then true
      else held.signerRevoked index.release.signerKeyID key.publicKeyHex

/-! ## What the checks say -/

/-- The snapshot in the bytes of an envelope. -/
def snapshotOf (stored : List UInt8) : Option StaticSiteReleaseRevocation := do
  let envelope ← (readEnvelope stored).toOption
  let snapshot ← (decoded envelope.snapshotB64 maxRevocationSnapshotBytes).toOption
  (StaticSiteReleaseRevocation.model.parse maxRevocationSnapshotBytes snapshot).toOption

/-- No public key has two names. -/
def NoAlias (policies : List StaticSiteReleaseTrustPolicy) : Prop :=
  ∀ key ∈ pinnedKeys policies, ∀ key' ∈ pinnedKeys policies,
    key.publicKeyHex = key'.publicKeyHex → key.keyID = key'.keyID

section Facts

variable {ed25519 : String → String → List UInt8 → Bool} {policies : List StaticSiteReleaseTrustPolicy}

/-- The keys that were checked are found under their public keys.

**Proof sketch.** Induction on the keys that are left, with the names of those already seen. -/
lemma named_of_foldlM {keys seen : List StaticReleaseKey}
    {before after : Dict String StaticReleaseKey × Dict String String}
    (hbefore : ∀ key ∈ seen, before.2.get key.publicKeyHex = some key.keyID)
    (h : keys.foldlM checkAlias before = .ok after) :
    ∀ key ∈ seen ++ keys, after.2.get key.publicKeyHex = some key.keyID := by
  induction keys generalizing seen before with
  | nil =>
    obtain rfl : before = after := Except.ok.inj h
    rwa [List.append_nil]
  | cons key keys ih =>
    rw [List.foldlM_cons, Except.bind_eq_ok] at h
    obtain ⟨next, hnext, h⟩ := h
    simp only [checkAlias, Except.bind_eq_ok, Except.reject_eq_ok, exists_const, not_or, not_not, pure, Except.pure,
      Except.ok.injEq] at hnext
    obtain ⟨⟨-, hname⟩, rfl⟩ := hnext
    rw [List.append_cons]
    refine ih (fun other hother => ?_) h
    dsimp only
    rw [Dict.setdefault, Dict.get_set, hname]
    rcases List.mem_append.mp hother with hother | hother
    · split
      · -- the public key was seen: its name is the one that was stored for it
        rename_i heq
        have hget := hbefore other hother
        rw [heq] at hget
        rw [hget, Option.getD_some] at hname
        rw [hname]
      · exact hbefore other hother
    · rw [List.mem_singleton.mp hother, if_pos rfl]

/-- Policies that are accepted together have no alias. -/
lemma noAlias_of_validated {u : Unit} (h : validatedReleaseProofPolicies policies = .ok u) : NoAlias policies := by
  simp only [validatedReleaseProofPolicies, Except.bind_eq_ok, Except.reject_eq_ok, exists_const] at h
  obtain ⟨-, after, hafter, -⟩ := h
  have hnamed := @named_of_foldlM _ [] _ _ nofun hafter
  rw [List.nil_append] at hnamed
  intro key hkey key' hkey' heq
  have hget := hnamed key hkey
  rw [heq, hnamed key' hkey'] at hget
  exact (Option.some.inj hget).symm

lemma readEnvelope_eq_ok {stored : List UInt8} {envelope : BoundRevocation} :
    readEnvelope stored = .ok envelope ↔
      BoundRevocation.model.parse maxBoundRevocationBytes stored = .ok envelope := by
  rw [readEnvelope]
  cases BoundRevocation.model.parse maxBoundRevocationBytes stored with
  | ok e => simp
  | error e => simp

lemma verifyStaticSiteReleaseRevocation_eq_ok {stored : List UInt8}
    {policy : StaticSiteReleaseRevocationTrustPolicy} {verified : VerifiedRevocation} :
    verifyStaticSiteReleaseRevocation ed25519 stored policy = .ok verified ↔
      ∃ snapshot, StaticSiteReleaseRevocation.model.parse maxRevocationSnapshotBytes stored = .ok snapshot ∧
        verifySnapshot ed25519 snapshot policy = .ok () ∧
        verified = ⟨snapshot, storedDigest stored, stored, policy.digestSha256⟩ := by
  rw [verifyStaticSiteReleaseRevocation]
  cases StaticSiteReleaseRevocation.model.parse maxRevocationSnapshotBytes stored with
  | error e => simp
  | ok snapshot =>
    simp only [Except.bind_eq_ok, pure, Except.pure, Except.ok.injEq, exists_eq_left', Unique.exists_iff,
      PUnit.default_eq_unit]
    rw [eq_comm (a := verified)]

/-- **What a verified envelope says.** Its bytes are kept and hold the snapshot, the entries of the snapshot about
keys are of pinned ones, and no pinned public key has two names. -/
theorem verifyBound_eq_ok {stored : List UInt8} {revocationPolicy : StaticSiteReleaseRevocationTrustPolicy}
    {bound : VerifiedBoundRevocation}
    (h : verifyBoundStaticSiteReleaseRevocation ed25519 stored revocationPolicy policies = .ok bound) :
    bound.stored = stored ∧ snapshotOf stored = some bound.verified.snapshot ∧ bound.verified.snapshot.Valid ∧
      NoAlias policies ∧ ∀ entry ∈ bound.verified.snapshot.revokedSignerKeys,
        ∃ key ∈ pinnedKeys policies, key.keyID = entry.keyID ∧ key.publicKeyHex = entry.publicKeyHex := by
  simp only [verifyBoundStaticSiteReleaseRevocation, Except.bind_eq_ok, Except.reject_eq_ok, exists_const, pure,
    Except.pure, Except.ok.injEq] at h
  obtain ⟨u, hpolicies, envelope, henvelope, snapshotBytes, hdecoded, verified, hverified, -, -, -, hkeys, rfl⟩ := h
  obtain ⟨snapshot, hparse, -, rfl⟩ := verifyStaticSiteReleaseRevocation_eq_ok.mp hverified
  refine ⟨rfl, ?_, (StaticSiteReleaseRevocation.model.parse_eq_ok_iff.mp hparse).1, noAlias_of_validated hpolicies, ?_⟩
  · simp only [snapshotOf, henvelope, hdecoded, hparse, Except.toOption, Option.bind_eq_bind, Option.bind_some]
  · intro entry hentry
    by_contra hnot
    refine hkeys ⟨entry, hentry, fun hmem => hnot ?_⟩
    obtain ⟨key, hkey, heq⟩ := List.mem_map.mp hmem
    exact ⟨key, hkey, (Prod.mk.inj heq).1, (Prod.mk.inj heq).2⟩

end Facts

/-! ## Monotonicity -/

/-- What a snapshot keeps of the one it replaces. -/
structure Advances (old new : StaticSiteReleaseRevocation) : Prop where
  sequence : old.sequence < new.sequence
  issuedAt : ¬ Before new.issuedAt old.issuedAt
  releases : old.revokedReleases ⊆ new.revokedReleases
  signerKeys : old.revokedSignerKeys ⊆ new.revokedSignerKeys

/-- The instant of a timestamp of the contract. -/
lemma exists_instant {value : String} (h : utcTimestamp value) : ∃ x, rfc3339nanoInstant value = some x := by
  rw [utcTimestamp, Bool.and_eq_true] at h
  exact Option.isSome_iff_exists.mp h.2

/-- A replacement of a replacement is a replacement. -/
lemma Advances.trans {a b c : StaticSiteReleaseRevocation} (hb : b.Valid) (hab : Advances a b) (hbc : Advances b c) :
    Advances a c where
  sequence := hab.sequence.trans hbc.sequence
  issuedAt := by
    rintro ⟨x, hx, z, hz, hlt⟩
    obtain ⟨y, hy⟩ := exists_instant hb.1
    have hxy : ¬ x < y := fun hlt => hbc.issuedAt ⟨x, hx, y, hy, hlt⟩
    have hyz : ¬ y < z := fun hlt => hab.issuedAt ⟨y, hy, z, hz, hlt⟩
    omega
  releases := fun _ hr => hbc.releases (hab.releases hr)
  signerKeys := fun _ hk => hbc.signerKeys (hab.signerKeys hk)

/-- **An accepted snapshot advances the held one.** -/
theorem advance_eq_true {held offered : VerifiedRevocation}
    (h : advanceStaticSiteReleaseRevocation (some held) offered = .ok true) :
    Advances held.snapshot offered.snapshot := by
  rw [advanceStaticSiteReleaseRevocation, advanceHeld] at h
  split at h
  · split at h <;> simp at h
  · simp only [Except.bind_eq_ok, Except.reject_eq_ok, exists_const, not_not, pure, Except.pure, and_true] at h
    obtain ⟨hsequence, hissued, hreleases, hkeys⟩ := h
    exact ⟨by omega, hissued, hreleases, hkeys⟩

/-! ## Condemned indexes -/

/-- What a snapshot says of an index under whatever policies: its release is listed, its site is taken down, or
the name of its signer is listed. -/
def Condemned (s : StaticSiteReleaseRevocation) (index : ReleasedIndex) : Prop :=
  (∃ item ∈ s.revokedReleases, item.releaseDigest = index.target.releaseDigest) ∨
    (∃ item ∈ s.revokedReleases, item.siteDigest = index.release.siteDigest ∧
      item.reasonCategory ∈ takedownReasons) ∨
    ∃ item ∈ s.revokedSignerKeys, item.keyID = index.release.signerKeyID

/-- A later snapshot condemns what an earlier one did. -/
lemma Condemned.mono {old new : StaticSiteReleaseRevocation} {index : ReleasedIndex} (h : Condemned old index)
    (hreleases : old.revokedReleases ⊆ new.revokedReleases)
    (hkeys : old.revokedSignerKeys ⊆ new.revokedSignerKeys) : Condemned new index := by
  rcases h with ⟨item, hitem, heq⟩ | ⟨item, hitem, heq⟩ | ⟨item, hitem, heq⟩
  · exact Or.inl ⟨item, hreleases hitem, heq⟩
  · exact Or.inr (Or.inl ⟨item, hreleases hitem, heq⟩)
  · exact Or.inr (Or.inr ⟨item, hkeys hitem, heq⟩)

variable {held : VerifiedRevocation} {index : ReleasedIndex}

/-- **A condemned index is revoked**, under every policy. -/
theorem revoked_of_condemned (h : Condemned held.snapshot index) (policy : StaticSiteReleaseTrustPolicy) :
    staticIndexRevoked held index policy = true := by
  have hlisted : (∃ item ∈ held.snapshot.revokedReleases, item.releaseDigest = index.target.releaseDigest) →
      held.releaseRevoked index.target.releaseDigest = true := by
    rintro ⟨item, hitem, heq⟩
    exact List.any_eq_true.mpr ⟨item, hitem, decide_eq_true heq⟩
  rw [staticIndexRevoked]
  rcases h with h | ⟨item, hitem, heq, htakedown⟩ | ⟨item, hitem, heq⟩
  · rw [hlisted h, Bool.true_or, if_pos rfl]
  · have hsite : held.siteRevoked index.release.siteDigest = true :=
      List.any_eq_true.mpr ⟨item, hitem, by simp [heq, htakedown]⟩
    rw [hsite, Bool.or_true, if_pos rfl]
  · split
    · rfl
    · split
      · rfl
      · split
        · rfl
        · exact List.any_eq_true.mpr ⟨item, hitem, by simp [heq]⟩

/-- **An index that is revoked under the policy it was authenticated under is condemned**, when the keys of the
snapshot are pinned together with that policy.

**Proof sketch.** An entry with the public key of the signer is of a pinned key, which has the name of the signer,
since no public key has two names. -/
theorem condemned_of_revoked {policy : StaticSiteReleaseTrustPolicy} {policies : List StaticSiteReleaseTrustPolicy}
    (hpolicy : policy ∈ policies) (halias : NoAlias policies)
    (hpinned : ∀ entry ∈ held.snapshot.revokedSignerKeys,
      ∃ key ∈ pinnedKeys policies, key.keyID = entry.keyID ∧ key.publicKeyHex = entry.publicKeyHex)
    (hauthenticated : index.AuthenticatedUnder policy) (h : staticIndexRevoked held index policy = true) :
    Condemned held.snapshot index := by
  obtain ⟨hdigest, hsome⟩ := hauthenticated
  obtain ⟨signer, hsigner⟩ := Option.isSome_iff_exists.mp hsome
  rw [staticIndexRevoked] at h
  split at h
  · rename_i hlisted
    rcases Bool.or_eq_true _ _ ▸ hlisted with hlisted | hlisted
    · obtain ⟨item, hitem, heq⟩ := List.any_eq_true.mp hlisted
      exact Or.inl ⟨item, hitem, of_decide_eq_true heq⟩
    · obtain ⟨item, hitem, heq⟩ := List.any_eq_true.mp hlisted
      rw [Bool.and_eq_true] at heq
      exact Or.inr (Or.inl ⟨item, hitem, of_decide_eq_true heq.1, of_decide_eq_true heq.2⟩)
  · simp only [hsigner, hdigest, ne_eq, not_true_eq_false, if_false] at h
    obtain ⟨item, hitem, heq⟩ := List.any_eq_true.mp h
    refine Or.inr (Or.inr ⟨item, hitem, ?_⟩)
    rcases Bool.or_eq_true _ _ ▸ heq with heq | heq
    · exact of_decide_eq_true heq
    · obtain ⟨key, hkey, hname, hpublic⟩ := hpinned item hitem
      have hmem : signer ∈ pinnedKeys policies :=
        List.mem_flatMap.mpr ⟨policy, hpolicy, List.mem_of_find?_eq_some hsigner⟩
      have hsignerName : signer.keyID = index.release.signerKeyID := by
        rw [TrustPolicy.key] at hsigner
        simpa using List.find?_some hsigner
      rw [← hname, ← hsignerName]
      exact halias key hkey signer hmem (hpublic.trans (of_decide_eq_true heq))

end StaticRevocation

end Misscomputer
