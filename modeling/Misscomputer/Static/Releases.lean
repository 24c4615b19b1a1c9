import Misscomputer.Contract.Parsing
import Misscomputer.Manifest.Onboarding
import Misscomputer.Static.Scoring

set_option relaxedAutoImplicit false
set_option autoImplicit false

/-!
# Releases of static sites

A static deployment names the digest of its site and the digest of a signed release of it. A validator
authenticates what it fetched under the keys of its pinned policy: the bytes have the named digests, the release
names the site, and one of the keys signed it in its window. Whatever does not authenticate is an abstention.

## Main definitions

* `StaticIndex.TrustPolicy` — a pinned set of keys; releases and revocations have one each.
* `StaticIndex.StaticSiteRelease` — a signed release.
* `StaticIndex.verifyRelease` — the check of its signature.
* `StaticIndex.staticDeploymentTargets` — the static deployments of a manifest.
* `StaticIndex.ingestStaticIndex` — what the fetched documents of a deployment come to.

## Main results

* `StaticIndex.TrustPolicy.model`, `StaticIndex.StaticSiteRelease.model` — the contracts are read back.
* `StaticIndex.ingestStaticIndex_eq_ok` — what an authenticated index says of its release.

## Implementation notes

A value that a parser returned is valid, so validating it again changes nothing; such a second validation is not
part of the model. Ed25519 is a parameter, of the key and the signature in hexadecimal and the message. So is the
code which `_manifest_abstention` reads off the error report of a manifest that is not one.

## References

* `src/misscomputer_subnet/static_index.py`
* `src/misscomputer_subnet/ed25519_trust.py` (`decode_ed25519_public_key_hex`)
-/

namespace Misscomputer

namespace StaticIndex

open Contract
open Except (reject)
open Manifest (ActiveAssignmentManifestV3 DeploymentAssignmentV3 epoch keyIDChar)
open StaticScoring (AbstentionCode StaticIndexAbstention)

/-! ## Keys -/

/-- The value of a hexadecimal digit. -/
def hexValue (c : Char) : ℕ := if c ≤ '9' then c.toNat - '0'.toNat else c.toNat - 'a'.toNat + 10

/-- `sign_cleared`: the encoding with the bit of the sign cleared. -/
def signCleared (publicKeyHex : String) : String :=
  String.ofList (publicKeyHex.toList.modify 62 fun c => Hex.digit (hexValue c % 8))

/-- Whether `decode_ed25519_public_key_hex` returns. -/
def decodesEd25519PublicKeyHex (value : String) : Bool :=
  hex64 value && decide (signCleared value ∉ Manifest.smallOrderEd25519Encodings)

/-- `StaticReleaseKey`. -/
structure StaticReleaseKey where
  keyID : String
  publicKeyHex : String
  validFromEpoch : ℤ
  validUntilEpoch : ℤ
deriving DecidableEq

namespace StaticReleaseKey

/-- The members of a key. -/
def members (k : StaticReleaseKey) : List (String × Json) :=
  [("key_id", text k.keyID), ("algorithm", text "ed25519"), ("public_key_hex", text k.publicKeyHex),
    ("valid_from_epoch", .num k.validFromEpoch), ("valid_until_epoch", .num k.validUntilEpoch)]

/-- `model_document` of a key. -/
def toJson (k : StaticReleaseKey) : Json := document k.members

/-- A key from the values of its members. -/
def ofValues : List Json → Option StaticReleaseKey
  | [keyID, algorithm, publicKeyHex, validFromEpoch, validUntilEpoch] => do
    guard (readText algorithm = some "ed25519")
    return {
      keyID := ← readText keyID
      publicKeyHex := ← readText publicKeyHex
      validFromEpoch := ← readInt validFromEpoch
      validUntilEpoch := ← readInt validUntilEpoch }
  | _ => none

/-- A key from its document. -/
def ofJson (j : Json) : Option StaticReleaseKey :=
  (memberValues ["key_id", "algorithm", "public_key_hex", "valid_from_epoch", "valid_until_epoch"] [] j).bind ofValues

lemma nodup_keys (k : StaticReleaseKey) : (k.members.map Prod.fst).Nodup := by
  simp [members]

lemma ofJson_toJson (k : StaticReleaseKey) : ofJson k.toJson = some k := by
  have hvalues : memberValues ["key_id", "algorithm", "public_key_hex", "valid_from_epoch", "valid_until_epoch"] []
      k.toJson = some (k.members.map Prod.snd) := memberValues_document_exact k.nodup_keys
  rw [ofJson, hvalues, Option.bind_some]
  simp [members, ofValues]

lemma wellKeyed_toJson (k : StaticReleaseKey) : k.toJson.WellKeyed := by
  refine wellKeyed_document k.nodup_keys ?_
  simp [members, Json.WellKeyed, text]

/-- The values of the contract. -/
def Valid (k : StaticReleaseKey) : Prop :=
  Manifest.keyID k.keyID ∧ hex64 k.publicKeyHex ∧ epoch k.validFromEpoch ∧ epoch k.validUntilEpoch ∧
    decodesEd25519PublicKeyHex k.publicKeyHex ∧ k.validFromEpoch < k.validUntilEpoch

instance (k : StaticReleaseKey) : Decidable k.Valid := by
  unfold Valid
  infer_instance

end StaticReleaseKey

/-! ## Policies -/

/-- `StaticSiteReleaseTrustPolicy` and `StaticSiteReleaseRevocationTrustPolicy`, which have the same members under
their own schemas. -/
structure TrustPolicy (schema : String) where
  policyID : String
  trustedKeys : List StaticReleaseKey
  digestSha256 : String
deriving DecidableEq

/-- `StaticSiteReleaseTrustPolicy`. -/
abbrev StaticSiteReleaseTrustPolicy : Type :=
  TrustPolicy "miss.computer/misscomputer-subnet/static-site-release-trust-policy"

/-- `MAX_RELEASE_KEYS`. -/
def maxReleaseKeys : ℕ := 16

namespace TrustPolicy

variable {schema : String}

/-- The members the digest covers. -/
def members (p : TrustPolicy schema) : List (String × Json) :=
  [("schema", text schema), ("schema_version", .num 1), ("policy_id", text p.policyID),
    ("trusted_keys", .arr (p.trustedKeys.map StaticReleaseKey.toJson))]

/-- `model_document` of a policy. -/
def toJson (p : TrustPolicy schema) : Json :=
  document (p.members ++ [("digest_sha256", text p.digestSha256)])

/-- The policy with its digest. -/
def sealed (p : TrustPolicy schema) : TrustPolicy schema := { p with digestSha256 := digest (document p.members) }

lemma digest_sealed (p : TrustPolicy schema) : p.sealed.digestSha256 = digest (document p.sealed.members) := rfl

/-- A policy from the values of its members. -/
def ofValues : List Json → Option (TrustPolicy schema)
  | [schemaName, schemaVersion, policyID, trustedKeys, digestSha256] => do
    guard (readText schemaName = some schema ∧ readInt schemaVersion = some 1)
    return {
      policyID := ← readText policyID
      trustedKeys := ← readList StaticReleaseKey.ofJson trustedKeys
      digestSha256 := ← readText digestSha256 }
  | _ => none

/-- A policy from its document. -/
def ofJson (j : Json) : Option (TrustPolicy schema) :=
  (memberValues ["schema", "schema_version", "policy_id", "trusted_keys", "digest_sha256"] [] j).bind ofValues

lemma nodup_keys (p : TrustPolicy schema) :
    ((p.members ++ [("digest_sha256", text p.digestSha256)]).map Prod.fst).Nodup := by
  simp [members]

lemma ofJson_toJson (p : TrustPolicy schema) : ofJson p.toJson = some p := by
  have hvalues : memberValues ["schema", "schema_version", "policy_id", "trusted_keys", "digest_sha256"] []
      p.toJson = _ := memberValues_document_exact p.nodup_keys
  have hkeys : readList StaticReleaseKey.ofJson (.arr (p.trustedKeys.map StaticReleaseKey.toJson)) =
      some p.trustedKeys := readList_arr fun k _ => k.ofJson_toJson
  rw [ofJson, hvalues, Option.bind_some]
  simp [members, ofValues, hkeys]

lemma wellKeyed_toJson (p : TrustPolicy schema) : p.toJson.WellKeyed := by
  refine wellKeyed_document p.nodup_keys ?_
  simp only [members, List.cons_append, List.nil_append, List.mem_cons, List.not_mem_nil, or_false, forall_eq_or_imp,
    forall_eq]
  refine ⟨trivial, trivial, trivial, ?_, trivial⟩
  rw [Json.WellKeyed, Json.wellKeyedItems_iff]
  intro j hj
  obtain ⟨k, -, rfl⟩ := List.mem_map.mp hj
  exact k.wellKeyed_toJson

/-- The values of the contract: `distinct_keys`. -/
def Valid (p : TrustPolicy schema) : Prop :=
  Manifest.keyID p.policyID ∧ 1 ≤ p.trustedKeys.length ∧ p.trustedKeys.length ≤ maxReleaseKeys ∧
    (∀ k ∈ p.trustedKeys, k.Valid) ∧ hex64 p.digestSha256 ∧ (p.trustedKeys.map StaticReleaseKey.keyID).Nodup ∧
    (p.trustedKeys.map StaticReleaseKey.publicKeyHex).Nodup ∧ p.digestSha256 = digest (document p.members)

instance (p : TrustPolicy schema) : Decidable p.Valid := by
  unfold Valid
  infer_instance

/-- The contract of a policy. -/
def model : Model (TrustPolicy schema) where
  toJson := toJson
  ofJson := ofJson
  Valid := Valid
  decidable := inferInstance
  ofJson_toJson := fun p _ => p.ofJson_toJson
  wellKeyed := fun p _ => p.wellKeyed_toJson

/-- The key of this name. -/
def key (p : TrustPolicy schema) (keyID : String) : Option StaticReleaseKey :=
  p.trustedKeys.find? fun item => item.keyID = keyID

end TrustPolicy

/-- `parse_static_site_release_trust_policy`. -/
def parseStaticSiteReleaseTrustPolicy (rendered : List UInt8) : Except String StaticSiteReleaseTrustPolicy :=
  TrustPolicy.model.parse (256 * 1024) rendered

/-! ## Releases -/

/-- `PolicyVersion`. -/
def policyVersion (s : String) : Bool :=
  s.toList.length ≤ 64 && s.toList.all (fun c => keyIDChar c || c = '.' || c = '_' || c = '-') &&
    s.toList.head?.any keyIDChar && s.toList.getLast?.any keyIDChar

/-- `StaticSiteRelease`. -/
structure StaticSiteRelease where
  issuedAt : String
  producerPolicyVersion : String
  serverImplementationDigest : String
  signature : String
  signerKeyID : String
  siteDigest : String
deriving DecidableEq

/-- `MAX_RELEASE_BYTES`. -/
def maxReleaseBytes : ℕ := 16 * 1024

namespace StaticSiteRelease

/-- The members a key signs. -/
def members (r : StaticSiteRelease) : List (String × Json) :=
  [("issued_at", text r.issuedAt), ("producer_policy_version", text r.producerPolicyVersion),
    ("schema", text "miss.computer/misscomputer-subnet/static-site-release"), ("schema_version", .num 1),
    ("server_implementation_digest", text r.serverImplementationDigest), ("signer_key_id", text r.signerKeyID),
    ("site_digest", text r.siteDigest)]

/-- `model_document` of a release. -/
def toJson (r : StaticSiteRelease) : Json := document (r.members ++ [("signature", text r.signature)])

/-- A release from the values of its members. -/
def ofValues : List Json → Option StaticSiteRelease
  | [issuedAt, producerPolicyVersion, schema, schemaVersion, serverImplementationDigest, signerKeyID, siteDigest,
      signature] => do
    guard (readText schema = some "miss.computer/misscomputer-subnet/static-site-release" ∧
      readInt schemaVersion = some 1)
    return {
      issuedAt := ← readText issuedAt
      producerPolicyVersion := ← readText producerPolicyVersion
      serverImplementationDigest := ← readText serverImplementationDigest
      signature := ← readText signature
      signerKeyID := ← readText signerKeyID
      siteDigest := ← readText siteDigest }
  | _ => none

/-- A release from its document. -/
def ofJson (j : Json) : Option StaticSiteRelease :=
  (memberValues ["issued_at", "producer_policy_version", "schema", "schema_version", "server_implementation_digest",
    "signer_key_id", "site_digest", "signature"] [] j).bind ofValues

lemma nodup_keys (r : StaticSiteRelease) : ((r.members ++ [("signature", text r.signature)]).map Prod.fst).Nodup := by
  simp [members]

lemma ofJson_toJson (r : StaticSiteRelease) : ofJson r.toJson = some r := by
  have hvalues : memberValues ["issued_at", "producer_policy_version", "schema", "schema_version",
      "server_implementation_digest", "signer_key_id", "site_digest", "signature"] [] r.toJson = _ :=
    memberValues_document_exact r.nodup_keys
  rw [ofJson, hvalues, Option.bind_some]
  simp [members, ofValues]

lemma wellKeyed_toJson (r : StaticSiteRelease) : r.toJson.WellKeyed := by
  refine wellKeyed_document r.nodup_keys ?_
  simp [members, Json.WellKeyed, text]

/-- The values of the contract. -/
def Valid (r : StaticSiteRelease) : Prop :=
  utcTimestamp r.issuedAt ∧ policyVersion r.producerPolicyVersion ∧ sha256Digest r.serverImplementationDigest ∧
    hexSignature r.signature ∧ Manifest.keyID r.signerKeyID ∧ sha256Digest r.siteDigest

instance (r : StaticSiteRelease) : Decidable r.Valid := by
  unfold Valid
  infer_instance

/-- The contract of a release. -/
def model : Model StaticSiteRelease where
  toJson := toJson
  ofJson := ofJson
  Valid := Valid
  decidable := inferInstance
  ofJson_toJson := fun r _ => r.ofJson_toJson
  wellKeyed := fun r _ => r.wellKeyed_toJson

end StaticSiteRelease

/-- `static_site_release_message`. -/
def staticSiteReleaseMessage (release : StaticSiteRelease) : List UInt8 :=
  Text.bytes "miss.computer/misscomputer-subnet/static-site-release/v1/ed25519".toList ++ [0] ++
    canonicalJson (document release.members)

/-- A timestamp within the window of a key, in seconds. -/
def StaticReleaseKey.Covers (key : StaticReleaseKey) (issuedAt : String) : Prop :=
  ∃ issued ∈ timestampEpochSeconds issuedAt, key.validFromEpoch ≤ issued ∧ issued < key.validUntilEpoch

instance (key : StaticReleaseKey) (issuedAt : String) : Decidable (key.Covers issuedAt) := by
  unfold StaticReleaseKey.Covers
  infer_instance

/-- `_verify_release`: the first failure. -/
def verifyRelease (ed25519 : String → String → List UInt8 → Bool) (release : StaticSiteRelease)
    (policy : StaticSiteReleaseTrustPolicy) : Option AbstentionCode :=
  match policy.key release.signerKeyID with
  | none => some .signerUntrusted
  | some key =>
    if ¬ key.Covers release.issuedAt then some .signerOutsideValidity
    else if !ed25519 key.publicKeyHex release.signature (staticSiteReleaseMessage release) then
      some .signatureInvalid
    else none

/-! ## Authenticated indexes -/

/-- The target of a static deployment, or nothing for another kind of workload. -/
def targetOf (item : DeploymentAssignmentV3) : Option StaticDeploymentTarget :=
  match item.workload with
  | .oci _ _ => none
  | .staticSite siteDigest releaseDigest serverImplementationDigest =>
    some
      { deploymentID := item.deploymentID
        routeHost := item.routeHost
        siteDigest := siteDigest
        releaseDigest := releaseDigest
        serverImplementationDigest := serverImplementationDigest
        endpoints := item.replicas.map fun replica =>
          { endpointID := replica.endpointID
            generation := replica.generation
            minerUID := replica.minerUID
            minerHotkey := replica.minerHotkey
            minerServicePublicKey := replica.minerServicePublicKey
            ticketDigest := replica.ticketDigest } }

/-- `static_deployment_targets`, of the manifest that was verified. -/
def staticDeploymentTargets (manifest : ActiveAssignmentManifestV3) : List StaticDeploymentTarget :=
  manifest.deployments.filterMap targetOf

/-- `VerifiedStaticIndex`, with the release it was accepted by. -/
structure ReleasedIndex extends AuthenticatedIndex where
  release : StaticSiteRelease

/-- `stored_digest`. -/
def storedDigest (rendered : List UInt8) : String := String.ofList (Static.digest rendered)

lemma sha256Digest_append {digits : List Char} (h : hex64 (String.ofList digits) = true) :
    sha256Digest (String.ofList ("sha256:".toList ++ digits)) = true := by
  have htext : (String.ofList ("sha256:".toList ++ digits)).toList = "sha256:".toList ++ digits :=
    String.toList_ofList
  rw [sha256Digest, Protocol.hexAfter, Protocol.stripPrefix?, htext, if_pos (List.prefix_append _ _), List.drop_left]
  exact h

lemma sha256Digest_storedDigest (b : List UInt8) : sha256Digest (storedDigest b) = true :=
  sha256Digest_append (hex64_sha256Hex b)
/-- `IMPLEMENTED_PRODUCER_POLICY_VERSIONS`. -/
def implementedProducerPolicyVersions : List String := ["static-producer-policy.v3"]

section Ingestion

variable (ed25519 : String → String → List UInt8 → Bool) (reported : List UInt8 → AbstentionCode)

/-- The manifest of a site, or the code of its refusal: `_manifest_abstention`. -/
def readManifest (manifestBytes : List UInt8) : Except AbstentionCode Static.Manifest :=
  match parseModel validate manifestBytes with
  | .ok manifest => .ok manifest
  | .error "document_not_canonical" => .error .indexNotCanonical
  | .error _ => .error (reported manifestBytes)

/-- The release of a site, or the code of its refusal. -/
def readRelease (releaseBytes : List UInt8) : Except AbstentionCode StaticSiteRelease :=
  match StaticSiteRelease.model.parse maxReleaseBytes releaseBytes with
  | .ok release => .ok release
  | .error _ => .error .releaseInvalid

/-- The check of the signature as a refusal. -/
def acceptRelease (release : StaticSiteRelease) (policy : StaticSiteReleaseTrustPolicy) :
    Except AbstentionCode Unit :=
  match verifyRelease ed25519 release policy with
  | none => .ok ()
  | some failure => .error failure

/-- `ingest_static_index`, of documents that were fetched. -/
def ingestDocuments (target : StaticDeploymentTarget) (manifestBytes releaseBytes : List UInt8)
    (policy : StaticSiteReleaseTrustPolicy) (pinnedServerImplementationDigest : String) :
    Except AbstentionCode ReleasedIndex := do
  reject (Static.maxManifestBytes < manifestBytes.length) .indexOversized
  reject (storedDigest manifestBytes ≠ target.siteDigest) .siteDigestMismatch
  reject (storedDigest releaseBytes ≠ target.releaseDigest) .releaseDigestMismatch
  let manifest ← readManifest reported manifestBytes
  let release ← readRelease releaseBytes
  reject (release.siteDigest ≠ target.siteDigest) .releaseBindingMismatch
  acceptRelease ed25519 release policy
  reject (release.producerPolicyVersion ∉ implementedProducerPolicyVersions) .producerPolicyUnsupported
  reject (¬ (release.serverImplementationDigest = target.serverImplementationDigest ∧
    target.serverImplementationDigest = pinnedServerImplementationDigest)) .serverImplementationMismatch
  return {
    verified manifest with
    target := target
    trustPolicyDigestSha256 := policy.digestSha256
    release := release }

/-- `ingest_static_index`: the index, or the code of the abstention. -/
def ingestStaticIndex (target : StaticDeploymentTarget) (manifestBytes releaseBytes : Option (List UInt8))
    (policy : StaticSiteReleaseTrustPolicy) (pinnedServerImplementationDigest : String) :
    Except AbstentionCode ReleasedIndex :=
  match manifestBytes, releaseBytes with
  | none, _ => .error .indexUnavailable
  | some _, none => .error .releaseUnavailable
  | some manifestBytes, some releaseBytes =>
    ingestDocuments ed25519 reported target manifestBytes releaseBytes policy pinnedServerImplementationDigest

/-- An index that was authenticated under this policy: its release is signed by one of the keys. -/
def ReleasedIndex.AuthenticatedUnder (index : ReleasedIndex) (policy : StaticSiteReleaseTrustPolicy) : Prop :=
  index.trustPolicyDigestSha256 = policy.digestSha256 ∧ (policy.key index.release.signerKeyID).isSome

variable {ed25519 reported} {target : StaticDeploymentTarget} {policy : StaticSiteReleaseTrustPolicy}
  {pinned : String}

lemma readRelease_eq_ok {releaseBytes : List UInt8} {release : StaticSiteRelease} :
    readRelease releaseBytes = .ok release ↔
      release.Valid ∧ releaseBytes = StaticSiteRelease.model.bytes release ∧ releaseBytes.length ≤ maxReleaseBytes := by
  rw [← show StaticSiteRelease.model.Valid release ↔ release.Valid from Iff.rfl,
    ← StaticSiteRelease.model.parse_eq_ok_iff, readRelease]
  cases StaticSiteRelease.model.parse maxReleaseBytes releaseBytes with
  | ok r => simp
  | error e => simp

lemma acceptRelease_eq_ok {release : StaticSiteRelease} {u : Unit} :
    acceptRelease ed25519 release policy = .ok u ↔ verifyRelease ed25519 release policy = none := by
  rw [acceptRelease]
  cases verifyRelease ed25519 release policy <;> simp

/-- A release that is accepted is signed by one of the keys. -/
lemma key_isSome_of_verifyRelease {release : StaticSiteRelease}
    (h : verifyRelease ed25519 release policy = none) : (policy.key release.signerKeyID).isSome := by
  cases hkey : policy.key release.signerKeyID with
  | none => simp [verifyRelease, hkey] at h
  | some key => rfl

/-- **What an authenticated index says.** It is of its deployment and of the policy, and its release, which has the
named digest, names the site and is signed. -/
theorem ingestStaticIndex_eq_ok {manifestBytes releaseBytes : Option (List UInt8)} {index : ReleasedIndex}
    (h : ingestStaticIndex ed25519 reported target manifestBytes releaseBytes policy pinned = .ok index) :
    index.target = target ∧ index.release.siteDigest = target.siteDigest ∧ index.AuthenticatedUnder policy ∧
      ∃ stored, releaseBytes = some stored ∧ storedDigest stored = target.releaseDigest ∧
        readRelease stored = .ok index.release := by
  cases manifestBytes with
  | none => cases h
  | some manifestBytes =>
    cases releaseBytes with
    | none => cases h
    | some stored =>
      simp only [ingestStaticIndex, ingestDocuments, Except.bind_eq_ok, Except.reject_eq_ok, exists_const,
        acceptRelease_eq_ok, pure, Except.pure, Except.ok.injEq, not_not] at h
      obtain ⟨-, -, hdigest, manifest, -, release, hrelease, hsite, hverify, -, -, rfl⟩ := h
      exact ⟨rfl, hsite, ⟨rfl, key_isSome_of_verifyRelease hverify⟩, stored, rfl, hdigest, hrelease⟩

end Ingestion

end StaticIndex

end Misscomputer
