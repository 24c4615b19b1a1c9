import Misscomputer.Manifest.Chain

set_option relaxedAutoImplicit false
set_option autoImplicit false

/-!
# Live verification, and onboarding without a history

A validator verifies each publication at its own instant and height. A validator that has no history anchors
its state on the current manifest: it verifies the manifest against a made-up predecessor and then keeps what
the manifest says.

## Main definitions

* `Manifest.Version` — what live verification reads of a manifest, in each of its versions.
* `Manifest.verify` — live verification of one publication.
* `Manifest.anchor` — onboarding on one publication.
* `Manifest.SameButCount` — two states that differ in their count and digest only.

## Main results

* `Manifest.advance_agrees` — two such states answer every manifest alike.
* `Manifest.anchor_simulates_history` — a validator that was anchored on a manifest answers every later
  publication as one does that accepted all manifests up to it.

## References

* `src/misscomputer_subnet/organic_manifest.py`
-/

namespace Misscomputer

namespace Manifest

open Contract
open Except (reject)
open Organic (ActiveAssignmentManifestV2 OrganicAssignedReplica)

/-! ## Versions -/

/-- What live verification reads of a manifest. -/
structure Version (M : Type) where
  Valid : M → Prop
  [decidable : DecidablePred Valid]
  header : M → ManifestHeader
  replicas : M → List OrganicAssignedReplica
  /-- The bytes a central key signs. -/
  message : M → List UInt8

attribute [instance] Version.decidable

/-- `organic_manifest_signature_message`. -/
def organicManifestSignatureMessage (m : ActiveAssignmentManifestV2) : List UInt8 :=
  Text.bytes "miss.computer/misscomputer-subnet/active-assignment-manifest/v2/ed25519".toList ++ [0] ++
    canonicalJson (document (m.members ++ [("manifest_digest_sha256", text m.manifestDigestSha256)]))

/-- `assignment_manifest_v3_signature_message`. -/
def assignmentManifestV3SignatureMessage (m : ActiveAssignmentManifestV3) : List UInt8 :=
  Text.bytes "miss.computer/misscomputer-subnet/active-assignment-manifest/v3/ed25519".toList ++ [0] ++
    canonicalJson m.toJson

/-- Version 2. -/
def versionV2 : Version ActiveAssignmentManifestV2 where
  Valid := ActiveAssignmentManifestV2.Valid
  header := headerV2
  replicas := ActiveAssignmentManifestV2.replicas
  message := organicManifestSignatureMessage

/-- Version 3. -/
def versionV3 : Version ActiveAssignmentManifestV3 where
  Valid := ActiveAssignmentManifestV3.Valid
  header := headerV3
  replicas := ActiveAssignmentManifestV3.replicas
  message := assignmentManifestV3SignatureMessage

/-! ## Live verification -/

/-- The identities a manifest has named so far: `by_uid` and `by_hotkey`. -/
abbrev Identities : Type := Dict ℤ (String × String) × Dict String (ℤ × String)

/-- One round of the loop over the replicas. -/
def verifyIdentity (issuedAtEpoch : ℤ) (seen : Identities) (replica : OrganicAssignedReplica) :
    Except ManifestError Identities := do
  let ofUID := (replica.minerHotkey, replica.minerServicePublicKey)
  let ofHotkey := (replica.minerUID, replica.minerServicePublicKey)
  reject (issuedAtEpoch < replica.activatedAtEpoch) (.value "manifest_replica_not_yet_active")
  reject ((seen.1.get replica.minerUID).getD ofUID ≠ ofUID ∨
    (seen.2.get replica.minerHotkey).getD ofHotkey ≠ ofHotkey) (.value "manifest_miner_identity_conflict")
  return (seen.1.setdefault replica.minerUID ofUID, seen.2.setdefault replica.minerHotkey ofHotkey)

section Versions

variable {M : Type} (version : Version M)

/-- `_verify_identities`. -/
def verifyIdentities (value : M) : Except ManifestError Unit := do
  let replicas := version.replicas value
  reject (¬ (replicas.map OrganicAssignedReplica.assignmentNonce).Nodup)
    (.value "manifest_assignment_nonce_duplicate")
  let _ ← replicas.foldlM (verifyIdentity (version.header value).issuedAtEpoch) ([], [])

/-- `organic_manifest_effective_expires_at_epoch`. -/
def effectiveExpiresAtEpoch (value : M) : ℤ :=
  ((version.replicas value).map OrganicAssignedReplica.expiresAtEpoch).foldl min
    (version.header value).expiresAtEpoch

/-- A publication as a validator meets it: the manifest, its signatures, and the instant and the finalized height
at which the validator verifies it. -/
structure Publication (M : Type) where
  manifest : M
  signatures : List AssignmentManifestSignatureEnvelope
  evaluationEpoch : ℤ
  currentFinalizedHeight : ℤ

variable (ed25519 : List UInt8 → List UInt8 → List UInt8 → Bool) (policy : AssignmentManifestTrustPolicy)

/-- `_verify_live`, up to the rules of the chain. -/
def verifySigned (publication : Publication M) : Except ManifestError (List String × List ManifestRole) := do
  let value := publication.manifest
  publication.signatures.forM (revalidate AssignmentManifestSignatureEnvelope.Valid)
  reject (¬ (1 ≤ publication.signatures.length ∧ publication.signatures.length ≤ 16))
    (.probe .signatureBindingMismatch)
  verifyManifestPolicyAdmission (version.header value) policy publication.evaluationEpoch
  verifyIdentities version value
  reject (effectiveExpiresAtEpoch version value ≤ publication.evaluationEpoch) (.probe .manifestExpired)
  reject (∃ replica ∈ version.replicas value, replica.expiresAtBlock ≤ publication.currentFinalizedHeight)
    (.probe .manifestReplicaLeaseExpired)
  verifyManifestSignatures ed25519 (version.header value) (version.message value) publication.signatures policy
    publication.evaluationEpoch

/-- `OrganicManifestVerification` and `AssignmentManifestV3Verification`. -/
structure ManifestVerification (M : Type) where
  manifest : M
  verifiedSignerKeyIDs : List String
  verifiedRoles : List ManifestRole
  nextChainState : AssignmentManifestChainState
  reprobe : Bool
  evaluationEpoch : ℤ
  trustPolicyDigestSha256 : String

/-- What is checked of a publication before the rules of the chain: the signers and their roles. -/
def verifyPublication (publication : Publication M) :
    Except ManifestError (List String × List ManifestRole) := do
  reject (¬ epoch publication.evaluationEpoch) (.value "evaluation_epoch_invalid")
  reject (¬ epoch publication.currentFinalizedHeight) (.value "current_finalized_height_invalid")
  revalidate AssignmentManifestTrustPolicy.Valid policy
  revalidate version.Valid publication.manifest
  verifySigned version ed25519 policy publication

/-- `verify_organic_assignment_manifest` and `verify_assignment_manifest_v3`. -/
def verify (priorChainState : AssignmentManifestChainState) (publication : Publication M) :
    Except ManifestError (ManifestVerification M) := do
  let (signerIDs, roles) ← verifyPublication version ed25519 policy publication
  let (nextState, reprobe) ←
    advanceManifestHeaderChainState priorChainState (version.header publication.manifest) policy
  return {
      manifest := publication.manifest
      verifiedSignerKeyIDs := signerIDs
      verifiedRoles := roles
      nextChainState := nextState
      reprobe := reprobe
      evaluationEpoch := publication.evaluationEpoch
      trustPolicyDigestSha256 := policy.trustPolicyDigestSha256 }

/-! ## Onboarding -/

/-- The synthetic predecessor of a manifest. -/
def predecessor (state : AssignmentManifestChainState) (manifest : ManifestHeader) :
    AssignmentManifestChainState :=
  AssignmentManifestChainState.sealed
    { state with
      acceptedManifestCount := 1
      lastSequence := manifest.sequence - 1
      lastFinalizedHeight := some manifest.finalizedHeight
      lastFinalizedBlockHash := some manifest.finalizedBlockHash
      lastFinalizedEpoch := some manifest.finalizedEpoch
      lastIssuedAtEpoch := some manifest.issuedAtEpoch
      lastExpiresAtEpoch := some manifest.expiresAtEpoch
      lastManifestDigestSha256 := manifest.previousManifestDigestSha256 }

/-- The state that is anchored on a manifest. -/
def anchored (state : AssignmentManifestChainState) (manifest : ManifestHeader) :
    AssignmentManifestChainState :=
  AssignmentManifestChainState.sealed
    { predecessor state manifest with
      lastSequence := manifest.sequence
      lastManifestDigestSha256 := some manifest.manifestDigestSha256 }

/-- `anchor_organic_manifest_chain_state` and `anchor_assignment_manifest_v3_chain_state`. -/
def anchor (genesisChainState : AssignmentManifestChainState) (publication : Publication M) :
    Except ManifestError (ManifestVerification M) := do
  revalidate version.Valid publication.manifest
  revalidate AssignmentManifestChainState.Valid genesisChainState
  reject (genesisChainState.acceptedManifestCount ≠ 0) (.value "anchor_state_not_genesis")
  let manifest := version.header publication.manifest
  if manifest.sequence = 1 then
    verify version ed25519 policy genesisChainState publication
  else do
    revalidate AssignmentManifestChainState.Valid (predecessor genesisChainState manifest)
    let result ← verify version ed25519 policy (predecessor genesisChainState manifest) publication
    revalidate AssignmentManifestChainState.Valid (anchored genesisChainState manifest)
    return { result with nextChainState := anchored genesisChainState manifest, reprobe := false }

/-! ## Validators -/

/-- A publication met by a validator in a state: the next state, and whether the manifest is the last one again. -/
def receive (state : AssignmentManifestChainState) (publication : Publication M) :
    Except ManifestError (AssignmentManifestChainState × Bool) :=
  (verify version ed25519 policy state publication).map fun result => (result.nextChainState, result.reprobe)

/-- The state of a validator after a list of publications. A rejected one leaves the state as it was. -/
def validatorState (state : AssignmentManifestChainState) (publications : List (Publication M)) :
    AssignmentManifestChainState :=
  Offer.run (receive version ed25519 policy) state publications

/-- What a validator answers to a list of publications: the error, or whether the manifest is the last one
again. -/
def validatorOutcomes (state : AssignmentManifestChainState) (publications : List (Publication M)) :
    List (Except ManifestError Bool) :=
  Offer.outcomes (receive version ed25519 policy) state publications

/-- The manifests that a validator accepts of a list of publications. -/
def acceptedManifests (state : AssignmentManifestChainState) (publications : List (Publication M)) : List M :=
  (Offer.taken (receive version ed25519 policy) (fun reprobe => !reprobe) state publications).map
    Publication.manifest

end Versions

/-- Two states are equal but for their counts and their digests. -/
def SameButCount (s t : AssignmentManifestChainState) : Prop :=
  { s with acceptedManifestCount := t.acceptedManifestCount, stateDigestSha256 := t.stateDigestSha256 } = t

/-- What keeps two states from being told apart by a manifest. -/
structure Twin (s t : AssignmentManifestChainState) : Prop where
  same : SameButCount s t
  left : s.Valid
  right : t.Valid
  leftCount : s.acceptedManifestCount ≠ 0
  rightCount : t.acceptedManifestCount ≠ 0

/-- Two such states are alike in every field that is read. -/
lemma SameButCount.exists {s t : AssignmentManifestChainState} (h : SameButCount s t) :
    ∃ c d, t = { s with acceptedManifestCount := c, stateDigestSha256 := d } :=
  ⟨_, _, h.symm⟩

lemma verifyChannel_same {s t : AssignmentManifestChainState} (h : SameButCount s t) {m : ManifestHeader}
    {policy : AssignmentManifestTrustPolicy} : verifyChannel s m policy = verifyChannel t m policy := by
  obtain ⟨c, d, rfl⟩ := h.exists
  rfl

lemma verifyPosition_twin {s t : AssignmentManifestChainState} (h : Twin s t) {m : ManifestHeader}
    {policy : AssignmentManifestTrustPolicy} : verifyPosition s m policy = verifyPosition t m policy := by
  unfold verifyPosition
  rw [if_neg h.leftCount, if_neg h.rightCount]
  obtain ⟨c, d, rfl⟩ := h.same.exists
  rfl

lemma successor_same {s t : AssignmentManifestChainState} (h : SameButCount s t) (m : ManifestHeader) :
    SameButCount (successor s m) (successor t m) := by
  obtain ⟨c, d, rfl⟩ := h.exists
  rfl

/-- A manifest that is new to a state has more before it than the state counts. -/
lemma Twin.successor_valid_iff {s t : AssignmentManifestChainState} (h : Twin s t) {m : ManifestHeader}
    {policy : AssignmentManifestTrustPolicy} (hposition : verifyPosition s m policy = .ok false) :
    (successor s m).Valid ↔ (successor t m).Valid := by
  rw [Manifest.successor_valid_iff h.left, Manifest.successor_valid_iff h.right]
  rcases verifyPosition_eq_false.mp hposition with ⟨hzero, -⟩ | ⟨-, hne, hnext⟩
  · exact absurd hzero h.leftCount
  · have hle := (verifyNext_eq_ok.mp hnext).1
    have hsequence : s.lastSequence = t.lastSequence := by
      obtain ⟨c, d, rfl⟩ := h.same.exists
      rfl
    have hs := h.left.count_le
    have ht := h.right.count_le
    constructor
    · rintro ⟨hkeep, -⟩
      exact ⟨hkeep, by omega⟩
    · rintro ⟨hkeep, -⟩
      exact ⟨hkeep, by omega⟩

/-- **Two states that differ in their counts and digests only answer every manifest alike**, and go on to states
of the same kind. -/
theorem advance_agrees {s t : AssignmentManifestChainState} (h : Twin s t) (m : ManifestHeader)
    (policy : AssignmentManifestTrustPolicy) :
    Offer.Agrees Twin (advanceManifestHeaderChainState s m policy)
      (advanceManifestHeaderChainState t m policy) := by
  unfold advanceManifestHeaderChainState
  rw [revalidate_eq_ok (u := ()) |>.mpr h.left, revalidate_eq_ok (u := ()) |>.mpr h.right,
    verifyChannel_same h.same, ← verifyPosition_twin h]
  cases hpolicy : revalidate AssignmentManifestTrustPolicy.Valid policy with
  | error e => rfl
  | ok _ =>
  cases hchannel : verifyChannel t m policy with
  | error e => rfl
  | ok _ =>
  cases hposition : verifyPosition s m policy with
  | error e => rfl
  | ok reprobe =>
  cases reprobe with
  | true => exact ⟨h, rfl⟩
  | false =>
    have hvalid := h.successor_valid_iff hposition
    by_cases hs : (successor s m).Valid
    · have ht := hvalid.mp hs
      have hstep : Twin (successor s m) (successor t m) :=
        ⟨successor_same h.same m, hs, ht, successor_count_ne_zero h.left m, successor_count_ne_zero h.right m⟩
      simp only [revalidate_eq_ok (u := ()) |>.mpr hs, revalidate_eq_ok (u := ()) |>.mpr ht]
      exact ⟨hstep, rfl⟩
    · have ht := mt hvalid.mpr hs
      simp only [revalidate_of_not hs, revalidate_of_not ht]
      rfl

section Versions

variable {M : Type} {version : Version M} {ed25519 : List UInt8 → List UInt8 → List UInt8 → Bool}
  {policy : AssignmentManifestTrustPolicy}

/-- What a validator answers to a publication it does not reject. -/
lemma verify_eq_ok {state : AssignmentManifestChainState} {publication : Publication M}
    {result : ManifestVerification M} (h : verify version ed25519 policy state publication = .ok result) :
    advanceManifestHeaderChainState state (version.header publication.manifest) policy =
      .ok (result.nextChainState, result.reprobe) := by
  simp only [verify, Except.bind_eq_ok] at h
  obtain ⟨_, -, ⟨next, reprobe⟩, hadvance, hresult⟩ := h
  obtain rfl := Except.ok.inj hresult
  exact hadvance

lemma receive_eq_ok {state next : AssignmentManifestChainState} {publication : Publication M} {reprobe : Bool}
    (h : receive version ed25519 policy state publication = .ok (next, reprobe)) :
    advanceManifestHeaderChainState state (version.header publication.manifest) policy = .ok (next, reprobe) := by
  unfold receive at h
  cases hverify : verify version ed25519 policy state publication with
  | error e =>
    rw [hverify] at h
    cases h
  | ok result =>
    rw [hverify] at h
    obtain ⟨rfl, rfl⟩ := Prod.mk.inj (Except.ok.inj h)
    exact verify_eq_ok hverify

/-- The answer to a publication depends on the state through the rules of the chain only. -/
lemma receive_eq (state : AssignmentManifestChainState) (publication : Publication M) :
    receive version ed25519 policy state publication =
      (verifyPublication version ed25519 policy publication >>= fun _ =>
        advanceManifestHeaderChainState state (version.header publication.manifest) policy) := by
  unfold receive verify
  cases verifyPublication version ed25519 policy publication with
  | error e => rfl
  | ok signed =>
    obtain ⟨signerIDs, roles⟩ := signed
    change Except.map _ (advanceManifestHeaderChainState _ _ _ >>= _) = advanceManifestHeaderChainState _ _ _
    cases advanceManifestHeaderChainState state (version.header publication.manifest) policy with
    | error e => rfl
    | ok next => rfl

/-- The answer to a publication that bears all other checks is that of the chain. -/
lemma receive_of_ok {state : AssignmentManifestChainState} {publication : Publication M}
    {signed : List String × List ManifestRole}
    (h : verifyPublication version ed25519 policy publication = .ok signed) :
    receive version ed25519 policy state publication =
      advanceManifestHeaderChainState state (version.header publication.manifest) policy := by
  rw [receive_eq, h]
  rfl

variable (version ed25519 policy) in
/-- Two validators in such states answer every publication alike. -/
lemma receive_agrees {s t : AssignmentManifestChainState} (h : Twin s t) (publication : Publication M) :
    Offer.Agrees Twin (receive version ed25519 policy s publication)
      (receive version ed25519 policy t publication) := by
  rw [receive_eq, receive_eq]
  cases verifyPublication version ed25519 policy publication with
  | error e => rfl
  | ok signed => exact advance_agrees h _ policy

variable (version ed25519 policy) in
/-- The history of a validator. -/
lemma validator_history {genesis : AssignmentManifestChainState} (hgenesis : Genesis genesis)
    (publications : List (Publication M)) :
    History (fun publication => version.header publication.manifest) policy
      (validatorState version ed25519 policy genesis publications)
      (Offer.taken (receive version ed25519 policy) (fun reprobe => !reprobe) genesis publications) := by
  rw [← List.nil_append (Offer.taken _ _ genesis publications)]
  refine Offer.taken_induction (J := History (fun publication => version.header publication.manifest) policy)
    ?_ ?_ (Genesis.history hgenesis) publications
  · intro state publication next reprobe chain h hreceive hfresh
    exact h.advance_fresh (receive_eq_ok hreceive) hfresh
  · intro state publication next reprobe chain h hreceive hagain
    exact h.advance_again (receive_eq_ok hreceive) hagain

/-- The state that onboarding leaves keeps what the manifest says, on the channel of the manifest. -/
lemma anchor_eq_ok {genesis : AssignmentManifestChainState} {publication : Publication M}
    {result : ManifestVerification M} (h : anchor version ed25519 policy genesis publication = .ok result) :
    result.nextChainState.Valid ∧ result.nextChainState.acceptedManifestCount ≠ 0 ∧
      Records result.nextChainState (version.header publication.manifest) ∧
      verifyChannel result.nextChainState (version.header publication.manifest) policy = .ok () := by
  simp only [anchor, Except.bind_eq_ok, revalidate_eq_ok, Except.reject_eq_ok, not_not] at h
  obtain ⟨_, -, _, hgenesis, _, hcount, h⟩ := h
  by_cases hfirst : (version.header publication.manifest).sequence = 1
  · rw [if_pos hfirst] at h
    have hadvance := verify_eq_ok h
    cases hreprobe : result.reprobe with
    | true =>
      rw [hreprobe] at hadvance
      obtain ⟨⟨-, -, -, hposition⟩, -⟩ := advance_eq_ok.mp hadvance
      exact absurd hcount (verifyPosition_eq_true.mp hposition).1
    | false =>
      rw [hreprobe] at hadvance
      obtain ⟨⟨-, -, hchannel, -⟩, hnext, hvalid⟩ := advance_eq_ok.mp hadvance
      rw [hnext]
      exact ⟨hvalid, successor_count_ne_zero hgenesis _, records_successor _ _, hchannel⟩
  · rw [if_neg hfirst] at h
    simp only [Except.bind_eq_ok, revalidate_eq_ok] at h
    obtain ⟨_, -, verified, hverified, _, hvalid, hresult⟩ := h
    obtain rfl := Except.ok.inj hresult
    obtain ⟨⟨-, -, hchannel, -⟩, -⟩ := advance_eq_ok.mp (verify_eq_ok hverified)
    have hone : (anchored genesis (version.header publication.manifest)).acceptedManifestCount ≠ 0 :=
      one_ne_zero
    exact ⟨hvalid, hone, ⟨rfl, rfl, rfl, rfl, rfl, rfl, rfl⟩, hchannel⟩

end Versions

/-- The channel of a state is that of any manifest it was verified against. -/
lemma verifyChannel_eq_ok {state : AssignmentManifestChainState} {m : ManifestHeader}
    {policy : AssignmentManifestTrustPolicy} {u : Unit} :
    verifyChannel state m policy = .ok u ↔
      (state.network.text = m.network ∧ state.netuid = m.netuid ∧
        state.centralAuthorityFingerprintSha256 = m.centralAuthorityFingerprintSha256) ∧
      state.trustPolicyDigestSha256 = m.trustPolicyDigestSha256 ∧
      state.trustPolicyDigestSha256 = policy.trustPolicyDigestSha256 := by
  simp only [verifyChannel, Except.bind_eq_ok, Except.reject_eq_ok, exists_const, ne_eq, not_or, not_not]

/-- The synthetic predecessor is a state, of a manifest that names another. -/
lemma predecessor_valid {genesis : AssignmentManifestChainState} (h : genesis.Valid) {m : ManifestHeader}
    (hm : m.Keepable) (hfirst : m.sequence ≠ 1) {d : String}
    (hprevious : m.previousManifestDigestSha256 = some d) (hd : hex64 d) : (predecessor genesis m).Valid := by
  obtain ⟨hpositive, hsequence, hheight, hhash, hepoch, hissued, hexpires, -⟩ := hm
  obtain ⟨⟨hauthority, hpolicy, -⟩, hnetwork, -, -⟩ := h
  have hbound : epoch (m.sequence - 1) := by
    simp only [epoch, count, Bool.and_eq_true, decide_eq_true_eq] at hsequence ⊢
    omega
  have hone : epoch 1 = true := by decide
  refine ⟨⟨hauthority, hpolicy, hone, hbound, ?_, ?_, ?_, ?_, ?_, ?_, hex64_digest _⟩, hnetwork, ?_,
    AssignmentManifestChainState.digest_sealed _⟩
  · simpa [predecessor, AssignmentManifestChainState.sealed] using hheight
  · simpa [predecessor, AssignmentManifestChainState.sealed] using hhash
  · simpa [predecessor, AssignmentManifestChainState.sealed] using hepoch
  · simpa [predecessor, AssignmentManifestChainState.sealed] using hissued
  · simpa [predecessor, AssignmentManifestChainState.sealed] using hexpires
  · simpa [predecessor, AssignmentManifestChainState.sealed, hprevious] using hd
  · have hcount : (predecessor genesis m).acceptedManifestCount ≠ 0 := one_ne_zero
    rw [AssignmentManifestChainState.Fits, if_neg hcount]
    refine ⟨?_, ?_, ?_⟩
    · change m.sequence - 1 ≠ 0
      omega
    · change 1 ≤ m.sequence - 1
      omega
    · simp [predecessor, AssignmentManifestChainState.sealed, AssignmentManifestChainState.absences, hprevious]

/-- The anchored state is a state. -/
lemma anchored_valid {genesis : AssignmentManifestChainState} (h : genesis.Valid) {m : ManifestHeader}
    (hm : m.Keepable) : (anchored genesis m).Valid := by
  obtain ⟨hpositive, hsequence, hheight, hhash, hepoch, hissued, hexpires, hdigest⟩ := hm
  obtain ⟨⟨hauthority, hpolicy, -⟩, hnetwork, -, -⟩ := h
  have hone : epoch 1 = true := by decide
  refine ⟨⟨hauthority, hpolicy, hone, hsequence, ?_, ?_, ?_, ?_, ?_, ?_, hex64_digest _⟩, hnetwork, ?_,
    AssignmentManifestChainState.digest_sealed _⟩
  · simpa [anchored, predecessor, AssignmentManifestChainState.sealed] using hheight
  · simpa [anchored, predecessor, AssignmentManifestChainState.sealed] using hhash
  · simpa [anchored, predecessor, AssignmentManifestChainState.sealed] using hepoch
  · simpa [anchored, predecessor, AssignmentManifestChainState.sealed] using hissued
  · simpa [anchored, predecessor, AssignmentManifestChainState.sealed] using hexpires
  · simpa [anchored, predecessor, AssignmentManifestChainState.sealed] using hdigest
  · have hcount : (anchored genesis m).acceptedManifestCount ≠ 0 := one_ne_zero
    rw [AssignmentManifestChainState.Fits, if_neg hcount]
    refine ⟨?_, hpositive, ?_⟩
    · change m.sequence ≠ 0
      omega
    · simp [anchored, predecessor, AssignmentManifestChainState.sealed, AssignmentManifestChainState.absences]

/-- A manifest comes after its synthetic predecessor. -/
lemma verifyPosition_predecessor {genesis : AssignmentManifestChainState} {m : ManifestHeader}
    {policy : AssignmentManifestTrustPolicy} (hpolicy : policy.Valid) :
    verifyPosition (predecessor genesis m) m policy = .ok false := by
  obtain ⟨⟨-, -, -, -, -, -, -, -, -, -, -, -, ⟨hgap, -⟩, ⟨hheightGap, -⟩, -⟩, -⟩ := hpolicy
  rw [verifyPosition_eq_false, verifyNext_eq_ok]
  refine Or.inr ⟨one_ne_zero, ?_, ?_, ?_, rfl, le_rfl, ?_, fun _ => ⟨rfl, rfl⟩, le_rfl, le_rfl⟩
  · change m.sequence ≠ m.sequence - 1
    omega
  · change m.sequence - 1 ≤ m.sequence
    omega
  · change m.sequence - (m.sequence - 1) ≤ policy.maxSequenceGap
    omega
  · change m.finalizedHeight - m.finalizedHeight ≤ policy.maxFinalizedHeightGap
    omega

/-- **Onboarding is always possible.** A validator without a history can be anchored on every publication that
bears the checks that do not depend on a history. -/
theorem anchors_of_published {M : Type} {version : Version M}
    {ed25519 : List UInt8 → List UInt8 → List UInt8 → Bool} {policy : AssignmentManifestTrustPolicy}
    {genesis : AssignmentManifestChainState} (hgenesis : Genesis genesis) (hpolicy : policy.Valid)
    {publication : Publication M} (hvalid : version.Valid publication.manifest)
    (hkeep : (version.header publication.manifest).Keepable)
    (hfirst : (version.header publication.manifest).sequence = 1 →
      (version.header publication.manifest).previousManifestDigestSha256 = none)
    (hlater : (version.header publication.manifest).sequence ≠ 1 →
      ∃ d, (version.header publication.manifest).previousManifestDigestSha256 = some d ∧ hex64 d)
    (hchannel : verifyChannel genesis (version.header publication.manifest) policy = .ok ())
    {signed : List String × List ManifestRole}
    (hsigned : verifyPublication version ed25519 policy publication = .ok signed) :
    ∃ result, anchor version ed25519 policy genesis publication = .ok result := by
  obtain ⟨hgenesisValid, hcount⟩ := hgenesis
  have hverify : ∀ state next reprobe,
      advanceManifestHeaderChainState state (version.header publication.manifest) policy = .ok (next, reprobe) →
      ∃ result, verify version ed25519 policy state publication = .ok result := by
    intro state next reprobe hadvance
    simp only [verify, hsigned, Except.bind_eq_ok]
    exact ⟨_, _, rfl, _, hadvance, rfl⟩
  simp only [anchor, Except.bind_eq_ok, revalidate_eq_ok, Except.reject_eq_ok, not_not]
  by_cases hone : (version.header publication.manifest).sequence = 1
  · have hadvance : advanceManifestHeaderChainState genesis (version.header publication.manifest) policy =
        .ok (successor genesis (version.header publication.manifest), false) := by
      have hsuccessor : (successor genesis (version.header publication.manifest)).Valid := by
        rw [successor_valid_iff hgenesisValid, hcount, hone]
        exact ⟨hkeep, le_rfl⟩
      rw [advance_eq_ok, verifyPosition_eq_false]
      exact ⟨⟨hgenesisValid, hpolicy, hchannel,
        Or.inl ⟨hcount, verifyFirst_eq_ok.mpr ⟨hone, hfirst hone⟩⟩⟩, rfl, hsuccessor⟩
    obtain ⟨result, hresult⟩ := hverify _ _ _ hadvance
    exact ⟨result, (), hvalid, (), hgenesisValid, (), hcount, by rw [if_pos hone]; exact hresult⟩
  · obtain ⟨d, hprevious, hd⟩ := hlater hone
    have hpredecessor := predecessor_valid hgenesisValid hkeep hone hprevious hd
    have hadvance : advanceManifestHeaderChainState
        (predecessor genesis (version.header publication.manifest)) (version.header publication.manifest) policy =
        .ok (successor (predecessor genesis (version.header publication.manifest))
          (version.header publication.manifest), false) := by
      have hsuccessor := (successor_valid_iff hpredecessor).mpr ⟨hkeep, by
        have hpositive := hkeep.1
        change 1 + 1 ≤ (version.header publication.manifest).sequence
        omega⟩
      rw [advance_eq_ok]
      exact ⟨⟨hpredecessor, hpolicy, hchannel, verifyPosition_predecessor hpolicy⟩, rfl, hsuccessor⟩
    obtain ⟨result, hresult⟩ := hverify _ _ _ hadvance
    refine ⟨{ result with
      nextChainState := anchored genesis (version.header publication.manifest)
      reprobe := false }, (), hvalid, (), hgenesisValid, (), hcount, ?_⟩
    rw [if_neg hone]
    simp only [Except.bind_eq_ok, revalidate_eq_ok]
    exact ⟨(), hpredecessor, result, hresult, (), anchored_valid hgenesisValid hkeep, rfl⟩

lemma text_injective : Function.Injective StaticScoring.Network.text := by
  intro a b h
  cases a <;> cases b <;> first | rfl | exact absurd h (by decide)

/-- Two states of one channel that keep the same manifest are equal but for their counts and digests. -/
lemma sameButCount_of_records {s t : AssignmentManifestChainState} {m : ManifestHeader}
    {policy : AssignmentManifestTrustPolicy} (hs : Records s m) (ht : Records t m)
    (hsChannel : verifyChannel s m policy = .ok ()) (htChannel : verifyChannel t m policy = .ok ()) :
    SameButCount s t := by
  obtain ⟨⟨hnetwork, hnetuid, hauthority⟩, hpolicy, -⟩ := verifyChannel_eq_ok.mp hsChannel
  obtain ⟨⟨hnetwork', hnetuid', hauthority'⟩, hpolicy', -⟩ := verifyChannel_eq_ok.mp htChannel
  have hsame := text_injective (hnetwork.trans hnetwork'.symm)
  cases s
  cases t
  obtain ⟨hsequence, hheight, hhash, hepoch, hissued, hexpires, hdigest⟩ := hs
  obtain ⟨hsequence', hheight', hhash', hepoch', hissued', hexpires', hdigest'⟩ := ht
  simp_all [SameButCount]

/-- **Onboarding is as good as a history.** Let the last manifest that a validator accepted, of all that were
published to it since its genesis state, be the one on which another validator, in a genesis state of its own,
is anchored under the same policy. Then the two answer every later list of publications alike, with the same
errors and the same repetitions, and their states stay equal but for the counts and the digests.

**Proof sketch.** Both states keep what the last manifest says, on its channel. What a validator answers depends
on nothing else of its state but on whether anything was accepted at all, and the count of a valid state never
exceeds its sequence number, so that it refuses no further manifest. -/
theorem anchor_simulates_history {M : Type} (version : Version M)
    (ed25519 : List UInt8 → List UInt8 → List UInt8 → Bool) (policy : AssignmentManifestTrustPolicy)
    {genesis fresh : AssignmentManifestChainState} (hgenesis : Genesis genesis)
    {publications : List (Publication M)} {publication : Publication M}
    (hlast : (acceptedManifests version ed25519 policy genesis publications).getLast? =
      some publication.manifest)
    {result : ManifestVerification M} (hanchor : anchor version ed25519 policy fresh publication = .ok result)
    (later : List (Publication M)) :
    let state := validatorState version ed25519 policy genesis publications
    validatorOutcomes version ed25519 policy state later =
        validatorOutcomes version ed25519 policy result.nextChainState later ∧
      SameButCount (validatorState version ed25519 policy state later)
        (validatorState version ed25519 policy result.nextChainState later) := by
  intro state
  have hhistory := validator_history version ed25519 policy hgenesis publications
  rw [acceptedManifests, List.getLast?_map, Option.map_eq_some_iff] at hlast
  obtain ⟨last, hmem, hmanifest⟩ := hlast
  obtain ⟨-, hcount, hrecords, hchannel⟩ := hhistory.tip last hmem
  simp only [hmanifest] at hrecords hchannel
  obtain ⟨hvalid', hcount', hrecords', hchannel'⟩ := anchor_eq_ok hanchor
  have htwin : Twin state result.nextChainState :=
    ⟨sameButCount_of_records hrecords hrecords' hchannel hchannel', hhistory.valid, hvalid', hcount, hcount'⟩
  have hsimulation :=
    Offer.simulation (fun s t publication h => receive_agrees version ed25519 policy h publication) htwin later
  exact ⟨hsimulation.1, hsimulation.2.same⟩

/-! ## A sample -/

namespace Sample

/-- A manifest of the sample, of no deployments. -/
def manifest (sequence : ℤ) (previous : Option String) : ActiveAssignmentManifestV2 :=
  ActiveAssignmentManifestV2.sealed
    { centralAuthorityFingerprintSha256 := policy.centralAuthorityFingerprintSha256
      trustPolicyDigestSha256 := policy.trustPolicyDigestSha256
      finalizedHeight := 100
      finalizedBlockHash := String.ofList (List.replicate 64 'b')
      finalizedEpoch := 1200
      sequence := sequence
      previousManifestDigestSha256 := previous
      issuedAtEpoch := 1200
      expiresAtEpoch := 1800
      routeHostSuffix := "on.miss.computer"
      probePort := 443
      deployments := []
      assignmentVectorDigestSha256 := digest (.arr [])
      manifestDigestSha256 := "" }

/-- The first manifest. -/
def genesisManifest : ActiveAssignmentManifestV2 := manifest 1 none

/-- The manifest after it. -/
def headManifest : ActiveAssignmentManifestV2 := manifest 2 (some genesisManifest.manifestDigestSha256)

/-- A signature of the sample: 64 zero bytes. -/
def envelope (m : ActiveAssignmentManifestV2) : AssignmentManifestSignatureEnvelope where
  signerKeyID := "issuer"
  manifestDigestSha256 := m.manifestDigestSha256
  signedMessageDigestSha256 := sha256Hex (organicManifestSignatureMessage m)
  signatureBase64 := String.ofList (List.replicate 86 'A' ++ ['=', '='])

/-- A publication of the sample. -/
def publication (m : ActiveAssignmentManifestV2) : Publication ActiveAssignmentManifestV2 where
  manifest := m
  signatures := [envelope m]
  evaluationEpoch := 1300
  currentFinalizedHeight := 100

/-- The signatures of the sample are taken for good. -/
def verifies : List UInt8 → List UInt8 → List UInt8 → Bool := fun _ _ _ => true

lemma decodes_envelope (m : ActiveAssignmentManifestV2) :
    decodeBase64 (envelope m).signatureBase64 64 = some (List.replicate 64 0) := by
  change decodeBase64 (String.ofList (List.replicate 86 'A' ++ ['=', '='])) 64 = _
  decide

lemma manifest_valid {sequence : ℤ} {previous : Option String} (hsequence : positiveCount sequence)
    (hfirst : sequence = 1 ↔ previous = none) (hprevious : ∀ d ∈ previous, hex64 d) :
    (manifest sequence previous).Valid := by
  have hheight : count 100 = true := by decide
  have hissued : count 1200 = true := by decide
  have hexpires : positiveCount 1800 = true := by decide
  have hhost : Organic.OrganicDeploymentAssignment.hostname "on.miss.computer" = true := by decide
  have hport : (1 : ℤ) ≤ 443 ∧ (443 : ℤ) ≤ 65535 := by decide
  have hwindow : (1200 : ℤ) < 1800 := by decide
  exact ⟨hex64_replicate (by decide), hex64_digest _, hheight, hex64_replicate (by decide), hissued, hsequence,
    hprevious, hissued, hexpires, hhost, hport, Nat.zero_le _, nofun, hex64_digest _, hex64_digest _, hwindow,
    hfirst, rfl, nofun, List.nodup_nil, rfl, ActiveAssignmentManifestV2.digest_sealed _⟩

lemma envelope_valid {sequence : ℤ} {previous : Option String} : (envelope (manifest sequence previous)).Valid := by
  have hkey : keyID "issuer" = true := by decide
  have hlength : (String.ofList (List.replicate 86 'A' ++ ['=', '='])).toList.length = 88 := by decide
  refine ⟨hkey, hex64_digest _, hex64_sha256Hex _, hlength, ?_⟩
  rw [decodes_envelope]
  rfl

lemma admission {sequence : ℤ} {previous : Option String} :
    verifyManifestPolicyAdmission (headerV2 (manifest sequence previous)) policy 1300 = .ok () := by
  have hepoch : epoch 1300 = true := by decide
  simp [verifyManifestPolicyAdmission, verifyPolicyBinding, Except.bind_eq_ok, hepoch, headerV2, manifest,
    ActiveAssignmentManifestV2.sealed, policy, AssignmentManifestTrustPolicy.sealed,
    StaticScoring.Network.text]

lemma signed {sequence : ℤ} {previous : Option String} :
    verifyManifestSignatures verifies (headerV2 (manifest sequence previous))
      (organicManifestSignatureMessage (manifest sequence previous)) [envelope (manifest sequence previous)] policy
      1300 = .ok (["issuer"], [.assignmentIssuer]) := by
  have hround : verifyEnvelope verifies (headerV2 (manifest sequence previous))
      (organicManifestSignatureMessage (manifest sequence previous)) policy 1300 ([], [])
      (envelope (manifest sequence previous)) = .ok (["issuer"], [.assignmentIssuer]) := by
    have hkey : policy.trustedKeys.find? (fun k => k.keyID = (envelope (manifest sequence previous)).signerKeyID) =
        some key := rfl
    unfold verifyEnvelope
    simp only [hkey, decodes_envelope, key_decodes]
    simp [Except.bind_eq_ok, envelope, headerV2, manifest, ActiveAssignmentManifestV2.sealed, key, verifies, pure,
      Except.pure]
  have hsorted : Sorting.sortedSet ["issuer"] = ["issuer"] := by decide
  have hids : Sorting.sortOn id ["issuer"] = ["issuer"] := by decide
  have hroles : sortedRoles [.assignmentIssuer] = [.assignmentIssuer] := by decide
  simp only [verifyManifestSignatures, Except.bind_eq_ok, Except.reject_eq_ok]
  refine ⟨(), ?_, (), ?_, (["issuer"], [.assignmentIssuer]), ?_, (), by decide, (), ?_, ?_⟩
  · simp [policy, AssignmentManifestTrustPolicy.sealed, key_decodes]
  · simp [envelope, hsorted]
  · rw [List.foldlM_cons, hround]
    rfl
  · simp [policy, AssignmentManifestTrustPolicy.sealed]
  · rw [hids, hroles]
    rfl

lemma published {sequence : ℤ} {previous : Option String} (h : (manifest sequence previous).Valid) :
    verifyPublication versionV2 verifies policy (publication (manifest sequence previous)) =
      .ok (["issuer"], [.assignmentIssuer]) := by
  have hepoch : epoch 1300 = true := by decide
  have hheight : epoch 100 = true := by decide
  have henvelopes : (publication (manifest sequence previous)).signatures.forM
      (revalidate AssignmentManifestSignatureEnvelope.Valid) = .ok () := by
    rw [Except.forM_eq_ok]
    intro e he
    obtain rfl := List.mem_singleton.mp he
    exact revalidate_eq_ok.mpr envelope_valid
  simp only [verifyPublication, verifySigned, Except.bind_eq_ok, Except.reject_eq_ok, revalidate_eq_ok]
  refine ⟨(), by simpa [publication] using hepoch, (), by simpa [publication] using hheight, (), policy_valid, (), h,
    (), henvelopes, (), by simp [publication], (), admission, (), rfl, (), ?_, (), ?_, signed⟩
  · have hexpiry : ¬ (1800 : ℤ) ≤ 1300 := by decide
    exact hexpiry
  · simp [versionV2, publication, manifest, ActiveAssignmentManifestV2.replicas, ActiveAssignmentManifestV2.sealed]

lemma genesisManifest_valid : genesisManifest.Valid := manifest_valid (by decide) (by simp) nofun

lemma headManifest_valid : headManifest.Valid := by
  refine manifest_valid (by decide) (by simp) ?_
  intro d hd
  obtain rfl := Option.some.inj hd
  exact hex64_digest _

/-- The state after the first manifest. -/
def afterGenesis : AssignmentManifestChainState := successor (initialState policy) (headerV2 genesisManifest)

/-- The state after both. -/
def afterHead : AssignmentManifestChainState := successor afterGenesis (headerV2 headManifest)

lemma keepable_manifest {sequence : ℤ} {previous : Option String} (h : 1 ≤ sequence ∧ epoch sequence) :
    (headerV2 (manifest sequence previous)).Keepable := by
  have hheight : epoch 100 = true := by decide
  have hissued : epoch 1200 = true := by decide
  have hexpires : epoch 1800 = true := by decide
  exact ⟨h.1, h.2, hheight, hex64_replicate (by decide), hissued, hissued, hexpires, hex64_digest _⟩

lemma verifyChannel_manifest {sequence : ℤ} {previous : Option String} :
    verifyChannel (initialState policy) (headerV2 (manifest sequence previous)) policy = .ok () := by
  simp [verifyChannel_eq_ok, initialState, AssignmentManifestChainState.sealed, headerV2, manifest,
    ActiveAssignmentManifestV2.sealed, policy, AssignmentManifestTrustPolicy.sealed, StaticScoring.Network.text]

lemma afterGenesis_valid : afterGenesis.Valid :=
  (successor_valid_iff (genesis_initialState policy_valid).1).mpr ⟨keepable_manifest (by decide), by decide⟩

lemma receive_genesis : receive versionV2 verifies policy (initialState policy) (publication genesisManifest) =
    .ok (afterGenesis, false) := by
  refine (receive_of_ok (published genesisManifest_valid)).trans ?_
  rw [advance_eq_ok, verifyPosition_eq_false]
  exact ⟨⟨(genesis_initialState policy_valid).1, policy_valid, verifyChannel_manifest, Or.inl ⟨rfl, rfl⟩⟩, rfl,
    afterGenesis_valid⟩

lemma receive_head : receive versionV2 verifies policy afterGenesis (publication headManifest) =
    .ok (afterHead, false) := by
  have hvalid : afterHead.Valid :=
    (successor_valid_iff afterGenesis_valid).mpr ⟨keepable_manifest (by decide), by decide⟩
  refine (receive_of_ok (published headManifest_valid)).trans ?_
  rw [advance_eq_ok, verifyPosition_eq_false]
  refine ⟨⟨afterGenesis_valid, policy_valid, verifyChannel_manifest, Or.inr ⟨by decide, by decide, ?_⟩⟩, rfl, hvalid⟩
  rw [verifyNext_eq_ok]
  exact ⟨by decide, by decide, rfl, le_rfl, by decide, fun _ => ⟨rfl, rfl⟩, le_rfl, le_rfl⟩

lemma anchors : ∃ result,
    anchor versionV2 verifies policy (initialState policy) (publication headManifest) = .ok result :=
  anchors_of_published (genesis_initialState policy_valid) policy_valid headManifest_valid
    (keepable_manifest (by decide)) (fun h => absurd h (by decide)) (fun _ => ⟨_, rfl, hex64_digest _⟩)
    verifyChannel_manifest (published headManifest_valid)

end Sample

/-- A validator that accepted two manifests, and one that was anchored on the second. -/
theorem anchor_simulates_history_sample : ∃ result,
    anchor versionV2 Sample.verifies Sample.policy (initialState Sample.policy)
      (Sample.publication Sample.headManifest) = .ok result ∧
    validatorOutcomes versionV2 Sample.verifies Sample.policy
        (validatorState versionV2 Sample.verifies Sample.policy (initialState Sample.policy)
          [Sample.publication Sample.genesisManifest, Sample.publication Sample.headManifest])
        [Sample.publication Sample.headManifest] =
      validatorOutcomes versionV2 Sample.verifies Sample.policy result.nextChainState
        [Sample.publication Sample.headManifest] := by
  obtain ⟨result, hresult⟩ := Sample.anchors
  refine ⟨result, hresult, (anchor_simulates_history versionV2 Sample.verifies Sample.policy
    (genesis_initialState Sample.policy_valid) ?_ hresult _).1⟩
  rw [acceptedManifests, Offer.taken_cons_of_ok Sample.receive_genesis rfl,
    Offer.taken_cons_of_ok Sample.receive_head rfl]
  rfl

end Manifest

end Misscomputer
