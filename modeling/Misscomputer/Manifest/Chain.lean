import Misscomputer.Lib.HashChain
import Misscomputer.Lib.Offer
import Misscomputer.Manifest.Trust

set_option relaxedAutoImplicit false
set_option autoImplicit false

/-!
# The chain of accepted manifests

The producer and every validator keep what the last manifest they accepted said. A manifest is accepted when it
is the first of the channel, or names the last accepted one and does not go back from it. The last accepted
manifest may be offered again.

## Main definitions

* `Manifest.AssignmentManifestChainState` — what is kept of the accepted manifests.
* `Manifest.advanceManifestHeaderChainState` — one offered manifest.
* `Manifest.Follows` — what an accepted manifest keeps of an earlier one.
* `Manifest.Genesis` — the states from which a chain starts.

## Main results

* `Manifest.advance_eq_ok` — what an offer that was not refused says of the manifest and of the next state.
* `Manifest.manifest_chain_agrees` — no equivocation: the accepted manifests never go back, the last of them is
  accepted again, and its digest determines all of them.

## References

* `src/misscomputer_subnet/assignment_probe.py` (`AssignmentManifestChainState`,
  `advance_manifest_header_chain_state`)
-/

namespace Misscomputer

namespace Manifest

open Contract
open Except (reject)
open StaticScoring (Network)

/-! ## The state -/

/-- `AssignmentManifestChainState`. -/
structure AssignmentManifestChainState where
  network : Network
  netuid : ℤ
  centralAuthorityFingerprintSha256 : String
  trustPolicyDigestSha256 : String
  acceptedManifestCount : ℤ
  lastSequence : ℤ
  lastFinalizedHeight : Option ℤ
  lastFinalizedBlockHash : Option String
  lastFinalizedEpoch : Option ℤ
  lastIssuedAtEpoch : Option ℤ
  lastExpiresAtEpoch : Option ℤ
  lastManifestDigestSha256 : Option String
  stateDigestSha256 : String
deriving DecidableEq

namespace AssignmentManifestChainState

/-- The members the digest covers. -/
def members (s : AssignmentManifestChainState) : List (String × Json) :=
  [("schema", text "miss.computer/misscomputer-subnet/assignment-manifest-chain-state"),
    ("schema_version", .num 1), ("purpose", text "active_assignment_manifest_publication_v1"),
    ("network", text s.network.text), ("netuid", .num s.netuid),
    ("central_authority_fingerprint_sha256", text s.centralAuthorityFingerprintSha256),
    ("trust_policy_digest_sha256", text s.trustPolicyDigestSha256),
    ("accepted_manifest_count", .num s.acceptedManifestCount), ("last_sequence", .num s.lastSequence),
    ("last_finalized_height", optional .num s.lastFinalizedHeight),
    ("last_finalized_block_hash", optional text s.lastFinalizedBlockHash),
    ("last_finalized_epoch", optional .num s.lastFinalizedEpoch),
    ("last_issued_at_epoch", optional .num s.lastIssuedAtEpoch),
    ("last_expires_at_epoch", optional .num s.lastExpiresAtEpoch),
    ("last_manifest_digest_sha256", optional text s.lastManifestDigestSha256)]

/-- The state with its digest. -/
def sealed (s : AssignmentManifestChainState) : AssignmentManifestChainState :=
  { s with stateDigestSha256 := digest (document s.members) }

lemma digest_sealed (s : AssignmentManifestChainState) :
    s.sealed.stateDigestSha256 = digest (document s.sealed.members) := rfl

/-- What the fields of a state may hold. -/
def Bounded (s : AssignmentManifestChainState) : Prop :=
  hex64 s.centralAuthorityFingerprintSha256 ∧ hex64 s.trustPolicyDigestSha256 ∧
    epoch s.acceptedManifestCount ∧ epoch s.lastSequence ∧ (∀ n ∈ s.lastFinalizedHeight, epoch n) ∧
    (∀ h ∈ s.lastFinalizedBlockHash, hex64 h) ∧ (∀ n ∈ s.lastFinalizedEpoch, epoch n) ∧
    (∀ n ∈ s.lastIssuedAtEpoch, epoch n) ∧ (∀ n ∈ s.lastExpiresAtEpoch, epoch n) ∧
    (∀ d ∈ s.lastManifestDigestSha256, hex64 d) ∧ hex64 s.stateDigestSha256

instance (s : AssignmentManifestChainState) : Decidable s.Bounded := by
  unfold Bounded
  infer_instance

/-- Which parts of `tail` are missing. -/
def absences (s : AssignmentManifestChainState) : List Bool :=
  [s.lastFinalizedHeight.isNone, s.lastFinalizedBlockHash.isNone, s.lastFinalizedEpoch.isNone,
    s.lastIssuedAtEpoch.isNone, s.lastExpiresAtEpoch.isNone, s.lastManifestDigestSha256.isNone]

/-- The counters and the tail of a state fit: of a genesis state all is empty, of another one nothing. -/
def Fits (s : AssignmentManifestChainState) : Prop :=
  if s.acceptedManifestCount = 0 then s.lastSequence = 0 ∧ ∀ absent ∈ s.absences, absent = true
  else s.lastSequence ≠ 0 ∧ s.acceptedManifestCount ≤ s.lastSequence ∧
    ∀ absent ∈ s.absences, absent = false

instance (s : AssignmentManifestChainState) : Decidable s.Fits := by
  unfold Fits
  infer_instance

/-- The values of the contract. -/
def Valid (s : AssignmentManifestChainState) : Prop :=
  s.Bounded ∧ (s.network, s.netuid) ∈ StaticScoring.networks ∧ s.Fits ∧
    s.stateDigestSha256 = digest (document s.members)

instance (s : AssignmentManifestChainState) : Decidable s.Valid := by
  unfold Valid
  infer_instance

end AssignmentManifestChainState

/-- The state of a channel of which nothing was accepted. -/
def initialState (policy : AssignmentManifestTrustPolicy) : AssignmentManifestChainState :=
  AssignmentManifestChainState.sealed
    { network := policy.network
      netuid := policy.netuid
      centralAuthorityFingerprintSha256 := policy.centralAuthorityFingerprintSha256
      trustPolicyDigestSha256 := policy.trustPolicyDigestSha256
      acceptedManifestCount := 0
      lastSequence := 0
      lastFinalizedHeight := none
      lastFinalizedBlockHash := none
      lastFinalizedEpoch := none
      lastIssuedAtEpoch := none
      lastExpiresAtEpoch := none
      lastManifestDigestSha256 := none
      stateDigestSha256 := "" }

/-- `build_initial_manifest_chain_state`. -/
def buildInitialManifestChainState (policy : AssignmentManifestTrustPolicy) :
    Except ManifestError AssignmentManifestChainState := do
  revalidate AssignmentManifestTrustPolicy.Valid policy
  revalidate AssignmentManifestChainState.Valid (initialState policy)
  return initialState policy

/-! ## One offer -/

/-- The state and the manifest are of one channel. -/
def verifyChannel (state : AssignmentManifestChainState) (manifest : ManifestHeader)
    (policy : AssignmentManifestTrustPolicy) : Except ManifestError Unit := do
  reject (state.network.text ≠ manifest.network ∨ state.netuid ≠ manifest.netuid ∨
    state.centralAuthorityFingerprintSha256 ≠ manifest.centralAuthorityFingerprintSha256)
    (.probe .authorityMismatch)
  reject (state.trustPolicyDigestSha256 ≠ manifest.trustPolicyDigestSha256 ∨
    state.trustPolicyDigestSha256 ≠ policy.trustPolicyDigestSha256) (.probe .trustPolicyMismatch)

/-- The rules of the first manifest of a channel. -/
def verifyFirst (manifest : ManifestHeader) : Except ManifestError Unit := do
  reject (manifest.sequence ≠ 1) (.probe .sequenceGap)
  reject (manifest.previousManifestDigestSha256 ≠ none) (.probe .previousLinkMismatch)

/-- The rules of a manifest that comes after the last accepted one. -/
def verifyNext (state : AssignmentManifestChainState) (manifest : ManifestHeader)
    (policy : AssignmentManifestTrustPolicy) : Except ManifestError Unit := do
  reject (manifest.sequence < state.lastSequence) (.probe .sequenceRollback)
  reject (policy.maxSequenceGap < manifest.sequence - state.lastSequence) (.probe .sequenceGap)
  reject (manifest.previousManifestDigestSha256 ≠ state.lastManifestDigestSha256)
    (.probe .previousLinkMismatch)
  let lastHeight := state.lastFinalizedHeight.getD 0
  let lastIssued := state.lastIssuedAtEpoch.getD 0
  reject (manifest.finalizedHeight < lastHeight) (.probe .finalizedHeightRollback)
  reject (policy.maxFinalizedHeightGap < manifest.finalizedHeight - lastHeight) (.probe .finalizedHeightGap)
  let lastEpoch := state.lastFinalizedEpoch.getD 0
  reject (manifest.finalizedHeight = lastHeight ∧
    (some manifest.finalizedBlockHash ≠ state.lastFinalizedBlockHash ∨ manifest.finalizedEpoch ≠ lastEpoch))
    (.probe .sameHeightFork)
  reject (manifest.finalizedEpoch < lastEpoch) (.probe .finalizedEpochRollback)
  reject (manifest.issuedAtEpoch < lastIssued) (.probe .issuedAtRollback)

/-- Whether the manifest is the last accepted one again, when it may be offered at all. -/
def verifyPosition (state : AssignmentManifestChainState) (manifest : ManifestHeader)
    (policy : AssignmentManifestTrustPolicy) : Except ManifestError Bool :=
  if state.acceptedManifestCount = 0 then do
    verifyFirst manifest
    return false
  else if manifest.sequence = state.lastSequence then do
    reject (some manifest.manifestDigestSha256 ≠ state.lastManifestDigestSha256)
      (.probe .sameSequenceDivergence)
    return true
  else do
    verifyNext state manifest policy
    return false

/-- The state after a manifest. -/
def successor (state : AssignmentManifestChainState) (manifest : ManifestHeader) :
    AssignmentManifestChainState :=
  AssignmentManifestChainState.sealed
    { state with
      acceptedManifestCount := state.acceptedManifestCount + 1
      lastSequence := manifest.sequence
      lastFinalizedHeight := some manifest.finalizedHeight
      lastFinalizedBlockHash := some manifest.finalizedBlockHash
      lastFinalizedEpoch := some manifest.finalizedEpoch
      lastIssuedAtEpoch := some manifest.issuedAtEpoch
      lastExpiresAtEpoch := some manifest.expiresAtEpoch
      lastManifestDigestSha256 := some manifest.manifestDigestSha256 }

/-- `advance_manifest_header_chain_state`. -/
def advanceManifestHeaderChainState (state : AssignmentManifestChainState) (manifest : ManifestHeader)
    (policy : AssignmentManifestTrustPolicy) : Except ManifestError (AssignmentManifestChainState × Bool) := do
  revalidate AssignmentManifestChainState.Valid state
  revalidate AssignmentManifestTrustPolicy.Valid policy
  verifyChannel state manifest policy
  let reprobe ← verifyPosition state manifest policy
  if reprobe then return (state, true)
  let next := successor state manifest
  revalidate AssignmentManifestChainState.Valid next
  return (next, false)

/-! ## What an offer that was not refused says -/

lemma revalidate_eq_ok {α : Type} {valid : α → Prop} [DecidablePred valid] {a : α} {u : Unit} :
    revalidate valid a = .ok u ↔ valid a := by
  rw [revalidate, Except.reject_eq_ok, not_not]

lemma revalidate_of_not {α : Type} {valid : α → Prop} [DecidablePred valid] {a : α} (h : ¬ valid a) :
    revalidate valid a = .error .contract :=
  if_pos h

/-- **One offer.** An offer that was not refused is the last accepted manifest again, or moves to the state
after it. -/
theorem advance_eq_ok {state next : AssignmentManifestChainState} {manifest : ManifestHeader}
    {policy : AssignmentManifestTrustPolicy} {reprobe : Bool} :
    advanceManifestHeaderChainState state manifest policy = .ok (next, reprobe) ↔
      (state.Valid ∧ policy.Valid ∧ verifyChannel state manifest policy = .ok () ∧
        verifyPosition state manifest policy = .ok reprobe) ∧
      if reprobe then next = state
      else next = successor state manifest ∧ (successor state manifest).Valid := by
  rw [advanceManifestHeaderChainState]
  simp only [Except.bind_eq_ok, revalidate_eq_ok]
  constructor
  · rintro ⟨_, hstate, _, hpolicy, _, hchannel, b, hposition, hnext⟩
    cases b with
    | true =>
      obtain ⟨rfl, rfl⟩ := Prod.mk.inj (Except.ok.inj hnext)
      exact ⟨⟨hstate, hpolicy, hchannel, hposition⟩, rfl⟩
    | false =>
      rw [if_neg Bool.false_ne_true, Except.bind_eq_ok] at hnext
      obtain ⟨_, hvalid, hnext⟩ := hnext
      obtain ⟨rfl, rfl⟩ := Prod.mk.inj (Except.ok.inj hnext)
      exact ⟨⟨hstate, hpolicy, hchannel, hposition⟩, rfl, revalidate_eq_ok.mp hvalid⟩
  · rintro ⟨⟨hstate, hpolicy, hchannel, hposition⟩, hnext⟩
    refine ⟨(), hstate, (), hpolicy, (), hchannel, reprobe, hposition, ?_⟩
    cases reprobe with
    | true =>
      obtain rfl : next = state := hnext
      rfl
    | false =>
      obtain ⟨rfl, hvalid⟩ : next = _ ∧ _ := hnext
      rw [if_neg Bool.false_ne_true, Except.bind_eq_ok]
      exact ⟨(), revalidate_eq_ok.mpr hvalid, rfl⟩

/-- The rules of the first manifest. -/
lemma verifyFirst_eq_ok {manifest : ManifestHeader} {u : Unit} :
    verifyFirst manifest = .ok u ↔ manifest.sequence = 1 ∧ manifest.previousManifestDigestSha256 = none := by
  simp [verifyFirst, Except.bind_eq_ok]

/-- The rules of a manifest that comes after the last accepted one. -/
lemma verifyNext_eq_ok {state : AssignmentManifestChainState} {manifest : ManifestHeader}
    {policy : AssignmentManifestTrustPolicy} {u : Unit} :
    verifyNext state manifest policy = .ok u ↔
      state.lastSequence ≤ manifest.sequence ∧
      manifest.sequence - state.lastSequence ≤ policy.maxSequenceGap ∧
      manifest.previousManifestDigestSha256 = state.lastManifestDigestSha256 ∧
      state.lastFinalizedHeight.getD 0 ≤ manifest.finalizedHeight ∧
      manifest.finalizedHeight - state.lastFinalizedHeight.getD 0 ≤ policy.maxFinalizedHeightGap ∧
      (manifest.finalizedHeight = state.lastFinalizedHeight.getD 0 →
        some manifest.finalizedBlockHash = state.lastFinalizedBlockHash ∧
        manifest.finalizedEpoch = state.lastFinalizedEpoch.getD 0) ∧
      state.lastFinalizedEpoch.getD 0 ≤ manifest.finalizedEpoch ∧
      state.lastIssuedAtEpoch.getD 0 ≤ manifest.issuedAtEpoch := by
  simp only [verifyNext, Except.bind_eq_ok, Except.reject_eq_ok, exists_const, not_lt, not_and, not_or,
    ne_eq, not_not]

/-- An offer of the last accepted manifest. -/
lemma verifyPosition_eq_true {state : AssignmentManifestChainState} {manifest : ManifestHeader}
    {policy : AssignmentManifestTrustPolicy} :
    verifyPosition state manifest policy = .ok true ↔
      state.acceptedManifestCount ≠ 0 ∧ manifest.sequence = state.lastSequence ∧
      some manifest.manifestDigestSha256 = state.lastManifestDigestSha256 := by
  unfold verifyPosition
  by_cases hcount : state.acceptedManifestCount = 0
  · simp [hcount, Except.bind_eq_ok, pure, Except.pure]
  · by_cases hsequence : manifest.sequence = state.lastSequence
    · simp [hcount, hsequence, Except.bind_eq_ok, pure, Except.pure]
    · simp [hcount, hsequence, Except.bind_eq_ok, pure, Except.pure]

/-- An offer of a manifest that is new. -/
lemma verifyPosition_eq_false {state : AssignmentManifestChainState} {manifest : ManifestHeader}
    {policy : AssignmentManifestTrustPolicy} :
    verifyPosition state manifest policy = .ok false ↔
      (state.acceptedManifestCount = 0 ∧ verifyFirst manifest = .ok ()) ∨
      (state.acceptedManifestCount ≠ 0 ∧ manifest.sequence ≠ state.lastSequence ∧
        verifyNext state manifest policy = .ok ()) := by
  unfold verifyPosition
  by_cases hcount : state.acceptedManifestCount = 0
  · simp [hcount, Except.bind_eq_ok, pure, Except.pure, Unique.exists_iff]
  · by_cases hsequence : manifest.sequence = state.lastSequence
    · simp [hcount, hsequence, Except.bind_eq_ok, pure, Except.pure]
    · simp [hcount, hsequence, Except.bind_eq_ok, pure, Except.pure, Unique.exists_iff]

/-- The channel of a state stays what it is. -/
lemma verifyChannel_successor {state : AssignmentManifestChainState} {manifest manifest' : ManifestHeader}
    {policy : AssignmentManifestTrustPolicy} :
    verifyChannel (successor state manifest) manifest' policy = verifyChannel state manifest' policy := rfl

/-- The fields of a header that a state keeps are values of its contract. -/
def ManifestHeader.Keepable (m : ManifestHeader) : Prop :=
  1 ≤ m.sequence ∧ epoch m.sequence ∧ epoch m.finalizedHeight ∧ hex64 m.finalizedBlockHash ∧
    epoch m.finalizedEpoch ∧ epoch m.issuedAtEpoch ∧ epoch m.expiresAtEpoch ∧ hex64 m.manifestDigestSha256

instance (m : ManifestHeader) : Decidable m.Keepable := by
  unfold ManifestHeader.Keepable
  infer_instance

/-- The count of a valid state is no negative number. -/
lemma AssignmentManifestChainState.Valid.count_nonneg {state : AssignmentManifestChainState}
    (h : state.Valid) : 0 ≤ state.acceptedManifestCount := by
  obtain ⟨⟨-, -, hcount, -⟩, -⟩ := h
  simp only [epoch, count, Bool.and_eq_true, decide_eq_true_eq] at hcount
  exact hcount.1

/-- The count of a valid state is at most its sequence number. -/
lemma AssignmentManifestChainState.Valid.count_le {state : AssignmentManifestChainState}
    (h : state.Valid) : state.acceptedManifestCount ≤ state.lastSequence := by
  obtain ⟨-, -, hfits, -⟩ := h
  unfold AssignmentManifestChainState.Fits at hfits
  by_cases hcount : state.acceptedManifestCount = 0
  · rw [if_pos hcount] at hfits
    rw [hcount, hfits.1]
  · rw [if_neg hcount] at hfits
    exact hfits.2.1

/-- The state after a manifest counts it. -/
lemma successor_count_ne_zero {state : AssignmentManifestChainState} (h : state.Valid) (m : ManifestHeader) :
    (successor state m).acceptedManifestCount ≠ 0 := by
  have hnonneg := h.count_nonneg
  change state.acceptedManifestCount + 1 ≠ 0
  omega

/-- When the state after a manifest is a value of its contract. -/
lemma successor_valid_iff {state : AssignmentManifestChainState} {m : ManifestHeader} (h : state.Valid) :
    (successor state m).Valid ↔ m.Keepable ∧ state.acceptedManifestCount + 1 ≤ m.sequence := by
  have hnonneg := h.count_nonneg
  have hcount : state.acceptedManifestCount + 1 ≠ 0 := by omega
  have hfits : (successor state m).Fits ↔ m.sequence ≠ 0 ∧ state.acceptedManifestCount + 1 ≤ m.sequence := by
    change (if state.acceptedManifestCount + 1 = 0 then _ else _) ↔ _
    rw [if_neg hcount]
    simp [AssignmentManifestChainState.absences, successor, AssignmentManifestChainState.sealed]
  constructor
  · rintro ⟨⟨-, -, -, hsequence, hheight, hhash, hepoch, hissued, hexpires, hdigest, -⟩, -, hvalid, -⟩
    obtain ⟨-, hle⟩ := hfits.mp hvalid
    exact ⟨⟨by omega, hsequence, hheight _ rfl, hhash _ rfl, hepoch _ rfl, hissued _ rfl, hexpires _ rfl,
      hdigest _ rfl⟩, hle⟩
  · rintro ⟨⟨hpositive, hsequence, hheight, hhash, hepoch, hissued, hexpires, hdigest⟩, hle⟩
    obtain ⟨⟨hauthority, hpolicy, -⟩, hnetwork, -, -⟩ := h
    have hbound : epoch (state.acceptedManifestCount + 1) := by
      simp only [epoch, count, Bool.and_eq_true, decide_eq_true_eq] at hsequence ⊢
      omega
    refine ⟨⟨hauthority, hpolicy, hbound, hsequence, ?_, ?_, ?_, ?_, ?_, ?_, hex64_digest _⟩, hnetwork,
      hfits.mpr ⟨by omega, hle⟩, AssignmentManifestChainState.digest_sealed _⟩
    all_goals
      intro value hvalue
      obtain rfl := Option.some.inj hvalue
      assumption

/-! ## Histories -/

/-- A state from which a chain starts. -/
def Genesis (state : AssignmentManifestChainState) : Prop := state.Valid ∧ state.acceptedManifestCount = 0

/-- What a manifest keeps of one that was accepted before it. -/
structure Follows (earlier later : ManifestHeader) : Prop where
  sequence : earlier.sequence < later.sequence
  height : earlier.finalizedHeight ≤ later.finalizedHeight
  finalizedEpoch : earlier.finalizedEpoch ≤ later.finalizedEpoch
  issued : earlier.issuedAtEpoch ≤ later.issuedAtEpoch
  fork : later.finalizedHeight = earlier.finalizedHeight →
    later.finalizedBlockHash = earlier.finalizedBlockHash ∧ later.finalizedEpoch = earlier.finalizedEpoch

/-- `Follows` is transitive: where the height is the same at the ends, it is the same between them. -/
lemma Follows.trans {a b c : ManifestHeader} (hab : Follows a b) (hbc : Follows b c) : Follows a c where
  sequence := hab.sequence.trans hbc.sequence
  height := hab.height.trans hbc.height
  finalizedEpoch := hab.finalizedEpoch.trans hbc.finalizedEpoch
  issued := hab.issued.trans hbc.issued
  fork := by
    intro heq
    have hfirst : b.finalizedHeight = a.finalizedHeight := by
      have := hab.height
      have := hbc.height
      omega
    obtain ⟨hhash, hepoch⟩ := hab.fork hfirst
    obtain ⟨hhash', hepoch'⟩ := hbc.fork (heq.trans hfirst.symm)
    exact ⟨hhash'.trans hhash, hepoch'.trans hepoch⟩

/-- The state keeps what the manifest says. -/
structure Records (state : AssignmentManifestChainState) (manifest : ManifestHeader) : Prop where
  sequence : state.lastSequence = manifest.sequence
  height : state.lastFinalizedHeight = some manifest.finalizedHeight
  blockHash : state.lastFinalizedBlockHash = some manifest.finalizedBlockHash
  finalizedEpoch : state.lastFinalizedEpoch = some manifest.finalizedEpoch
  issued : state.lastIssuedAtEpoch = some manifest.issuedAtEpoch
  expires : state.lastExpiresAtEpoch = some manifest.expiresAtEpoch
  digest : state.lastManifestDigestSha256 = some manifest.manifestDigestSha256

lemma records_successor (state : AssignmentManifestChainState) (manifest : ManifestHeader) :
    Records (successor state manifest) manifest :=
  ⟨rfl, rfl, rfl, rfl, rfl, rfl, rfl⟩

/-- A manifest that is accepted after another follows it. -/
lemma Records.follows {state : AssignmentManifestChainState} {last manifest : ManifestHeader}
    {policy : AssignmentManifestTrustPolicy} (h : Records state last)
    (hsequence : manifest.sequence ≠ state.lastSequence)
    (hnext : verifyNext state manifest policy = .ok ()) : Follows last manifest := by
  rw [verifyNext_eq_ok] at hnext
  obtain ⟨hle, -, -, hheight, -, hfork, hepoch, hissued⟩ := hnext
  simp only [h.height, h.blockHash, h.finalizedEpoch, h.issued, Option.getD_some, Option.some.injEq] at *
  refine ⟨?_, hheight, hepoch, hissued, hfork⟩
  rw [h.sequence] at hle hsequence
  omega

/-- A valid state that accepted nothing keeps no digest. -/
lemma Genesis.lastManifestDigest {state : AssignmentManifestChainState} (h : Genesis state) :
    state.lastManifestDigestSha256 = none := by
  obtain ⟨⟨-, -, hfits, -⟩, hcount⟩ := h
  rw [AssignmentManifestChainState.Fits, if_pos hcount] at hfits
  have habsent := hfits.2 state.lastManifestDigestSha256.isNone (by simp [AssignmentManifestChainState.absences])
  exact Option.isNone_iff_eq_none.mp habsent

/-- The initial state of a valid policy is one. -/
lemma genesis_initialState {policy : AssignmentManifestTrustPolicy} (h : policy.Valid) :
    Genesis (initialState policy) := by
  obtain ⟨⟨hauthority, hbounded⟩, hnetwork, -⟩ := h
  obtain ⟨-, -, -, -, -, -, -, -, -, -, -, -, -, -, -, -, -, -, -, -, hdigest⟩ := hbounded
  have hzero : epoch 0 = true := by decide
  refine ⟨⟨⟨hauthority, hdigest, hzero, hzero, nofun, nofun, nofun, nofun, nofun, nofun, hex64_digest _⟩, hnetwork,
    ?_, AssignmentManifestChainState.digest_sealed _⟩, rfl⟩
  have hcount : (initialState policy).acceptedManifestCount = 0 := rfl
  rw [AssignmentManifestChainState.Fits, if_pos hcount]
  simp [initialState, AssignmentManifestChainState.sealed, AssignmentManifestChainState.absences]

/-- **Every policy has a genesis state.** -/
theorem buildInitialManifestChainState_eq_ok {policy : AssignmentManifestTrustPolicy}
    {state : AssignmentManifestChainState} :
    buildInitialManifestChainState policy = .ok state ↔ policy.Valid ∧ state = initialState policy := by
  simp only [buildInitialManifestChainState, Except.bind_eq_ok, revalidate_eq_ok, exists_const]
  constructor
  · rintro ⟨hpolicy, -, hstate⟩
    exact ⟨hpolicy, (Except.ok.inj hstate).symm⟩
  · rintro ⟨hpolicy, rfl⟩
    exact ⟨hpolicy, (genesis_initialState hpolicy).1, rfl⟩

section Runs

variable {M : Type} (header : M → ManifestHeader) (policy : AssignmentManifestTrustPolicy)

/-- The state after a run of offers. A rejected one leaves the state as it was. -/
def chainState (genesis : AssignmentManifestChainState) (offers : List M) : AssignmentManifestChainState :=
  Offer.run (fun state m => advanceManifestHeaderChainState state (header m) policy) genesis offers

/-- The manifests that a run accepted; that the last one was offered again is no further acceptance. -/
def accepted (genesis : AssignmentManifestChainState) (offers : List M) : List M :=
  Offer.taken (fun state m => advanceManifestHeaderChainState state (header m) policy) (fun reprobe => !reprobe)
    genesis offers

lemma chainState_cons_of_ok {state next : AssignmentManifestChainState} {m : M} {offers : List M} {b : Bool}
    (h : advanceManifestHeaderChainState state (header m) policy = .ok (next, b)) :
    chainState header policy state (m :: offers) = chainState header policy next offers :=
  Offer.run_cons_of_ok h

lemma chainState_cons_of_error {state : AssignmentManifestChainState} {m : M} {offers : List M} {e : ManifestError}
    (h : advanceManifestHeaderChainState state (header m) policy = .error e) :
    chainState header policy state (m :: offers) = chainState header policy state offers :=
  Offer.run_cons_of_error h

/-- What the state of a run and the manifests accepted in it have to do with each other. -/
structure History (state : AssignmentManifestChainState) (chain : List M) : Prop where
  valid : state.Valid
  empty : chain = [] → state.acceptedManifestCount = 0
  ordered : chain.Pairwise fun a b => Follows (header a) (header b)
  linked : HashChain.Linked (fun m => (header m).manifestDigestSha256)
    (fun m => (header m).previousManifestDigestSha256) chain.reverse state.lastManifestDigestSha256
  tip : ∀ m ∈ chain.getLast?, policy.Valid ∧ state.acceptedManifestCount ≠ 0 ∧ Records state (header m) ∧
    verifyChannel state (header m) policy = .ok ()

variable {header policy}

lemma Genesis.history {genesis : AssignmentManifestChainState} (h : Genesis genesis) :
    History header policy genesis [] where
  valid := h.1
  empty := fun _ => h.2
  ordered := List.Pairwise.nil
  linked := h.lastManifestDigest
  tip := by simp

/-- Every accepted manifest is the last one or followed by it. -/
lemma History.follows_getLast {state : AssignmentManifestChainState} {chain : List M} {a : M}
    (h : History header policy state chain) (ha : a ∈ chain) :
    a = chain.getLast (List.ne_nil_of_mem ha) ∨
      Follows (header a) (header (chain.getLast (List.ne_nil_of_mem ha))) := by
  have hsplit := List.dropLast_append_getLast (List.ne_nil_of_mem ha)
  have hordered := h.ordered
  rw [← hsplit, List.pairwise_append] at hordered
  obtain hinit | hend := List.mem_append.mp (hsplit ▸ ha)
  · exact Or.inr (hordered.2.2 a hinit _ (List.mem_singleton_self _))
  · exact Or.inl (List.mem_singleton.mp hend)

/-- An accepted manifest extends the history.

**Proof sketch.** After a genesis state the manifest names no other. Otherwise the state keeps what the last
accepted manifest says, which the new one names and follows, and through it all earlier ones. -/
lemma History.extend {state : AssignmentManifestChainState} {chain : List M} {m : M}
    (h : History header policy state chain) (hvalid : (successor state (header m)).Valid)
    (hpolicy : policy.Valid) (hchannel : verifyChannel state (header m) policy = .ok ())
    (hposition : verifyPosition state (header m) policy = .ok false) :
    History header policy (successor state (header m)) (chain ++ [m]) := by
  have hcount := successor_count_ne_zero h.valid (header m)
  rw [verifyPosition_eq_false] at hposition
  -- The last accepted manifest, if there is one, is what the new one follows and names.
  have hlast : ∀ a ∈ chain.getLast?, Follows (header a) (header m) := by
    intro a ha
    obtain ⟨-, hnonzero, hrecords, -⟩ := h.tip a ha
    rcases hposition with ⟨hzero, -⟩ | ⟨-, hsequence, hnext⟩
    · exact absurd hzero hnonzero
    · exact hrecords.follows hsequence hnext
  have hprevious : (header m).previousManifestDigestSha256 = state.lastManifestDigestSha256 := by
    rcases hposition with ⟨hzero, hfirst⟩ | ⟨-, -, hnext⟩
    · rw [Genesis.lastManifestDigest ⟨h.valid, hzero⟩]
      exact (verifyFirst_eq_ok.mp hfirst).2
    · exact (verifyNext_eq_ok.mp hnext).2.2.1
  refine ⟨hvalid, by simp, ?_, ?_, ?_⟩
  · rw [List.pairwise_append]
    refine ⟨h.ordered, List.pairwise_singleton _ _, ?_⟩
    intro a ha b hb
    obtain rfl := List.mem_singleton.mp hb
    have hfollows := hlast (chain.getLast (List.ne_nil_of_mem ha)) (List.getLast_mem_getLast? _)
    obtain heq | hbefore := h.follows_getLast ha
    · rwa [heq]
    · exact hbefore.trans hfollows
  · have hlinked := h.linked
    rw [← hprevious] at hlinked
    rw [List.reverse_append]
    exact ⟨rfl, hlinked⟩
  · intro a ha
    rw [List.getLast?_concat, Option.mem_some_iff] at ha
    subst ha
    exact ⟨hpolicy, hcount, records_successor _ _, hchannel⟩

/-- A manifest that is accepted for the first time extends the history. -/
lemma History.advance_fresh {state next : AssignmentManifestChainState} {chain : List M} {m : M} {reprobe : Bool}
    (h : History header policy state chain)
    (hadvance : advanceManifestHeaderChainState state (header m) policy = .ok (next, reprobe))
    (hfresh : !reprobe) : History header policy next (chain ++ [m]) := by
  obtain rfl : reprobe = false := by simpa using hfresh
  obtain ⟨⟨-, hpolicy, hchannel, hposition⟩, rfl, hvalid⟩ := advance_eq_ok.mp hadvance
  exact h.extend hvalid hpolicy hchannel hposition

/-- A manifest that is accepted again leaves the history as it is. -/
lemma History.advance_again {state next : AssignmentManifestChainState} {chain : List M} {m : M} {reprobe : Bool}
    (h : History header policy state chain)
    (hadvance : advanceManifestHeaderChainState state (header m) policy = .ok (next, reprobe))
    (hagain : ¬ !reprobe) : History header policy next chain := by
  obtain rfl : reprobe = true := by simpa using hagain
  obtain ⟨-, rfl⟩ := advance_eq_ok.mp hadvance
  exact h

variable (header policy) in
/-- **The history of a run.** Every offer keeps it: a rejected one and one that is made again change nothing. -/
lemma history {genesis : AssignmentManifestChainState} (hgenesis : Genesis genesis) (offers : List M) :
    History header policy (chainState header policy genesis offers) (accepted header policy genesis offers) := by
  rw [← List.nil_append (accepted header policy genesis offers)]
  refine Offer.taken_induction (J := History header policy) ?_ ?_ (Genesis.history hgenesis) offers
  · intro state m next reprobe chain h hadvance hfresh
    exact h.advance_fresh hadvance hfresh
  · intro state m next reprobe chain h hadvance hagain
    exact h.advance_again hadvance hagain

/-- The last accepted manifest is accepted again, and changes nothing. -/
lemma History.reprobe {state : AssignmentManifestChainState} {chain : List M}
    (h : History header policy state chain) {m : M} (hm : m ∈ chain.getLast?) :
    advanceManifestHeaderChainState state (header m) policy = .ok (state, true) := by
  obtain ⟨hpolicy, hcount, hrecords, hchannel⟩ := h.tip m hm
  rw [advance_eq_ok, verifyPosition_eq_true]
  exact ⟨⟨h.valid, hpolicy, hchannel, hcount, hrecords.sequence.symm, hrecords.digest.symm⟩, rfl⟩

/-- **No equivocation.** In every run from a genesis state the accepted manifests follow each other: their
sequence numbers increase, their heights, epochs and issue times never go back, and at one height they name one
block and one epoch. The last of them is accepted again and leaves the state as it is. Where no two offered
manifests share a digest, two runs that end with the same last digest accepted the same manifests.

**Proof sketch.** The first two parts are read off the history of a run. For the third, both histories are
chains linked by digests with the same head. -/
theorem manifest_chain_agrees {M : Type} (header : M → ManifestHeader)
    (policy : AssignmentManifestTrustPolicy) :
    (∀ genesis offers, Genesis genesis →
      (accepted header policy genesis offers).Pairwise (fun a b => Follows (header a) (header b)) ∧
      ∀ m ∈ (accepted header policy genesis offers).getLast?,
        advanceManifestHeaderChainState (chainState header policy genesis offers) (header m) policy =
          .ok (chainState header policy genesis offers, true)) ∧
    ∀ genesis genesis' offers offers', Genesis genesis → Genesis genesis' →
      (∀ a ∈ offers, ∀ b ∈ offers',
        (header a).manifestDigestSha256 = (header b).manifestDigestSha256 → a = b) →
      (chainState header policy genesis offers).lastManifestDigestSha256 =
        (chainState header policy genesis' offers').lastManifestDigestSha256 →
      accepted header policy genesis offers = accepted header policy genesis' offers' := by
  refine ⟨fun genesis offers hgenesis => ?_, fun genesis genesis' offers offers' hgenesis hgenesis' hinj hlast => ?_⟩
  · have h := history header policy hgenesis offers
    exact ⟨h.ordered, fun m hm => h.reprobe hm⟩
  · have hlinked := (history header policy hgenesis offers).linked
    have hlinked' := (history header policy hgenesis' offers').linked
    rw [hlast] at hlinked
    apply List.reverse_injective
    apply hlinked.unique hlinked'
    intro a ha b hb
    exact hinj a (Offer.mem_of_mem_taken (List.mem_reverse.mp ha)) b
      (Offer.mem_of_mem_taken (List.mem_reverse.mp hb))

end Runs

/-! ## A sample run -/

namespace Sample

/-- The header of a manifest of the sample. -/
def header (sequence : ℤ) (previous : Option Char) (digest : Char) : ManifestHeader where
  network := "finney"
  netuid := 24
  centralAuthorityFingerprintSha256 := policy.centralAuthorityFingerprintSha256
  trustPolicyDigestSha256 := policy.trustPolicyDigestSha256
  finalizedHeight := 100
  finalizedBlockHash := String.ofList (List.replicate 64 'b')
  finalizedEpoch := 1200
  sequence := sequence
  previousManifestDigestSha256 := previous.map fun c => String.ofList (List.replicate 64 c)
  issuedAtEpoch := 1200
  expiresAtEpoch := 1800
  routeHostSuffix := "on.miss.computer"
  probeScheme := "https"
  manifestDigestSha256 := String.ofList (List.replicate 64 digest)

/-- The first manifest. -/
def first : ManifestHeader := header 1 none '1'

/-- A manifest that names the first and skips a sequence number. -/
def third : ManifestHeader := header 3 (some '1') '3'

/-- A manifest that names none of them. -/
def stranger : ManifestHeader := header 4 (some '0') '4'

lemma keepable (sequence : ℤ) (previous : Option Char) (digest : Char) (h : 1 ≤ sequence ∧ epoch sequence)
    (hdigest : Protocol.hexDigit digest = true) : (header sequence previous digest).Keepable := by
  have hheight : epoch 100 = true := by decide
  have hissued : epoch 1200 = true := by decide
  have hexpires : epoch 1800 = true := by decide
  exact ⟨h.1, h.2, hheight, hex64_replicate (by decide), hissued, hissued, hexpires, hex64_replicate hdigest⟩

lemma verifyChannel_header {sequence : ℤ} {previous : Option Char} {digest : Char} :
    verifyChannel (initialState policy) (header sequence previous digest) policy = .ok () := by
  simp [verifyChannel, Except.bind_eq_ok, initialState, AssignmentManifestChainState.sealed, header, policy,
    AssignmentManifestTrustPolicy.sealed, Network.text]

/-- The state after the first manifest. -/
def afterFirst : AssignmentManifestChainState := successor (initialState policy) first

lemma afterFirst_valid : afterFirst.Valid :=
  (successor_valid_iff (genesis_initialState policy_valid).1).mpr
    ⟨keepable 1 none '1' (by decide) (by decide), by decide⟩

lemma advance_first : advanceManifestHeaderChainState (initialState policy) first policy =
    .ok (afterFirst, false) := by
  rw [advance_eq_ok, verifyPosition_eq_false]
  exact ⟨⟨(genesis_initialState policy_valid).1, policy_valid, verifyChannel_header, Or.inl ⟨rfl, rfl⟩⟩, rfl,
    afterFirst_valid⟩

/-- The state after the third manifest. -/
def afterThird : AssignmentManifestChainState := successor afterFirst third

lemma advance_third : advanceManifestHeaderChainState afterFirst third policy = .ok (afterThird, false) := by
  rw [advance_eq_ok, verifyPosition_eq_false]
  have hvalid : afterThird.Valid :=
    (successor_valid_iff afterFirst_valid).mpr ⟨keepable 3 (some '1') '3' (by decide) (by decide), by decide⟩
  refine ⟨⟨afterFirst_valid, policy_valid, verifyChannel_header, Or.inr ⟨by decide, by decide, ?_⟩⟩, rfl, hvalid⟩
  rw [verifyNext_eq_ok]
  refine ⟨by decide, by decide, rfl, le_rfl, by decide, fun _ => ⟨rfl, rfl⟩, le_rfl, le_rfl⟩

lemma advance_first_again : advanceManifestHeaderChainState afterFirst first policy = .ok (afterFirst, true) := by
  rw [advance_eq_ok, verifyPosition_eq_true]
  exact ⟨⟨afterFirst_valid, policy_valid, verifyChannel_header, by decide, rfl, rfl⟩, rfl⟩

lemma advance_stranger : advanceManifestHeaderChainState afterFirst stranger policy =
    .error (.probe .previousLinkMismatch) := by
  have hposition : verifyPosition afterFirst stranger policy = .error (.probe .previousLinkMismatch) := by
    decide
  rw [advanceManifestHeaderChainState, revalidate_eq_ok (u := ()) |>.mpr afterFirst_valid,
    revalidate_eq_ok (u := ()) |>.mpr policy_valid,
    show verifyChannel afterFirst stranger policy = .ok () from verifyChannel_header, hposition]
  rfl

/-- Two digests of the samples are equal when their characters are. -/
lemma digest_injective {c d : Char}
    (h : String.ofList (List.replicate 64 c) = String.ofList (List.replicate 64 d)) : c = d := by
  have hlist := congrArg String.toList h
  rw [String.toList_ofList, String.toList_ofList] at hlist
  exact List.eq_of_mem_replicate (hlist ▸ List.mem_replicate.mpr ⟨by decide, rfl⟩)

/-- The manifests that the validators were offered have different digests. -/
lemma digests_apart : ∀ a ∈ [first, third], ∀ b ∈ [first, stranger, first, third],
    a.manifestDigestSha256 = b.manifestDigestSha256 → a = b := by
  intro a ha b hb h
  simp only [List.mem_cons, List.not_mem_nil, or_false] at ha hb
  rcases ha with rfl | rfl <;> rcases hb with rfl | rfl | rfl | rfl
  · rfl
  · exact absurd (digest_injective h) (by decide)
  · rfl
  · exact absurd (digest_injective h) (by decide)
  · exact absurd (digest_injective h) (by decide)
  · exact absurd (digest_injective h) (by decide)
  · exact absurd (digest_injective h) (by decide)
  · rfl

end Sample

/-- Two validators, one of which was offered the first manifest twice and a manifest that names neither. -/
theorem manifest_chain_agrees_sample :
    accepted id Sample.policy (initialState Sample.policy) [Sample.first, Sample.third] =
      accepted id Sample.policy (initialState Sample.policy)
        [Sample.first, Sample.stranger, Sample.first, Sample.third] := by
  have hgenesis := genesis_initialState Sample.policy_valid
  refine (manifest_chain_agrees id Sample.policy).2 _ _ _ _ hgenesis hgenesis ?_ ?_
  · exact Sample.digests_apart
  · rw [chainState_cons_of_ok (m := Sample.first) id _ Sample.advance_first,
      chainState_cons_of_ok (m := Sample.third) id _ Sample.advance_third,
      chainState_cons_of_ok (m := Sample.first) id _ Sample.advance_first,
      chainState_cons_of_error (m := Sample.stranger) id _ Sample.advance_stranger,
      chainState_cons_of_ok (m := Sample.first) id _ Sample.advance_first_again,
      chainState_cons_of_ok (m := Sample.third) id _ Sample.advance_third]

end Manifest

end Misscomputer
